import StudyGraph.Terminal.Pattern.Expression

/-!
# Reading patterns

A `Reader` stands at a place of a written pattern; `Expression.read` reads all of it. Blanks and
comments count for nothing where a flag says so (`verbose`), so most steps are made by `advance`,
which passes them. Reading recurs on a bound for the characters that are left.
-/

namespace StudyGraph.Pattern

/-! ## Readers -/

/-- A place in a written pattern, with what is read before it. -/
structure Reader where
  /-- What is left of the pattern. -/
  rest : Text
  /-- The place. -/
  position : Position
  /-- Blanks and comments count for nothing. -/
  verbose : Bool
  /-- The names of groups, and where they stand. -/
  names : List (Text × Stretch)

namespace Reader

/-- The start of a pattern. -/
def start (t : Text) : Reader :=
  ⟨t, .start, false, []⟩

/-- Pass a character. -/
def pass (r : Reader) : Reader :=
  match r.rest with
  | [] => r
  | c :: t => { r with rest := t, position := r.position.behind c }

/-- Pass `n` characters. -/
def passMany (n : Nat) (r : Reader) : Reader :=
  Nat.repeat pass n r

/-- What is left behind blanks and comments, and its place. -/
def behindBlanks (comment : Bool) (position : Position) : Text → Text × Position
  | [] => ([], position)
  | c :: t =>
    if comment then behindBlanks (c != '\n') (position.behind c) t
    else if Text.isBlank c then behindBlanks false (position.behind c) t
    else if c = '#' then behindBlanks true (position.behind c) t
    else (c :: t, position)

/-- Pass blanks and comments, if they count for nothing. -/
def passBlanks (r : Reader) : Reader :=
  if r.verbose then
    let (rest, position) := behindBlanks false r.position r.rest
    { r with rest, position }
  else r

/-- Pass a character, and blanks and comments behind it. -/
def advance (r : Reader) : Reader :=
  r.pass.passBlanks

/-- The character at the place. -/
def current? (r : Reader) : Option Char :=
  r.rest.head?

/-- The stretch of the character at the place. -/
def here (r : Reader) : Stretch :=
  ⟨r.position, r.pass.position⟩

/-- The stretch of no characters at the place. -/
def point (r : Reader) : Stretch :=
  .point r.position

/-- The stretch from an earlier place on. -/
def since (r : Reader) (first : Position) : Stretch :=
  ⟨first, r.position⟩

theorem length_pass (r : Reader) : r.pass.rest.length = r.rest.length - 1 := by
  unfold pass
  split <;> simp_all

theorem length_behindBlanks_le (comment : Bool) (position : Position) (t : Text) :
    (behindBlanks comment position t).1.length ≤ t.length := by
  induction t generalizing comment position with
  | nil => simp [behindBlanks]
  | cons c t ih =>
    unfold behindBlanks
    split
    · exact Nat.le_succ_of_le (ih _ _)
    · split
      · exact Nat.le_succ_of_le (ih _ _)
      · split
        · exact Nat.le_succ_of_le (ih _ _)
        · simp

theorem length_advance_le (r : Reader) : r.advance.rest.length ≤ r.rest.length - 1 := by
  unfold advance passBlanks
  split
  · exact Nat.le_trans (length_behindBlanks_le _ _ _) (Nat.le_of_eq (length_pass r))
  · exact Nat.le_of_eq (length_pass r)

/-- Pass characters that satisfy a test, without blanks between them: the characters, and the
place behind them. -/
def takeWhile (p : Char → Bool) (r : Reader) : Text × Reader :=
  match h : r.rest with
  | [] => ([], r)
  | c :: t =>
    if p c then
      have : r.advance.rest.length < r.rest.length := by
        have := length_advance_le r
        simp only [h, List.length_cons] at this ⊢
        omega
      let (cs, r) := takeWhile p r.advance
      (c :: cs, r)
    else ([], r)
  termination_by r.rest.length

end Reader

/-- Stop at a stretch. -/
def stop {α : Type} (reason : Reason) (stretch : Stretch) : Except Defect α :=
  .error { reason, stretch }

/-! ## Numbers -/

/-- The greatest count. -/
def countLimit : Nat := 4294967295

/-- Read a count: its value, if it has one, and the place behind it and the blanks around it. -/
def readCount (r : Reader) : Except Defect Nat × Reader :=
  let blanks := r.rest.takeWhile Text.isBlank
  let first := r.passMany blanks.length
  let (digits, behind) := first.takeWhile Char.isDigit
  let stretch := behind.since first.position
  let value := Runs.ofDigits digits
  let count :=
    if digits.isEmpty then stop .countEmpty stretch
    else if countLimit < value then stop .decimalTooLarge stretch
    else .ok value
  (count, (behind.takeWhile Text.isBlank).2)

/-- The character with a number in hexadecimal digits. -/
def charOfHex? (digits : Text) : Option Char :=
  (Text.number? 16 digits).bind fun n =>
    if n < 0xD800 || (0xDFFF < n && n ≤ 0x10FFFF) then some (Char.ofNat n) else none

/-- Whether a character is a hexadecimal digit. -/
def isHexDigit (c : Char) : Bool :=
  (Text.hexValue? c).isSome

/-- Read `n` hexadecimal digits. -/
def readDigits : (n : Nat) → Reader → Except Defect (Text × Reader)
  | 0, r => .ok ([], r)
  | n + 1, r =>
    match r.current? with
    | none => stop .escapeUnfinished r.point
    | some c => do
      if !isHexDigit c then stop .hexDigit r.here
      let (digits, r) ← readDigits n r.advance
      return (c :: digits, r)

/-- Read the number of a character from behind `x`, `u` or `U`, which has so many digits or stands
in braces. The literal starts at an earlier place. -/
def readHex (first : Position) (size : Nat) (r : Reader) : Except Defect (Literal × Reader) :=
  match r.current? with
  | none => stop .escapeUnfinished r.point
  | some '{' => do
    let (digits, behind) := r.advance.takeWhile isHexDigit
    match behind.current? with
    | none => stop .escapeUnfinished (behind.since r.position)
    | some '}' =>
      if digits.isEmpty then stop .hexEmpty (behind.advance.since r.position)
      else
        match charOfHex? digits with
        | none => stop .hexValue (behind.since r.pass.position)
        | some c => return (⟨c, false, behind.advance.since first⟩, behind.advance)
    | some _ => stop .hexDigit behind.here
  | some _ => do
    let (digits, behind) ← readDigits size r
    match charOfHex? digits with
    | none => stop .hexValue (behind.since r.position)
    | some c => return (⟨c, size = 2, behind.since first⟩, behind)

/-! ## Escapes -/

/-- What stands in front of a separator and behind it, if it stands in a text. -/
def cutName (separator : Text) (t : Text) : Option ClassName :=
  (Text.cutAt? separator t).map fun (property, value) => .valued property value

/-- The name of a class, from what stands between its braces. -/
def ClassName.ofText (t : Text) : ClassName :=
  ((cutName "!=" t).or ((cutName ":" t).or (cutName "=" t))).getD (.plain t)

/-- Read the name of a class from behind `p`. -/
def readClassName (r : Reader) : Except Defect (ClassName × Reader) :=
  match r.current? with
  | none => stop .escapeUnfinished r.point
  | some '{' =>
    let (name, behind) := r.advance.takeWhile (· != '}')
    match behind.current? with
    | none => stop .escapeUnfinished behind.point
    | some _ => .ok (.ofText name, behind.pass)
  | some c =>
    if c = '\\' then stop .unicodeClass r.here else .ok (.plain [c], r.advance)

/-- The assertions by name. -/
def namedAnchors : List (String × Anchor) :=
  [("start", .wordStart), ("end", .wordEnd), ("start-half", .noWordBefore),
    ("end-half", .noWordBehind)]

/-- Read what stands in braces behind `\b`, from the opening brace on. Without a name there the
braces belong to a count, and nothing is read. -/
def readBoundary (first : Position) (r : Reader) : Except Defect (Anchor × Reader) :=
  let isNamePart (c : Char) := c.isAlpha || c = '-'
  match r.advance.current? with
  | none => stop .boundaryUnfinished (r.advance.since first)
  | some c =>
    if !isNamePart c then .ok (.boundary, r)
    else
      let (name, behind) := r.advance.takeWhile isNamePart
      if behind.current? != some '}' then stop .boundaryUnclosed (behind.since r.position)
      else
        match namedAnchors.find? fun e => e.1.toList = name with
        | some (_, anchor) => .ok (anchor, behind.pass)
        | none => stop .boundaryUnknown (behind.since r.advance.position)

/-- Whether a character may stand behind a backslash for itself. -/
def isEscapable (c : Char) : Bool :=
  c.toNat < 0x80 && !c.isAlphanum && c != '<' && c != '>'

/-- The control characters that have a letter. -/
def controlLetters : List (Char × Char) :=
  [('a', '\x07'), ('f', '\x0c'), ('t', '\t'), ('n', '\n'), ('r', '\r'), ('v', '\x0b')]

/-- The assertions that have a letter, besides the boundary of words. -/
def anchorLetters : List (Char × Anchor) :=
  [('A', .textStart), ('z', .textEnd), ('B', .noBoundary), ('<', .wordStart), ('>', .wordEnd)]

/-- The classes that have a letter: a capital letter stands for all other characters. -/
def shorthandLetters : List (Char × Bool × Shorthand) :=
  [('d', false, .digit), ('s', false, .space), ('w', false, .word), ('D', true, .digit),
    ('S', true, .space), ('W', true, .word)]

/-- Read what a backslash starts. -/
def readEscape (r : Reader) : Except Defect (Expression × Reader) :=
  let first := r.position
  let r := r.pass
  let behind := r.pass
  match r.current? with
  | none => stop .escapeUnfinished (r.since first)
  | some c => do
    if c.isDigit then stop .backreference (behind.since first)
    else if c = 'x' || c = 'u' || c = 'U' then
      let (l, r) ← readHex first (if c = 'x' then 2 else if c = 'u' then 4 else 8) r.advance
      return (.literal l, r)
    else if c = 'p' || c = 'P' then
      let (name, r) ← readClassName r.advance
      return (.unicode (r.since first) (c = 'P') name, r)
    else if c = 'b' then
      if behind.current? = some '{' then
        let (anchor, r) ← readBoundary first behind
        return (.anchor (r.since first) anchor, r)
      else return (.anchor (behind.since first) .boundary, behind)
    else if isEscapable c then return (.literal ⟨c, false, behind.since first⟩, behind)
    else
      match shorthandLetters.find? (·.1 = c), controlLetters.find? (·.1 = c),
        anchorLetters.find? (·.1 = c) with
      | some (_, negated, kind), _, _ =>
        return (.shorthand (behind.since first) negated kind, behind)
      | _, some (_, control), _ =>
        return (.literal ⟨control, false, behind.since first⟩, behind)
      | _, _, some (_, anchor) => return (.anchor (behind.since first) anchor, behind)
      | none, none, none => stop .escapeUnknown (behind.since first)

/-! ## Classes -/

/-- Between the brackets of a class. -/
structure Bracket where
  /-- The opening bracket, with what belongs to it. -/
  opening : Stretch
  /-- The class stands for all other characters. -/
  negated : Bool
  /-- What an operation is to be applied to. -/
  left : Option (SetOperation × ClassSet)
  /-- Where the sets below start. -/
  first : Position
  /-- The sets since then, last one first. -/
  sets : List ClassSet

namespace Bracket

/-- The set that stands between the brackets so far. -/
def set (b : Bracket) : ClassSet :=
  let right :=
    match b.sets with
    | [] => .empty (.point b.first)
    | [set] => set
    | last :: sets =>
      let first := ((last :: sets).getLast?.getD last).stretch.first
      .union ⟨first, last.stretch.last⟩ (last :: sets).reverse
  match b.left with
  | none => right
  | some (kind, left) => .operation kind left right

/-- Add a set. -/
def add (b : Bracket) (set : ClassSet) : Bracket :=
  { b with sets := set :: b.sets }

/-- Apply an operation to what stands there so far and what follows a place. -/
def operate (b : Bracket) (kind : SetOperation) (first : Position) : Bracket :=
  { b with left := some (kind, b.set), first, sets := [] }

/-- A class that is never closed. -/
def unclosed {α : Type} (b : Bracket) : Except Defect α :=
  stop .classUnclosed b.opening

end Bracket

/-- Read hyphens that stand for themselves at the start of a class. -/
def readHyphens (first : Position) : (bound : Nat) → Reader → Except Defect (List ClassSet × Reader)
  | 0, r => .ok ([], r)
  | bound + 1, r =>
    if r.current? = some '-' then do
      if r.advance.current?.isNone then stop .classUnclosed (.point first)
      let (sets, behind) ← readHyphens first bound r.advance
      return (sets ++ [.literal ⟨'-', false, r.here⟩], behind)
    else .ok ([], r)

/-- Read the start of a class, from its bracket on. Hyphens at the start stand for themselves, and
so does a closing bracket. -/
def readOpening (r : Reader) : Except Defect (Bracket × Reader) := do
  let first := r.position
  let r := r.advance
  if r.current?.isNone then stop .classUnclosed (r.since first)
  let negated := r.current? = some '^'
  let r := if negated then r.advance else r
  if r.current?.isNone then stop .classUnclosed (r.since first)
  let (hyphens, behind) ← readHyphens first r.rest.length r
  let closing := hyphens.isEmpty && behind.current? = some ']'
  let sets := if closing then [.literal ⟨']', false, behind.here⟩] else hyphens
  let behind := if closing then behind.advance else behind
  if behind.current?.isNone then stop .classUnclosed (behind.since first)
  return (⟨behind.since first, negated, none, r.position, sets⟩, behind)

/-- Read the name of a set of ASCII characters, as in `[:alpha:]`, if one stands there. -/
def readNamedSet? (r : Reader) : Option (ClassSet × Reader) := do
  let t ← Text.afterPrefix? "[:" r.rest
  let negated := t.head? = some '^'
  let t := if negated then t.tail else t
  let name := t.takeWhile (· != ':')
  let _ ← Text.afterPrefix? ":]" (t.drop name.length)
  let (_, set) ← CharSet.named.find? fun e => e.1.toList = name
  let behind := r.passMany (name.length + if negated then 5 else 4)
  return (.named (behind.since r.position) negated set, behind)

/-- Read one character or class inside a class. -/
def readClassItem (r : Reader) : Except Defect (Expression × Reader) :=
  match r.current? with
  | some '\\' => readEscape r
  | some c => .ok (.literal ⟨c, false, r.here⟩, r.pass)
  | none => stop .escapeUnfinished r.point

/-- What was read inside a class, as a set. -/
def classItem : Expression → Except Defect ClassSet
  | .literal l => .ok (.literal l)
  | .shorthand s negated kind => .ok (.shorthand s negated kind)
  | .unicode s negated name => .ok (.unicode s negated name)
  | e => stop .classEscape e.stretch

/-- What was read inside a class, as an end of a range. -/
def rangeEnd : Expression → Except Defect Literal
  | .literal l => .ok l
  | e => stop .classRangeBoundary e.stretch

/-- Read a range or a single item of a class. -/
def readRange (b : Bracket) (r : Reader) : Except Defect (ClassSet × Reader) := do
  let (first, behind) ← readClassItem r
  let r := behind.passBlanks
  if r.current?.isNone then b.unclosed
  let next := r.advance.current?
  if r.current? != some '-' || next = some ']' || next = some '-' then
    return (← classItem first, r)
  else
    if next.isNone then b.unclosed
    let (last, r) ← readClassItem r.advance
    let first ← rangeEnd first
    let last ← rangeEnd last
    let set := ClassSet.range first last
    if last.char.toNat < first.char.toNat then stop .classRange set.stretch
    return (set, r)

/-- The operations that two characters stand for. -/
def operationOf? : Text → Option SetOperation
  | '&' :: '&' :: _ => some .inter
  | '-' :: '-' :: _ => some .diff
  | '~' :: '~' :: _ => some .symmDiff
  | _ => none

/-- Read a class up to its closing bracket. -/
def readClass : (bound : Nat) → Bracket → Reader → Except Defect (ClassSet × Reader)
  | 0, b, _ => b.unclosed
  | bound + 1, b, r => do
    let r := r.passBlanks
    match r.current?, readNamedSet? r, operationOf? r.rest with
    | none, _, _ => b.unclosed
    | some _, some (set, r), _ => readClass bound (b.add set) r
    | some _, _, some kind =>
      let r := r.passMany 2
      readClass bound (b.operate kind r.position) r
    | some '[', _, _ =>
      let (inner, behind) ← readOpening r
      let (set, r) ← readClass bound inner behind
      readClass bound (b.add set) r
    | some ']', _, _ =>
      return (.bracketed (r.pass.since b.opening.first) b.negated b.set, r.pass)
    | some _, _, _ =>
      let (set, r) ← readRange b r
      readClass bound (b.add set) r

/-! ## Groups and flags -/

/-- Flags and negations that are read, each with its place. -/
abbrev FlagItems := List (Option Flag × Stretch)

/-- Read flags up to a colon or a closing parenthesis. -/
def readFlags : (bound : Nat) → FlagItems → Reader → Except Defect (FlagItems × Reader)
  | 0, _, r => stop .flagUnfinished r.point
  | bound + 1, items, r =>
    match r.current? with
    | none => stop .flagUnfinished r.point
    | some c =>
      if c = ':' || c = ')' then
        match items.getLast? with
        | some (none, s) => stop .flagNegationDangling s
        | _ => .ok (items, r)
      else do
        let item ←
          if c = '-' then pure none
          else
            match Flag.ofLetter? c with
            | some flag => pure (some flag)
            | none => stop .flagUnknown r.here
        match items.find? (·.1 = item) with
        | some (_, earlier) =>
          .error ⟨if item.isNone then .flagNegationTwice else .flagTwice, r.here, some earlier⟩
        | none => readFlags bound (items ++ [(item, r.here)]) r.pass

/-- What the flags become: set, or cleared behind a negation. -/
def settingOf (on : Bool) : FlagItems → Setting
  | [] => []
  | (none, _) :: items => settingOf false items
  | (some flag, _) :: items => (flag, on) :: settingOf on items

/-- Whether a character may stand in the name of a group. -/
def isNameChar (first : Bool) (c : Char) : Bool :=
  c = '_' || Text.isAlphabetic c ||
    !first && (c = '.' || c = '[' || c = ']' || (Text.Category.of c).isIn "N")

/-- Read the name of a group, from behind its opening angle bracket. -/
def readName : (bound : Nat) → Text → Reader → Except Defect (Text × Reader)
  | 0, _, r => stop .groupNameUnclosed r.point
  | bound + 1, name, r =>
    match r.current? with
    | none => stop .groupNameUnclosed r.point
    | some c =>
      if c = '>' then .ok (name.reverse, r)
      else if isNameChar name.isEmpty c then readName bound (c :: name) r.pass
      else stop .groupNameCharacter r.here

/-- How a parenthesis starts. -/
inductive Parenthesis where
  /-- A group, whose flags are set inside it. -/
  | group (setting : Setting)
  /-- Flags for all that follows. -/
  | flags (setting : Setting)

/-- What follows a parenthesis that looks around. -/
def lookAroundLeads : List Text :=
  ["?=", "?!", "?<=", "?<!"].map String.toList

/-- What follows the parenthesis of a group with a name. -/
def nameLeads : List Text :=
  ["?P<", "?<"].map String.toList

/-- Read what belongs to an opening parenthesis. -/
def readParenthesis (r : Reader) : Except Defect (Parenthesis × Reader) := do
  let inner := r.pass.passBlanks
  let opens (lead : Text) := lead.isPrefixOf inner.rest
  let lookAround := lookAroundLeads.find? opens
  if let some lead := lookAround then
    stop .lookAround ((inner.passMany lead.length).since r.position)
  let named := nameLeads.find? opens
  match named with
  | some lead =>
    let first := inner.passMany lead.length
    let (name, behind) ← readName (first.rest.length + 1) [] first
    let stretch := behind.since first.position
    if name.isEmpty then stop .groupNameEmpty first.point
    match behind.names.find? (·.1 = name) with
    | some (_, earlier) => .error ⟨.groupNameTwice, stretch, some earlier⟩
    | none => return (.group [], { behind.pass with names := (name, stretch) :: behind.names })
  | none =>
    if opens "?" then
      let first := inner.pass
      if first.current?.isNone then stop .groupUnclosed r.here
      let (items, behind) ← readFlags (first.rest.length + 1) [] first
      let setting := settingOf true items
      if behind.current? = some ')' then
        if items.isEmpty then stop .nothingToRepeat inner.point
        return (.flags setting, behind.pass)
      else return (.group setting, behind.pass)
    else return (.group [], inner)

/-! ## Expressions -/

/-- The expressions that are read on a level, between parentheses. -/
structure Draft where
  /-- Where the first branch starts. -/
  first : Position
  /-- The branches that are complete, last one first. -/
  branches : List Expression
  /-- Where the current branch starts. -/
  branchFirst : Position
  /-- The expressions of the current branch, last one first. -/
  items : List Expression

namespace Draft

/-- Nothing is read. -/
def start (first : Position) : Draft :=
  ⟨first, [], first, []⟩

/-- Add an expression. -/
def add (d : Draft) (e : Expression) : Draft :=
  { d with items := e :: d.items }

/-- The current branch, which ends at a place. -/
def branch (d : Draft) (last : Position) : Expression :=
  match d.items with
  | [] => .empty ⟨d.branchFirst, last⟩
  | [e] => e
  | items => .sequence ⟨d.branchFirst, last⟩ items.reverse

/-- Begin another branch at a place, where the current one ends at an earlier one. -/
def fork (d : Draft) (last next : Position) : Draft :=
  { d with branches := d.branch last :: d.branches, branchFirst := next, items := [] }

/-- What is read, when the level ends at a place. -/
def finish (d : Draft) (last : Position) : Expression :=
  match d.branches with
  | [] => d.branch last
  | branches => .alternatives ⟨d.first, last⟩ (d.branch last :: branches).reverse

/-- The last expression, which is to be repeated, and the others. -/
def repeatable? (d : Draft) : Option (Expression × Draft) :=
  match d.items with
  | [] | .empty _ :: _ | .flags _ _ :: _ => none
  | e :: items => some (e, { d with items })

end Draft

/-- The place behind a question mark that makes a repetition short. -/
def Reader.passLazy (r : Reader) : Reader :=
  if r.current? = some '?' then r.pass else r

/-- Read a sign of repetition. -/
def readSign (d : Draft) (least : Nat) (most : Option Nat) (r : Reader) :
    Except Defect (Draft × Reader) :=
  match d.repeatable? with
  | none => stop .nothingToRepeat r.point
  | some (e, d) =>
    let behind := r.pass.passLazy
    .ok (d.add (.repeated (behind.since e.stretch.first) least most e), behind)

/-- Read a count of repetitions in braces. -/
def readCounts (d : Draft) (r : Reader) : Except Defect (Draft × Reader) :=
  match d.repeatable? with
  | none => stop .nothingToRepeat r.point
  | some (e, d) => do
    let unclosed (behind : Reader) : Except Defect Unit :=
      stop .countUnclosed (behind.since r.position)
    let inner := r.advance
    if inner.current?.isNone then unclosed inner
    let (count, behind) := readCount inner
    if behind.current?.isNone then unclosed behind
    let (least, most, behind) ←
      if behind.current? = some ',' then do
        let next := behind.advance
        if next.current?.isNone then unclosed next
        if next.current? = some '}' then pure (← count, none, next)
        else
          let least ← count
          let (most, behind) := readCount next
          pure (least, some (← most), behind)
      else do
        let least ← count
        pure (least, some least, behind)
    if behind.current? != some '}' then unclosed behind
    let behind := behind.advance.passLazy
    if most.any (· < least) then stop .countOrder (behind.since r.position)
    return (d.add (.repeated (behind.since e.stretch.first) least most e), behind)

/-- The place where a flag says what blanks count for. -/
def Reader.withSetting (r : Reader) (setting : Setting) : Reader :=
  { r with verbose := (setting.get? .verbose).getD r.verbose }

/-- Read the expressions of a level, up to a closing parenthesis or the end of the pattern. -/
def readLevel : (bound : Nat) → Draft → Reader → Except Defect (Expression × Reader)
  | 0, d, r => .ok (d.finish r.position, r)
  | bound + 1, d, r => do
    let r := r.passBlanks
    match r.current? with
    | none | some ')' => return (d.finish r.position, r)
    | some '|' => readLevel bound (d.fork r.position r.pass.position) r.pass
    | some '(' =>
      match ← readParenthesis r with
      | (.flags setting, behind) =>
        readLevel bound (d.add (.flags (behind.since r.position) setting))
          (behind.withSetting setting)
      | (.group setting, behind) =>
        let (e, last) ← readLevel bound (.start behind.position) (behind.withSetting setting)
        if last.current? != some ')' then stop .groupUnclosed r.here
        let behind := { last.pass with verbose := r.verbose }
        readLevel bound (d.add (.group (behind.since r.position) setting e)) behind
    | some '[' =>
      let (bracket, behind) ← readOpening r
      match ← readClass (behind.rest.length + 1) bracket behind with
      | (.bracketed s negated set, behind) =>
        readLevel bound (d.add (.bracketed s negated set)) behind
      | (_, behind) => readLevel bound d behind
    | some '?' =>
      let (d, r) ← readSign d 0 (some 1) r
      readLevel bound d r
    | some '*' =>
      let (d, r) ← readSign d 0 none r
      readLevel bound d r
    | some '+' =>
      let (d, r) ← readSign d 1 none r
      readLevel bound d r
    | some '{' =>
      let (d, r) ← readCounts d r
      readLevel bound d r
    | some '\\' =>
      let (e, r) ← readEscape r
      readLevel bound (d.add e) r
    | some '.' => readLevel bound (d.add (.dot r.here)) r.pass
    | some '^' => readLevel bound (d.add (.anchor r.here .caret)) r.pass
    | some '$' => readLevel bound (d.add (.anchor r.here .dollar)) r.pass
    | some c => readLevel bound (d.add (.literal ⟨c, false, r.here⟩)) r.pass

/-- Read a written pattern. -/
def Expression.read (t : Text) : Except Defect Expression := do
  let start := Reader.start t
  let (e, r) ← readLevel (t.length + 1) (.start start.position) start
  if r.current? = some ')' then stop .groupUnopened r.here
  match e.tooDeep? 0 with
  | some s => stop .nesting s
  | none => return e

end StudyGraph.Pattern
