import StudyGraph.Text.Scan

/-!
# Settings in TOML

The part of TOML that a frontmatter can use: one statement `key = value` a line, with a string or an
integer as value, and comments. Keys are bare or quoted. Strings are basic or literal, on one line
or on several, and integers are decimal, hexadecimal, octal or binary. `Toml.parse?` gives the
statements in order; it refuses every other text, among them the tables, arrays, truth values,
floats and dates of the full format, for which no setting has a use.
-/

namespace StudyGraph.Toml

/-- The value of a setting. -/
inductive Value where
  | string (t : Text)
  | integer (n : Int)
  deriving DecidableEq

/-! ## Characters -/

/-- Spaces within a line. -/
def isSpace (c : Char) : Bool :=
  c == ' ' || c == '\t'

/-- The text from its first character that is no space. -/
def dropSpaces (t : Text) : Text :=
  t.dropWhile isSpace

/-- What follows a newline, with or without a carriage return before it. -/
def afterNewline? : Text → Option Text
  | '\n' :: t => some t
  | '\r' :: '\n' :: t => some t
  | _ => none

/-- Characters that may stand on a line: no control characters but the tab. -/
def isPlain (c : Char) : Bool :=
  c == '\t' || (0x20 ≤ c.toNat && c.toNat != 0x7F)

/-- Characters of a bare key. -/
def isBare (c : Char) : Bool :=
  c.isAlphanum || c == '-' || c == '_'

/-- The next statement, behind what may end a line: spaces and a comment. -/
def afterLine? (t : Text) : Option Text :=
  let t := dropSpaces t
  let t :=
    match t with
    | '#' :: comment => comment.dropWhile isPlain
    | t => t
  match t with
  | [] => some []
  | t => afterNewline? t

/-! ## Strings -/

/-- The character that an escape with `digits` hexadecimal digits stands for, and what follows. -/
def unicodeEscape? (digits : Nat) (t : Text) : Option (Char × Text) := do
  if t.length < digits then none
  let n ← Text.number? 16 (t.take digits)
  if n.isValidChar then some (Char.ofNat n, t.drop digits) else none

/-- The character that stands behind a backslash, and what follows. -/
def escape? : Text → Option (Char × Text)
  | 'b' :: t => some ('\x08', t)
  | 't' :: t => some ('\t', t)
  | 'n' :: t => some ('\n', t)
  | 'f' :: t => some ('\x0c', t)
  | 'r' :: t => some ('\r', t)
  | '"' :: t => some ('"', t)
  | '\\' :: t => some ('\\', t)
  | 'u' :: t => unicodeEscape? 4 t
  | 'U' :: t => unicodeEscape? 8 t
  | _ => none

/-- Spaces and newlines, as far as they go. -/
def dropBlankLines : Text → Text
  | '\r' :: '\n' :: t => dropBlankLines t
  | '\n' :: t => dropBlankLines t
  | ' ' :: t => dropBlankLines t
  | '\t' :: t => dropBlankLines t
  | t => t

/-- What follows a backslash that joins a line with the next text, if it is one. -/
def afterJoin? (t : Text) : Option Text :=
  (afterNewline? (dropSpaces t)).map dropBlankLines

/-- The rest of a basic string on one line, and what follows. A text of `limit` characters is long
enough for the rest. -/
def basic? : (limit : Nat) → Text → Option (Text × Text)
  | _, '"' :: t => some ([], t)
  | limit + 1, '\\' :: t => do
    let (c, t) ← escape? t
    let (s, t) ← basic? limit t
    some (c :: s, t)
  | limit + 1, c :: t =>
    if isPlain c then (basic? limit t).map fun (s, t) => (c :: s, t) else none
  | _, _ => none

/-- The rest of a literal string on one line, and what follows. -/
def literal? : Text → Option (Text × Text)
  | '\'' :: t => some ([], t)
  | c :: t => if isPlain c then (literal? t).map fun (s, t) => (c :: s, t) else none
  | [] => none

/-- The end of a string on several lines: three quotes, with up to two more that belong to the
string. -/
def closing? (quote : Char) (t : Text) : Option (Text × Text) :=
  let quotes := (t.takeWhile (· == quote)).length
  if 3 ≤ quotes then
    let own := min (quotes - 3) 2
    some (List.replicate own quote, t.drop (own + 3))
  else none

/-- The rest of a basic string on several lines, and what follows. -/
def basicLines? : (limit : Nat) → Text → Option (Text × Text)
  | 0, _ => none
  | limit + 1, t =>
    match closing? '"' t with
    | some found => some found
    | none =>
      match t with
      | [] => none
      | '\\' :: t =>
        match afterJoin? t with
        | some t => basicLines? limit t
        | none => do
          let (c, t) ← escape? t
          let (s, t) ← basicLines? limit t
          some (c :: s, t)
      | c :: t =>
        match afterNewline? (c :: t) with
        | some t => (basicLines? limit t).map fun (s, t) => ('\n' :: s, t)
        | none =>
          if isPlain c then (basicLines? limit t).map fun (s, t) => (c :: s, t) else none

/-- The rest of a literal string on several lines, and what follows. -/
def literalLines? : (limit : Nat) → Text → Option (Text × Text)
  | 0, _ => none
  | limit + 1, t =>
    match closing? '\'' t with
    | some found => some found
    | none =>
      match t with
      | [] => none
      | c :: t =>
        match afterNewline? (c :: t) with
        | some t => (literalLines? limit t).map fun (s, t) => ('\n' :: s, t)
        | none =>
          if isPlain c then (literalLines? limit t).map fun (s, t) => (c :: s, t) else none

/-- A string, and what follows. A newline directly behind three opening quotes does not count. -/
def string? : Text → Option (Text × Text)
  | '"' :: '"' :: '"' :: t => basicLines? (t.length + 1) ((afterNewline? t).getD t)
  | '\'' :: '\'' :: '\'' :: t => literalLines? (t.length + 1) ((afterNewline? t).getD t)
  | '"' :: t => basic? t.length t
  | '\'' :: t => literal? t
  | _ => none

/-! ## Integers -/

/-- The greatest integer. -/
def maxInteger : Nat := 9223372036854775807

/-- The digits of a number without the underscores, each of which stands between two digits. -/
def digits? (isDigit : Char → Bool) : Text → Option Text
  | [] => none
  | [c] => if isDigit c then some [c] else none
  | c :: '_' :: t => if isDigit c then (digits? isDigit t).map (c :: ·) else none
  | c :: t => if isDigit c then (digits? isDigit t).map (c :: ·) else none

/-- A number in a base, within `bound`. -/
def natural? (base bound : Nat) (t : Text) : Option Nat := do
  let digits ← digits? (fun c => (Text.hexValue? c).any (· < base)) t
  let n ← Text.number? base digits
  if n ≤ bound then some n else none

/-- A decimal number has no zero in front of other digits. -/
def decimal? (bound : Nat) (t : Text) : Option Nat :=
  match t with
  | '0' :: _ :: _ => none
  | t => natural? 10 bound t

/-- An integer. Numbers in other bases than ten have no sign. -/
def integer? : Text → Option Int
  | '0' :: 'x' :: t => (natural? 16 maxInteger t).map Int.ofNat
  | '0' :: 'o' :: t => (natural? 8 maxInteger t).map Int.ofNat
  | '0' :: 'b' :: t => (natural? 2 maxInteger t).map Int.ofNat
  | '+' :: t => (decimal? maxInteger t).map Int.ofNat
  | '-' :: t => (decimal? (maxInteger + 1) t).map fun n => -Int.ofNat n
  | t => (decimal? maxInteger t).map Int.ofNat

/-! ## Statements -/

/-- A value, and what follows. -/
def value? (t : Text) : Option (Value × Text) :=
  match t with
  | '"' :: _ | '\'' :: _ => (string? t).map fun (s, t) => (.string s, t)
  | _ =>
    let isOfNumber (c : Char) : Bool := isBare c || c == '+'
    (integer? (t.takeWhile isOfNumber)).map fun n => (.integer n, t.dropWhile isOfNumber)

/-- A key, and what follows. -/
def key? (t : Text) : Option (Text × Text) :=
  match t with
  | '"' :: t => basic? t.length t
  | '\'' :: t => literal? t
  | t =>
    if (t.takeWhile isBare).isEmpty then none else some (t.takeWhile isBare, t.dropWhile isBare)

/-- A statement, and what follows its line. -/
def statement? (t : Text) : Option ((Text × Value) × Text) := do
  let (key, t) ← key? t
  let t ← Text.afterPrefix? "=" (dropSpaces t)
  let (value, t) ← value? (dropSpaces t)
  let t ← afterLine? t
  some ((key, value), t)

/-- The statements of a text with at most `limit` lines. -/
def statements? : (limit : Nat) → Text → Option (List (Text × Value))
  | 0, _ => none
  | limit + 1, t =>
    match dropSpaces t with
    | [] => some []
    | t =>
      match afterLine? t with
      | some t => statements? limit t
      | none => do
        let (s, t) ← statement? t
        let rest ← statements? limit t
        some (s :: rest)

/-- The settings of a text. A key has one value. -/
def parse? (t : Text) : Option (List (Text × Value)) := do
  let t := (Text.afterPrefix? ['\ufeff'] t).getD t
  let settings ← statements? (t.length + 1) t
  if (settings.map Prod.fst).Nodup then some settings else none

end StudyGraph.Toml
