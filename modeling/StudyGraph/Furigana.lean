import StudyGraph.Text
import StudyGraph.Json

/-!
# Furigana

A text with readings over parts of it. In the notation `{base}^{reading}` gives a run of base text
its reading, and every other character is plain and reads as itself. `parse` reads the notation,
`render` writes it. `readings` has one entry for each character of the base text: a plain character
reads as itself, and the reading of a ruby group stands at the first character of the group, with
empty entries at the others.
-/

namespace StudyGraph

/-- A stretch of text with its reading. -/
inductive Furigana.Unit where
  /-- Text that reads as itself. -/
  | plain (text : Text)
  /-- Base text with a reading over it. -/
  | ruby (base reading : Text)
  deriving DecidableEq, Inhabited

/-- A text with readings over parts of it. -/
abbrev Furigana := List Furigana.Unit

namespace Furigana

/-! ## Notation -/

/-- Why a text is not furigana notation. Positions count characters. -/
inductive Error where
  /-- The opening brace at this position has no closing brace before the next opening one. -/
  | unclosedBrace (position : Nat)
  /-- The closing brace at this position closes nothing. -/
  | strayBrace (position : Nat)
  /-- The group with this base is not followed by a reading. -/
  | missingReading (base : Text)
  /-- The group at this position has an empty base or an empty reading. -/
  | emptyRuby (position : Nat)
  deriving DecidableEq

/-- The wording of an error. -/
def Error.message : Error → Text
  | unclosedBrace i => "unclosed `\x7b` at character " ++ Text.ofNat i
  | strayBrace i => "stray `\x7d` at character " ++ Text.ofNat i
  | missingReading base => "`\x7b" ++ base ++ "\x7d` has no `^\x7breading\x7d`"
  | emptyRuby i => "empty ruby group at character " ++ Text.ofNat i

/-- The text up to the next closing brace and the text behind that brace, when no opening brace
comes first. -/
def braced? : Text → Option (Text × Text)
  | [] => none
  | c :: t =>
    if c = '\x7d' then some ([], t)
    else if c = '\x7b' then none
    else (braced? t).map fun (inner, rest) => (c :: inner, rest)

theorem eq_append_of_braced? {t inner rest : Text} (h : braced? t = some (inner, rest)) :
    t = inner ++ '\x7d' :: rest := by
  induction t generalizing inner with
  | nil => simp [braced?] at h
  | cons c t ih =>
    rw [braced?] at h
    split at h
    · next hc => simp_all
    · split at h
      · simp at h
      · obtain ⟨⟨i, r⟩, hi, he⟩ := Option.map_eq_some_iff.1 h
        simp only [Prod.mk.injEq] at he
        obtain ⟨rfl, rfl⟩ := he
        simp [ih hi]

/-- The notation of a unit. -/
def Unit.render : Unit → Text
  | plain text => text
  | ruby base reading => '\x7b' :: base ++ '\x7d' :: '^' :: '\x7b' :: reading ++ ['\x7d']

/-- The notation of a text with readings. -/
def render (units : Furigana) : Text :=
  units.flatMap Unit.render

/-- The ruby group at position `i`, from behind its opening brace, and the text behind the group. -/
def group (i : Nat) (t : Text) : Except Error (Unit × Text) :=
  match braced? t with
  | none => .error (.unclosedBrace i)
  | some (base, '^' :: '\x7b' :: more) =>
    match braced? more with
    | none => .error (.unclosedBrace (i + base.length + 3))
    | some (reading, rest) =>
      if base.isEmpty || reading.isEmpty then .error (.emptyRuby i)
      else .ok (.ruby base reading, rest)
  | some (base, _) => .error (.missingReading base)

/-- A group is its notation. -/
theorem eq_append_of_group {i : Nat} {t rest : Text} {unit : Unit}
    (h : group i t = .ok (unit, rest)) : '\x7b' :: t = unit.render ++ rest := by
  unfold group at h
  split at h
  · cases h
  · next base more hbase =>
    split at h
    · cases h
    · next reading rest' hreading =>
      split at h
      · cases h
      · cases h
        simp [eq_append_of_braced? hbase, eq_append_of_braced? hreading, Unit.render]
  · cases h

theorem length_lt_of_group {i : Nat} {t rest : Text} {unit : Unit}
    (h : group i t = .ok (unit, rest)) : rest.length < t.length := by
  unfold group at h
  split at h
  · cases h
  · next base more hbase =>
    split at h
    · cases h
    · next reading rest' hreading =>
      split at h
      · cases h
      · cases h
        rw [eq_append_of_braced? hbase, eq_append_of_braced? hreading]
        simp only [List.length_append, List.length_cons]
        omega
  · cases h

/-- One more plain character in front: it joins a plain unit that follows it. -/
def consPlain (c : Char) : Furigana → Furigana
  | .plain text :: units => .plain (c :: text) :: units
  | units => .plain [c] :: units

/-- Read the notation from position `i` on. -/
def parseFrom (i : Nat) : Text → Except Error Furigana
  | [] => .ok []
  | c :: t =>
    if c = '\x7b' then
      match h : group i t with
      | .error e => .error e
      | .ok (unit, rest) =>
        have : rest.length < t.length := length_lt_of_group h
        (parseFrom (i + unit.render.length) rest).map (unit :: ·)
    else if c = '\x7d' then .error (.strayBrace i)
    else (parseFrom (i + 1) t).map (consPlain c)
  termination_by t => t.length
  decreasing_by
  · exact Nat.lt_succ_of_lt this
  · exact Nat.lt_succ_self _

/-- Read the notation. Neighbouring plain characters form one unit. -/
def parse (t : Text) : Except Error Furigana :=
  parseFrom 0 t

/-! ## Base text and reading -/

/-- The text as it stands in the sentence. -/
def Unit.base : Unit → Text
  | plain text => text
  | ruby base _ => base

/-- The text as it is read. -/
def Unit.reading : Unit → Text
  | plain text => text
  | ruby _ reading => reading

/-- The entries for the characters of the base text. -/
def Unit.readings : Unit → List Text
  | plain text => text.map ([·])
  | ruby base reading => reading :: List.replicate (base.length - 1) []

/-- The base text, as it stands in the sentence. -/
def base (units : Furigana) : Text :=
  units.flatMap Unit.base

/-- The full reading. -/
def reading (units : Furigana) : Text :=
  units.flatMap Unit.reading

/-- One entry for each character of the base text, as long as no base is empty. -/
def readings (units : Furigana) : List Text :=
  units.flatMap Unit.readings

/-! ## Identity -/

/-- Plain text is a JSON string, and a ruby group is an object. -/
def Unit.toJson : Unit → Json
  | plain text => .string text
  | ruby base reading => .object [("rt", .string reading), ("ruby", .string base)]

/-- The units as a JSON array. -/
def toJson (units : Furigana) : Json :=
  .array (units.map Unit.toJson)

end Furigana

end StudyGraph
