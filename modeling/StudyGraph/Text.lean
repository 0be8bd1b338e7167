/-!
# Texts

A text is the list of its characters. Two texts are compared character by character (`same`), and
this decides whether they are equal (`same_iff`). Offsets and spans of the program count the bytes
of the UTF-8 encoding, so a text also has a `byteSize`, and `dropBytes?` cuts it at an offset that
falls between two characters. `splitWhere` and `splitOn` cut a text into the fields between
separators; a text without separators is one field, so the result is never empty
(`splitWhere_ne_nil`).
-/

namespace StudyGraph

/-- A text is its list of characters. -/
abbrev Text := List Char

/-- A literal stands for the text of its characters. -/
instance : Coe String Text := ⟨String.toList⟩

namespace Text

/-! ## Equality -/

/-- Whether two texts have the same characters. -/
def same : Text → Text → Bool
  | [], [] => true
  | c :: s, d :: t => c == d && same s t
  | _, _ => false

theorem same_iff {s t : Text} : same s t = true ↔ s = t := by
  induction s generalizing t with
  | nil => cases t <;> simp [same]
  | cons c s ih => cases t <;> simp [same, ih]

instance : DecidableEq Text := fun _ _ => decidable_of_iff _ same_iff

/-! ## Bytes -/

/-- The number of bytes of the UTF-8 encoding. -/
def byteSize : Text → Nat
  | [] => 0
  | c :: t => c.utf8Size + byteSize t

@[simp] theorem byteSize_nil : byteSize [] = 0 := rfl

@[simp] theorem byteSize_cons (c : Char) (t : Text) :
    byteSize (c :: t) = c.utf8Size + byteSize t := rfl

@[simp] theorem byteSize_append (s t : Text) : byteSize (s ++ t) = byteSize s + byteSize t := by
  induction s with
  | nil => simp
  | cons c s ih => simp [ih, Nat.add_assoc]

/-- What follows the first `n` bytes, when `n` bytes end where a character ends. -/
def dropBytes? : Nat → Text → Option Text
  | 0, t => some t
  | _ + 1, [] => none
  | n + 1, c :: t => if c.utf8Size ≤ n + 1 then dropBytes? (n + 1 - c.utf8Size) t else none

@[simp] theorem dropBytes?_zero (t : Text) : dropBytes? 0 t = some t := by
  cases t <;> rfl

/-- Dropping the bytes of a leading part leaves what follows it. -/
@[simp] theorem dropBytes?_byteSize (s t : Text) : dropBytes? (byteSize s) (s ++ t) = some t := by
  induction s with
  | nil => simp
  | cons c s ih =>
    have hc : 0 < c.utf8Size := Char.utf8Size_pos c
    obtain ⟨n, hn⟩ : ∃ n, byteSize (c :: s) = n + 1 := ⟨c.utf8Size + byteSize s - 1, by simp; omega⟩
    have hs : c.utf8Size ≤ n + 1 := by simp at hn; omega
    have hr : n + 1 - c.utf8Size = byteSize s := by simp at hn; omega
    simp only [List.cons_append, hn, dropBytes?, hs, if_true, hr, ih]

/-! ## Fields -/

/-- The fields between the characters that satisfy `p`, left to right. -/
def splitWhere (p : Char → Bool) : Text → List Text
  | [] => [[]]
  | c :: t =>
    match p c, splitWhere p t with
    | true, fields => [] :: fields
    | false, [] => [[c]]
    | false, field :: fields => (c :: field) :: fields

/-- The fields between the occurrences of one character. -/
def splitOn (separator : Char) (t : Text) : List Text :=
  splitWhere (· == separator) t

theorem splitWhere_ne_nil (p : Char → Bool) (t : Text) : splitWhere p t ≠ [] := by
  cases t with
  | nil => simp [splitWhere]
  | cons c t => rw [splitWhere]; split <;> simp

/-- The texts one after the other, with `separator` between neighbours. -/
def join (separator : Text) (texts : List Text) : Text :=
  (texts.intersperse separator).flatten

/-- A number in decimal digits. -/
def ofNat (n : Nat) : Text :=
  Nat.toDigits 10 n

/-- At least `width` characters, filled up with blanks on the right. -/
def padRight (width : Nat) (t : Text) : Text :=
  t ++ List.replicate (width - t.length) ' '

end Text

end StudyGraph
