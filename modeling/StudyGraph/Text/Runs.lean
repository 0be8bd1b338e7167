import StudyGraph.Text

/-!
# Runs of code points

A property of the code points is told by its runs: from zero on, each value with the number of code
points in a row that have it. `Runs.valueAt` looks a code point up. `Runs.ofText` reads runs that
are written as the codes of their values, a capital letter with small ones behind it, each with the
length of its run if that is not one: `Lu26Ps` is a run of length 26 and one of length 1.
-/

namespace StudyGraph

/-- A property of the code points, run by run. -/
abbrev Runs (α : Type) := List (α × Nat)

namespace Runs

/-- The value at a code point. -/
def valueAt {α : Type} : Runs α → Nat → Option α
  | [], _ => none
  | (value, size) :: runs, n => if n < size then some value else valueAt runs (n - size)

theorem valueAt_cons_lt {α : Type} {value : α} {size n : Nat} (runs : Runs α) (h : n < size) :
    valueAt ((value, size) :: runs) n = some value := by
  simp [valueAt, h]

theorem valueAt_cons_add {α : Type} (value : α) (size n : Nat) (runs : Runs α) :
    valueAt ((value, size) :: runs) (size + n) = valueAt runs n := by
  have h : ¬ size + n < size := by omega
  simp [valueAt, h]

/-- The number that decimal digits write. -/
def ofDigits (digits : Text) : Nat :=
  digits.foldl (fun n c => 10 * n + (c.toNat - 48)) 0

theorem length_dropWhile_dropWhile_le (p q : Char → Bool) (t : Text) :
    ((t.dropWhile p).dropWhile q).length ≤ t.length :=
  Nat.le_trans (List.dropWhile_suffix q).length_le (List.dropWhile_suffix p).length_le

/-- Read runs, whose codes stand for values. -/
def ofText {α : Type} (ofCode : Text → α) : Text → Runs α
  | [] => []
  | c :: t =>
    let code := c :: t.takeWhile Char.isLower
    let digits := (t.dropWhile Char.isLower).takeWhile Char.isDigit
    let size := if digits.isEmpty then 1 else ofDigits digits
    (ofCode code, size) :: ofText ofCode ((t.dropWhile Char.isLower).dropWhile Char.isDigit)
  termination_by t => t.length
  decreasing_by exact Nat.lt_succ_of_le (length_dropWhile_dropWhile_le _ _ _)

end Runs

end StudyGraph
