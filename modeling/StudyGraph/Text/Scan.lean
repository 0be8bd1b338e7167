import StudyGraph.Text.Search

/-!
# Reading lines and digits

Small readers for plain texts: the lines of a text, and numbers in a base of at most sixteen.
-/

namespace StudyGraph.Text

/-- A line that ended at a newline, without a carriage return at its end. -/
def dropReturn (t : Text) : Text :=
  if t.getLast? = some '\r' then t.dropLast else t

/-- The lines of fields between newlines: all but the last have ended, and the last counts only if
it holds something. -/
def linesOfFields : List Text → List Text
  | [] => []
  | [last] => if last.isEmpty then [] else [last]
  | line :: rest => dropReturn line :: linesOfFields rest

/-- The lines of a text, without their endings. -/
def lines (t : Text) : List Text :=
  linesOfFields (splitOn '\n' t)

/-- The value of a hexadecimal digit in either case. -/
def hexValue? (c : Char) : Option Nat :=
  let n := c.toNat
  if 48 ≤ n && n ≤ 57 then some (n - 48)
  else if 97 ≤ n && n ≤ 102 then some (n - 87)
  else if 65 ≤ n && n ≤ 70 then some (n - 55)
  else none

/-- The number that digits of a base write. -/
def number? (base : Nat) (digits : Text) : Option Nat :=
  digits.foldlM (fun n c => do
    let d ← hexValue? c
    if d < base then some (base * n + d) else none) 0

end StudyGraph.Text
