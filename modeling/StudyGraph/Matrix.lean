import StudyGraph.Text.Blank

/-!
# Boolean matrices

Rectangular matrices of truth values, which say which slots of a group of quizzes are linked. A
matrix has at least one row and all its rows have its width; these facts are part of the type, and
`ofRows` is the one gate through which rows become a matrix. `ofDigits` reads rows of the digits
`0` and `1` between white space, `digits` writes them, and `beside` and `stack` build large
matrices out of blocks.
-/

namespace StudyGraph

/-- A rectangular matrix of truth values. -/
@[ext] structure Matrix where
  /-- The rows, top row first. -/
  rows : List (List Bool)
  /-- The number of columns. -/
  width : Nat
  /-- There is a row. -/
  rows_ne_nil : rows ≠ []
  /-- Every row has a cell in each column. -/
  length_row : ∀ row ∈ rows, row.length = width

namespace Matrix

/-- Why rows do not make a matrix. -/
inductive Error where
  /-- There is no row. -/
  | empty
  /-- A row has another length than the first. -/
  | ragged (row expected actual : Nat)
  /-- A row of digits has another character. -/
  | badDigit (c : Char)
  /-- Matrices side by side have different heights. -/
  | unevenHeights
  /-- Matrices on top of each other have different widths. -/
  | unevenWidths
  /-- The matrix is not a square of the size asked for. -/
  | wrongDimension (expected height width : Nat)
  deriving DecidableEq, Inhabited

/-- The wording of an error. -/
def Error.message : Error → Text
  | empty => "empty matrix"
  | ragged row expected actual =>
    "ragged matrix: row " ++ Text.ofNat row ++ " has " ++ Text.ofNat actual ++
      " columns, expected " ++ Text.ofNat expected
  | badDigit c => "invalid matrix digit `" ++ [c] ++ "`"
  | unevenHeights => "cannot hstack uneven heights"
  | unevenWidths => "cannot vstack uneven widths"
  | wrongDimension expected height width =>
    "expected a " ++ Text.ofNat expected ++ "x" ++ Text.ofNat expected ++ " matrix, got " ++
      Text.ofNat height ++ "x" ++ Text.ofNat width

/-! ## Cells -/

/-- The number of rows. -/
def height (m : Matrix) : Nat :=
  m.rows.length

/-- The cell at a row and a column, if it is within the matrix. -/
def cell? (m : Matrix) (row column : Nat) : Option Bool :=
  m.rows[row]?.bind (·[column]?)

/-- Whether the cell at a row and a column is set. -/
def get (m : Matrix) (row column : Nat) : Bool :=
  (m.cell? row column).getD false

/-- The number of cells that are set. -/
def countSet (m : Matrix) : Nat :=
  m.rows.flatten.count true

/-- Every position within height and width has a cell. -/
theorem isSome_cell? (m : Matrix) {row column : Nat} (hr : row < m.height)
    (hc : column < m.width) : (m.cell? row column).isSome := by
  unfold height at hr
  simp [cell?, List.getElem?_eq_getElem hr, m.length_row _ (List.getElem_mem hr), hc]

/-- Refuse a matrix that is not a square of the given size. -/
def checkSquare (m : Matrix) (size : Nat) : Except Error Unit :=
  if m.height = size ∧ m.width = size then .ok ()
  else .error (.wrongDimension size m.height m.width)

/-! ## Matrices of rows -/

/-- The number and the length of the first row that is not `width` long, where the first of the
rows has number `i`. -/
def uneven? (width i : Nat) : List (List Bool) → Option (Nat × Nat)
  | [] => none
  | row :: rows => if row.length = width then uneven? width (i + 1) rows else some (i, row.length)

theorem uneven?_eq_none_iff {width i : Nat} {rows : List (List Bool)} :
    uneven? width i rows = none ↔ ∀ row ∈ rows, row.length = width := by
  induction rows generalizing i with
  | nil => simp [uneven?]
  | cons row rows ih => by_cases h : row.length = width <;> simp [uneven?, h, ih]

/-- The matrix of the rows, if they are as long as the first. -/
def ofRows : List (List Bool) → Except Error Matrix
  | [] => .error .empty
  | row :: rows =>
    match h : uneven? row.length 0 (row :: rows) with
    | some (i, length) => .error (.ragged i row.length length)
    | none => .ok
      { rows := row :: rows
        width := row.length
        rows_ne_nil := by simp
        length_row := uneven?_eq_none_iff.1 h }

/-! ## Digits -/

/-- A cell, from its digit. -/
def cellOfDigit (c : Char) : Except Error Bool :=
  if c = '0' then .ok false else if c = '1' then .ok true else .error (.badDigit c)

/-- Read rows of digits with white space between them. -/
def ofDigits (t : Text) : Except Error Matrix := do
  ofRows (← t.words.mapM fun word => word.mapM cellOfDigit)

/-- The digit of a cell. -/
def digit (cell : Bool) : Char :=
  if cell then '1' else '0'

/-- The rows in digits. -/
def digits (m : Matrix) : List Text :=
  m.rows.map fun row => row.map digit

/-! ## Blocks -/

/-- The matrices side by side, first matrix to the left. -/
def beside : List Matrix → Except Error Matrix
  | [] => .error .empty
  | m :: ms =>
    if ms.any (·.height != m.height) then .error .unevenHeights
    else ofRows ((List.range m.height).map fun i => (m :: ms).flatMap (·.rows[i]?.getD []))

/-- The matrices on top of each other, first matrix on top. -/
def stack : List Matrix → Except Error Matrix
  | [] => .error .empty
  | m :: ms =>
    if ms.any (·.width != m.width) then .error .unevenWidths
    else ofRows ((m :: ms).flatMap rows)

end Matrix

end StudyGraph
