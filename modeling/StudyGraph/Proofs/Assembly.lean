import Mathlib
import StudyGraph.Proofs.Rows

/-!
# Matrices in blocks

Matrices of one height can be put side by side, and matrices of one width on top of each other, and
nothing else can go wrong with them than uneven heights or widths (`Matrix.beside_eq_error_iff`,
`Matrix.stack_eq_error_iff`). A cell of a part is then found behind the parts before it
(`Matrix.cell?_of_beside`, `Matrix.cell?_of_stack`).

Blocks in rows and columns that fit (`Grid`) are assembled by rows or by columns. Either way every
block keeps its cells and stands behind the rows above it and the columns to its left
(`Grid.Assembles`). Positions lie each in one block (`Grid.exists_position`), so there is one matrix
that the blocks assemble to (`Grid.Assembles.unique`).
-/

namespace StudyGraph

/-! ## Parts laid end to end -/

/-- Parts are laid end to end : an element of a part stands behind all that is before the part. -/
theorem getElem?_flatMap_sum_add {α β : Type} {l : List α} {f : α → List β} {i r : Nat} {a : α}
    (ha : l[i]? = some a) (hr : r < (f a).length) :
    (l.flatMap f)[((l.map fun x => (f x).length).take i).sum + r]? = (f a)[r]? := by
  induction l generalizing i with
  | nil => simp at ha
  | cons x l ih =>
    rw [List.flatMap_cons]
    cases i with
    | zero =>
      obtain rfl : x = a := by simpa using ha
      simp [List.getElem?_append_left hr]
    | succ i =>
      rw [List.map_cons, List.take_succ_cons, List.sum_cons, Nat.add_assoc,
        List.getElem?_append_right (Nat.le_add_right _ _), Nat.add_sub_cancel_left]
      exact ih (by simpa using ha)

/-- Every position lies in one of the parts. -/
theorem exists_eq_sum_take_add {sizes : List Nat} {p : Nat} (h : p < sizes.sum) :
    ∃ i r size, sizes[i]? = some size ∧ r < size ∧ p = (sizes.take i).sum + r := by
  induction sizes generalizing p with
  | nil => simp at h
  | cons size sizes ih =>
    rw [List.sum_cons] at h
    by_cases hp : p < size
    · exact ⟨0, p, size, rfl, hp, by simp⟩
    · obtain ⟨i, r, size', hsize, hr, heq⟩ := ih (p := p - size) (by omega)
      refine ⟨i + 1, r, size', hsize, hr, ?_⟩
      rw [List.take_succ_cons, List.sum_cons]
      omega

namespace Matrix

variable {parts : List Matrix} {whole part m m' : Matrix} {i r c : Nat}

theorem ext_cell? (hheight : m.height = m'.height) (hwidth : m.width = m'.width)
    (h : ∀ r < m.height, ∀ c < m.width, m.cell? r c = m'.cell? r c) : m = m' := by
  refine rows_injective (List.ext_getElem hheight fun r hr hr' => ?_)
  have hlength := m.length_row _ (List.getElem_mem hr)
  have hlength' := m'.length_row _ (List.getElem_mem hr')
  refine List.ext_getElem? fun c => ?_
  by_cases hc : c < m.width
  · simpa [cell?, hr, hr'] using h r hr c hc
  · rw [List.getElem?_eq_none (by omega), List.getElem?_eq_none (by omega)]

/-- Parts are uneven exactly if one is not like the first. -/
theorem any_ne_iff (size : Matrix → Nat) {ms : List Matrix} :
    ms.any (size · != size m) = true ↔ ∃ a ∈ m :: ms, ∃ b ∈ m :: ms, size a ≠ size b := by
  constructor
  · intro h
    obtain ⟨a, ha, hne⟩ := List.any_eq_true.1 h
    exact ⟨a, List.mem_cons_of_mem m ha, m, List.mem_cons_self, by simpa using hne⟩
  · rintro ⟨a, ha, b, hb, hne⟩
    by_contra h
    have hsize : ∀ x ∈ m :: ms, size x = size m := by simpa using h
    exact hne ((hsize a ha).trans (hsize b hb).symm)

/-! ## Side by side -/

/-- Row `r` of matrices side by side. -/
def rowBeside (parts : List Matrix) (r : Nat) : List Bool :=
  parts.flatMap (·.rows[r]?.getD [])

theorem length_row_getD (hr : r < m.height) : (m.rows[r]?.getD []).length = m.width := by
  rw [List.getElem?_eq_getElem hr, Option.getD_some]
  exact m.length_row _ (List.getElem_mem hr)

theorem map_length_rowBeside {k : Nat} (h : ∀ part ∈ parts, part.height = k) (hr : r < k) :
    (parts.map fun part => (part.rows[r]?.getD []).length) = parts.map width :=
  List.map_congr_left fun part hpart => length_row_getD (h part hpart ▸ hr)

theorem length_rowBeside {k : Nat} (h : ∀ part ∈ parts, part.height = k) (hr : r < k) :
    (rowBeside parts r).length = (parts.map width).sum := by
  rw [rowBeside, List.length_flatMap, map_length_rowBeside h hr]

theorem beside_eq_ok_iff : beside parts = .ok whole ↔ parts ≠ [] ∧
    (∀ part ∈ parts, part.height = whole.height) ∧
      whole.rows = (List.range whole.height).map (rowBeside parts) := by
  cases parts with
  | nil => simp [beside]
  | cons m ms =>
    have hall : ms.any (·.height != m.height) = false ↔
        ∀ part ∈ m :: ms, part.height = m.height := by
      simp
    rw [beside]
    constructor
    · intro h
      split at h
      · cases h
      · next heven =>
        have hrows := ofRows_eq_ok_iff.1 h
        have hheight : whole.height = m.height := by rw [height, hrows]; simp
        rw [hheight]
        exact ⟨List.cons_ne_nil m ms, hall.1 (by simpa using heven), hrows⟩
    · rintro ⟨-, heights, hrows⟩
      have hheight : m.height = whole.height := heights m List.mem_cons_self
      rw [← hheight] at heights hrows
      rw [hall.2 heights]
      exact ofRows_eq_ok_iff.2 hrows

/-- Matrices of one height can be put side by side. -/
theorem exists_beside_eq_ok {k : Nat} (hne : parts ≠ []) (h : ∀ part ∈ parts, part.height = k) :
    ∃ whole, beside parts = .ok whole ∧ whole.height = k := by
  obtain ⟨part, hpart⟩ := List.exists_mem_of_ne_nil parts hne
  have hk : k ≠ 0 := by
    rw [← h part hpart]
    exact fun hzero => part.rows_ne_nil (List.length_eq_zero_iff.1 hzero)
  let whole : Matrix :=
    { rows := (List.range k).map (rowBeside parts)
      width := (parts.map width).sum
      rows_ne_nil := by simpa using hk
      length_row := by
        intro row hrow
        obtain ⟨r, hr, rfl⟩ := List.mem_map.1 hrow
        exact length_rowBeside h (List.mem_range.1 hr) }
  have hheight : whole.height = k := by simp [height, whole]
  exact ⟨whole, beside_eq_ok_iff.2 ⟨hne, by rwa [hheight], by rw [hheight]⟩, hheight⟩

theorem beside_eq_error_iff {e : Error} : beside parts = .error e ↔ parts = [] ∧ e = .empty ∨
    (∃ a ∈ parts, ∃ b ∈ parts, a.height ≠ b.height) ∧ e = .unevenHeights := by
  cases parts with
  | nil => simp [beside, eq_comm]
  | cons m ms =>
    rw [← any_ne_iff height]
    cases huneven : ms.any (·.height != m.height) with
    | true => simp [beside, huneven, eq_comm]
    | false =>
      obtain ⟨whole, hwhole, -⟩ := exists_beside_eq_ok (List.cons_ne_nil m ms) (k := m.height)
        (by simpa using huneven)
      simp [hwhole]

theorem getElem?_rows_of_beside (h : beside parts = .ok whole) (hr : r < whole.height) :
    whole.rows[r]? = some (rowBeside parts r) := by
  rw [(beside_eq_ok_iff.1 h).2.2, List.getElem?_map, List.getElem?_range hr, Option.map_some]

theorem width_of_beside (h : beside parts = .ok whole) : whole.width = (parts.map width).sum := by
  have hpos : 0 < whole.height := List.length_pos_iff.2 whole.rows_ne_nil
  have hrow := List.mem_of_getElem? (getElem?_rows_of_beside h hpos)
  rw [← whole.length_row _ hrow, length_rowBeside (beside_eq_ok_iff.1 h).2.1 hpos]

/-- A cell of a part stands in its row, behind the parts to the left. -/
theorem cell?_of_beside (h : beside parts = .ok whole) (hpart : parts[i]? = some part)
    (hr : r < part.height) (hc : c < part.width) :
    whole.cell? r (((parts.map width).take i).sum + c) = part.cell? r c := by
  have heights := (beside_eq_ok_iff.1 h).2.1
  have hr' : r < whole.height := heights part (List.mem_of_getElem? hpart) ▸ hr
  have hrow := getElem?_flatMap_sum_add (f := fun part => part.rows[r]?.getD []) hpart
    (hc.trans_eq (length_row_getD hr).symm)
  rw [map_length_rowBeside heights hr'] at hrow
  rw [cell?, getElem?_rows_of_beside h hr', Option.bind_some, rowBeside, hrow, cell?,
    List.getElem?_eq_getElem hr, Option.getD_some, Option.bind_some]

/-! ## On top of each other -/

theorem stack_eq_ok_iff : stack parts = .ok whole ↔ parts ≠ [] ∧
    (∀ part ∈ parts, part.width = whole.width) ∧ whole.rows = parts.flatMap rows := by
  cases parts with
  | nil => simp [stack]
  | cons m ms =>
    have hall : ms.any (·.width != m.width) = false ↔
        ∀ part ∈ m :: ms, part.width = m.width := by
      simp
    rw [stack]
    constructor
    · intro h
      split at h
      · cases h
      · next heven =>
        have hrows := ofRows_eq_ok_iff.1 h
        obtain ⟨row, rows, hcons, hwidth⟩ := m.exists_rows_eq_cons
        have hrow : row ∈ whole.rows := by simp [hrows, hcons]
        rw [← whole.length_row row hrow, hwidth]
        exact ⟨List.cons_ne_nil m ms, hall.1 (by simpa using heven), hrows⟩
    · rintro ⟨-, widths, hrows⟩
      rw [← widths m List.mem_cons_self] at widths
      rw [hall.2 widths]
      exact ofRows_eq_ok_iff.2 hrows

/-- Matrices of one width can be put on top of each other. -/
theorem exists_stack_eq_ok {k : Nat} (hne : parts ≠ []) (h : ∀ part ∈ parts, part.width = k) :
    ∃ whole, stack parts = .ok whole ∧ whole.width = k := by
  let whole : Matrix :=
    { rows := parts.flatMap rows
      width := k
      rows_ne_nil := by
        obtain ⟨part, hpart⟩ := List.exists_mem_of_ne_nil parts hne
        exact fun hnil => part.rows_ne_nil (List.flatMap_eq_nil_iff.1 hnil part hpart)
      length_row := by
        intro row hrow
        obtain ⟨part, hpart, hmem⟩ := List.mem_flatMap.1 hrow
        exact (part.length_row row hmem).trans (h part hpart) }
  exact ⟨whole, stack_eq_ok_iff.2 ⟨hne, h, rfl⟩, rfl⟩

theorem stack_eq_error_iff {e : Error} : stack parts = .error e ↔ parts = [] ∧ e = .empty ∨
    (∃ a ∈ parts, ∃ b ∈ parts, a.width ≠ b.width) ∧ e = .unevenWidths := by
  cases parts with
  | nil => simp [stack, eq_comm]
  | cons m ms =>
    rw [← any_ne_iff width]
    cases huneven : ms.any (·.width != m.width) with
    | true => simp [stack, huneven, eq_comm]
    | false =>
      obtain ⟨whole, hwhole, -⟩ := exists_stack_eq_ok (List.cons_ne_nil m ms) (k := m.width)
        (by simpa using huneven)
      simp [hwhole]

theorem height_of_stack (h : stack parts = .ok whole) :
    whole.height = (parts.map height).sum := by
  rw [height, (stack_eq_ok_iff.1 h).2.2, List.length_flatMap]
  rfl

/-- A cell of a part stands in its column, behind the parts above. -/
theorem cell?_of_stack (h : stack parts = .ok whole) (hpart : parts[i]? = some part)
    (hr : r < part.height) :
    whole.cell? (((parts.map height).take i).sum + r) c = part.cell? r c := by
  have hrow : (parts.flatMap rows)[((parts.map height).take i).sum + r]? = part.rows[r]? :=
    getElem?_flatMap_sum_add hpart hr
  rw [cell?, (stack_eq_ok_iff.1 h).2.2, hrow, cell?]

end Matrix

/-! ## Grids -/

/-- Blocks in rows and columns. The blocks of a row have one height, and those of a column one
width. -/
structure Grid (rows columns : Nat) where
  /-- The block in a row and a column. -/
  block : Fin rows → Fin columns → Matrix
  /-- The height of the blocks of a row. -/
  height : Fin rows → Nat
  /-- The width of the blocks of a column. -/
  width : Fin columns → Nat
  height_block : ∀ i j, (block i j).height = height i
  width_block : ∀ i j, (block i j).width = width j

namespace Grid

variable {rows columns : Nat}

/-- The blocks of each row side by side, and then the rows on top of each other. -/
def byRows (g : Grid rows columns) : Except Matrix.Error Matrix := do
  Matrix.stack (← (List.ofFn fun i => List.ofFn fun j => g.block i j).mapM Matrix.beside)

/-- The blocks of each column on top of each other, and then the columns side by side. -/
def byColumns (g : Grid rows columns) : Except Matrix.Error Matrix := do
  Matrix.beside (← (List.ofFn fun j => List.ofFn fun i => g.block i j).mapM Matrix.stack)

/-- The heights of the rows above a row, together. -/
def top (g : Grid rows columns) (i : Fin rows) : Nat :=
  ((List.ofFn g.height).take i).sum

/-- The widths of the columns to the left of a column, together. -/
def left (g : Grid rows columns) (j : Fin columns) : Nat :=
  ((List.ofFn g.width).take j).sum

/-- The matrix has the blocks where they belong, and nothing else. -/
structure Assembles (g : Grid rows columns) (whole : Matrix) : Prop where
  height_eq : whole.height = (List.ofFn g.height).sum
  width_eq : whole.width = (List.ofFn g.width).sum
  cell?_eq : ∀ i j, ∀ r < g.height i, ∀ c < g.width j,
    whole.cell? (g.top i + r) (g.left j + c) = (g.block i j).cell? r c

/-- A position within as many sizes lies in one of the parts. -/
theorem exists_position {n : Nat} {size : Fin n → Nat} {p : Nat} (h : p < (List.ofFn size).sum) :
    ∃ i : Fin n, ∃ r < size i, p = ((List.ofFn size).take i).sum + r := by
  obtain ⟨i, r, s, hs, hr, rfl⟩ := exists_eq_sum_take_add h
  rw [List.getElem?_ofFn] at hs
  obtain ⟨hi, rfl⟩ : ∃ hi : i < n, size ⟨i, hi⟩ = s := by simpa using hs
  exact ⟨⟨i, hi⟩, r, hr, rfl⟩

variable {g : Grid rows columns} {whole : Matrix}

/-- Blocks assemble to one matrix. -/
theorem Assembles.unique {whole' : Matrix} (h : g.Assembles whole) (h' : g.Assembles whole') :
    whole = whole' := by
  refine Matrix.ext_cell? (h.height_eq.trans h'.height_eq.symm)
    (h.width_eq.trans h'.width_eq.symm) fun p hp q hq => ?_
  obtain ⟨i, r, hr, rfl⟩ := exists_position (hp.trans_eq h.height_eq)
  obtain ⟨j, c, hc, rfl⟩ := exists_position (hq.trans_eq h.width_eq)
  exact (h.cell?_eq i j r hr c hc).trans (h'.cell?_eq i j r hr c hc).symm

theorem mapM_ofFn_eq_ok {ε α β : Type} {n : Nat} {parts : Fin n → α} {f : α → Except ε β}
    {results : Fin n → β} (h : ∀ i, f (parts i) = .ok (results i)) :
    (List.ofFn parts).mapM f = .ok (List.ofFn results) := by
  induction n with
  | zero => rfl
  | succ n ih =>
    rw [List.ofFn_succ, List.mapM_cons, h, ih fun i => h i.succ, List.ofFn_succ]
    rfl

theorem map_ofFn_eq {n : Nat} {parts : Fin n → Matrix} {size : Matrix → Nat} {sizes : Fin n → Nat}
    (h : ∀ i, size (parts i) = sizes i) : (List.ofFn parts).map size = List.ofFn sizes := by
  rw [List.map_ofFn]
  exact congrArg List.ofFn (funext h)

theorem getElem?_ofFn_self {α : Type} {n : Nat} (f : Fin n → α) (i : Fin n) :
    (List.ofFn f)[(i : Nat)]? = some (f i) := by
  rw [List.getElem?_ofFn, dif_pos i.isLt]

theorem exists_byRows (g : Grid (rows + 1) (columns + 1)) :
    ∃ whole, g.byRows = .ok whole ∧ g.Assembles whole := by
  have hbands : ∀ i, ∃ band, Matrix.beside (List.ofFn fun j => g.block i j) = .ok band ∧
      band.height = g.height i := fun i =>
    Matrix.exists_beside_eq_ok (by simp) (List.forall_mem_ofFn_iff.2 (g.height_block i))
  choose band hband hheight using hbands
  have hwidth : ∀ i, (band i).width = (List.ofFn g.width).sum := fun i => by
    rw [Matrix.width_of_beside (hband i), map_ofFn_eq (g.width_block i)]
  have hwidths : ∀ part ∈ List.ofFn band, part.width = (List.ofFn g.width).sum :=
    List.forall_mem_ofFn_iff.2 hwidth
  obtain ⟨whole, hwhole, hwholeWidth⟩ := Matrix.exists_stack_eq_ok (by simp) hwidths
  refine ⟨whole, ?_, ?_, hwholeWidth, fun i j r hr c hc => ?_⟩
  · rw [byRows, mapM_ofFn_eq_ok hband]
    exact hwhole
  · rw [Matrix.height_of_stack hwhole, map_ofFn_eq hheight]
  · have hr' : r < (band i).height := hr.trans_eq (hheight i).symm
    have hrow := Matrix.cell?_of_stack (c := g.left j + c) hwhole (getElem?_ofFn_self band i) hr'
    have hcell := Matrix.cell?_of_beside (hband i) (getElem?_ofFn_self _ j)
      (hr.trans_eq (g.height_block i j).symm) (hc.trans_eq (g.width_block i j).symm)
    rw [map_ofFn_eq hheight] at hrow
    rw [map_ofFn_eq (g.width_block i)] at hcell
    exact hrow.trans hcell

theorem exists_byColumns (g : Grid (rows + 1) (columns + 1)) :
    ∃ whole, g.byColumns = .ok whole ∧ g.Assembles whole := by
  have hcolumns : ∀ j, ∃ column, Matrix.stack (List.ofFn fun i => g.block i j) = .ok column ∧
      column.width = g.width j := fun j =>
    Matrix.exists_stack_eq_ok (by simp) (List.forall_mem_ofFn_iff.2 fun i => g.width_block i j)
  choose column hcolumn hwidth using hcolumns
  have hheight : ∀ j, (column j).height = (List.ofFn g.height).sum := fun j => by
    rw [Matrix.height_of_stack (hcolumn j), map_ofFn_eq fun i => g.height_block i j]
  have hheights : ∀ part ∈ List.ofFn column, part.height = (List.ofFn g.height).sum :=
    List.forall_mem_ofFn_iff.2 hheight
  obtain ⟨whole, hwhole, hwholeHeight⟩ := Matrix.exists_beside_eq_ok (by simp) hheights
  refine ⟨whole, ?_, hwholeHeight, ?_, fun i j r hr c hc => ?_⟩
  · rw [byColumns, mapM_ofFn_eq_ok hcolumn]
    exact hwhole
  · rw [Matrix.width_of_beside hwhole, map_ofFn_eq hwidth]
  · have hrBlock : r < (g.block i j).height := hr.trans_eq (g.height_block i j).symm
    have hcBlock : c < (g.block i j).width := hc.trans_eq (g.width_block i j).symm
    have hcell := Matrix.cell?_of_stack (c := c) (hcolumn j) (getElem?_ofFn_self _ i) hrBlock
    rw [map_ofFn_eq fun i => g.height_block i j] at hcell
    -- The cell is there, so its row is one of the column.
    have hsome := Matrix.isSome_cell? _ hrBlock hcBlock
    rw [← hcell] at hsome
    have hrow := Matrix.cell?_of_beside hwhole (getElem?_ofFn_self column j)
      (Matrix.isSome_cell?_iff.1 hsome).1 (hc.trans_eq (hwidth j).symm)
    rw [map_ofFn_eq hwidth] at hrow
    exact hrow.trans hcell

/-- Blocks that fit can be assembled by rows and by columns, and both give the matrix in which every
block stands behind the heights and the widths before it; every position of it lies in a block.
Matrices side by side are refused exactly if there is none or heights differ, and those on top of
each other exactly if there is none or widths differ, and never for uneven rows. -/
theorem byRows_eq_byColumns :
    (∀ (rows columns : Nat) (g : Grid (rows + 1) (columns + 1)), ∃ whole,
      g.byRows = .ok whole ∧ g.byColumns = .ok whole ∧ g.Assembles whole ∧
      ∀ p < whole.height, ∀ q < whole.width, ∃ i j, ∃ r < g.height i, ∃ c < g.width j,
        p = g.top i + r ∧ q = g.left j + c) ∧
    (∀ parts e, Matrix.beside parts = .error e ↔ parts = [] ∧ e = .empty ∨
      (∃ a ∈ parts, ∃ b ∈ parts, a.height ≠ b.height) ∧ e = .unevenHeights) ∧
    ∀ parts e, Matrix.stack parts = .error e ↔ parts = [] ∧ e = .empty ∨
      (∃ a ∈ parts, ∃ b ∈ parts, a.width ≠ b.width) ∧ e = .unevenWidths := by
  refine ⟨fun rows columns g => ?_, fun parts e => Matrix.beside_eq_error_iff,
    fun parts e => Matrix.stack_eq_error_iff⟩
  obtain ⟨whole, hrows, hwhole⟩ := g.exists_byRows
  obtain ⟨whole', hcolumns, hwhole'⟩ := g.exists_byColumns
  obtain rfl := hwhole.unique hwhole'
  refine ⟨whole, hrows, hcolumns, hwhole, fun p hp q hq => ?_⟩
  obtain ⟨i, r, hr, hi⟩ := exists_position (hp.trans_eq hwhole.height_eq)
  obtain ⟨j, c, hc, hj⟩ := exists_position (hq.trans_eq hwhole.width_eq)
  exact ⟨i, j, r, hr, c, hc, hi, hj⟩

/-- Blocks of different sizes : the cells of the last one stand behind those of the others. -/
theorem byRows_eq_byColumns_of_uneven_blocks :
    let a : Matrix := ⟨[[true, false]], 2, by simp, by simp⟩
    let b : Matrix := ⟨[[true]], 1, by simp, by simp⟩
    let c : Matrix := ⟨[[false, true], [true, true]], 2, by simp, by simp⟩
    let d : Matrix := ⟨[[false], [true]], 1, by simp, by simp⟩
    let g : Grid 2 2 := ⟨fun i j => ![![a, b], ![c, d]] i j, ![1, 2], ![2, 1], by decide, by decide⟩
    ∃ whole, g.byRows = .ok whole ∧ g.byColumns = .ok whole ∧ whole.height = 3 ∧
      whole.cell? 1 2 = some false ∧ whole.cell? 2 2 = some true ∧
      Matrix.beside [a, c] = .error .unevenHeights ∧ Matrix.stack [] = .error .empty := by
  intro a b c d g
  obtain ⟨hgrid, hbeside, hstack⟩ := byRows_eq_byColumns
  obtain ⟨whole, hrows, hcolumns, hwhole, -⟩ := hgrid 1 1 g
  refine ⟨whole, hrows, hcolumns, hwhole.height_eq, ?_, ?_, ?_, ?_⟩
  · exact hwhole.cell?_eq 1 1 0 (by decide) 0 (by decide)
  · exact hwhole.cell?_eq 1 1 1 (by decide) 0 (by decide)
  · exact (hbeside _ _).2 (.inr ⟨⟨a, by simp, c, by simp, by decide⟩, rfl⟩)
  · exact (hstack _ _).2 (.inl ⟨rfl, rfl⟩)

end Grid

end StudyGraph
