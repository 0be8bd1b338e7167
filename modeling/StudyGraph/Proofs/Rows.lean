import StudyGraph.Matrix

/-!
# Rows that make a matrix

Rows make a matrix exactly if there is a row and all rows are as long as the first, and then the
matrix has these rows (`Matrix.ofRows_eq_ok_iff`). Otherwise the error is about the first row that
is not (`Matrix.Uneven`, `Matrix.ofRows_eq_error_iff`). Matrices come about in four ways
(`Matrix.Obtainable`), and whatever the way, a cell is there exactly within height and width
(`Matrix.isSome_cell?_iff`).
-/

namespace StudyGraph.Matrix

/-- Of parts with these lengths, part `i` is the first that is not as long as the first part. -/
structure Uneven (lengths : List Nat) (i expected actual : Nat) : Prop where
  head : lengths.head? = some expected
  here : lengths[i]? = some actual
  ne : actual ≠ expected
  before : ∀ j < i, lengths[j]? = some expected

variable {m : Matrix} {rows : List (List Bool)}

theorem uneven?_eq_some_iff {width i k length : Nat} : uneven? width i rows = some (k, length) ↔
    ∃ j, k = i + j ∧ (rows.map List.length)[j]? = some length ∧ length ≠ width ∧
      ∀ l < j, (rows.map List.length)[l]? = some width := by
  induction rows generalizing i with
  | nil => simp [uneven?]
  | cons row rows ih =>
    rw [uneven?]
    split
    · next hrow =>
      -- The row is as long as it should be, so the first that is not stands behind it.
      rw [ih]
      constructor
      · rintro ⟨j, rfl, hlength, hne, hbefore⟩
        refine ⟨j + 1, by omega, hlength, hne, ?_⟩
        rintro (_ | l) hl
        · simp [hrow]
        · exact hbefore l (by omega)
      · rintro ⟨_ | j, rfl, hlength, hne, hbefore⟩
        · exact absurd (by simpa [hrow] using hlength.symm) hne
        · exact ⟨j, by omega, hlength, hne, fun l hl => hbefore (l + 1) (by omega)⟩
    · next hrow =>
      constructor
      · intro h
        obtain ⟨rfl, rfl⟩ := Prod.mk.inj (Option.some.inj h)
        exact ⟨0, rfl, rfl, hrow, fun l hl => absurd hl (Nat.not_lt_zero l)⟩
      · rintro ⟨_ | j, rfl, hlength, -, hbefore⟩
        · simpa using hlength
        · exact absurd (by simpa using hbefore 0 (by omega)) hrow

theorem exists_rows_eq_cons (m : Matrix) :
    ∃ row rows, m.rows = row :: rows ∧ row.length = m.width := by
  obtain ⟨row, rows, h⟩ := List.exists_cons_of_ne_nil m.rows_ne_nil
  exact ⟨row, rows, h, m.length_row row (h ▸ List.mem_cons_self)⟩

/-- A matrix is told by its rows. -/
theorem rows_injective {m m' : Matrix} (h : m.rows = m'.rows) : m = m' := by
  obtain ⟨row, rows, hrows, hwidth⟩ := m.exists_rows_eq_cons
  have hrow : row ∈ m'.rows := h ▸ hrows ▸ List.mem_cons_self
  exact Matrix.ext h (hwidth.symm.trans (m'.length_row row hrow))

/-- The matrix of rows is the one that has these rows. -/
theorem ofRows_eq_ok_iff : ofRows rows = .ok m ↔ m.rows = rows := by
  constructor
  · intro h
    cases rows with
    | nil => cases h
    | cons row rows =>
      rw [ofRows] at h
      split at h
      · cases h
      · cases h
        rfl
  · rintro rfl
    obtain ⟨row, rows, hrows, hwidth⟩ := m.exists_rows_eq_cons
    have heven : uneven? row.length 0 (row :: rows) = none := by
      rw [uneven?_eq_none_iff, hwidth, ← hrows]
      exact m.length_row
    rw [hrows, ofRows]
    split
    · next h => cases heven.symm.trans h
    · exact congrArg Except.ok (rows_injective hrows.symm)

/-- Rows are refused exactly if there is none, or one is not as long as the first. -/
theorem ofRows_eq_error_iff {e : Error} : ofRows rows = .error e ↔
    rows = [] ∧ e = .empty ∨
      ∃ i expected actual, Uneven (rows.map List.length) i expected actual ∧
        e = .ragged i expected actual := by
  cases rows with
  | nil =>
    have hnever : ∀ i expected actual, ¬Uneven [] i expected actual :=
      fun i expected actual h => by cases h.head
    simp [ofRows, hnever, eq_comm]
  | cons row rows =>
    have huneven : ∀ i expected actual, Uneven ((row :: rows).map List.length) i expected actual ↔
        expected = row.length ∧ uneven? row.length 0 (row :: rows) = some (i, actual) := by
      intro i expected actual
      rw [uneven?_eq_some_iff]
      constructor
      · rintro ⟨hhead, hhere, hne, hbefore⟩
        obtain rfl : row.length = expected := by simpa using hhead
        exact ⟨rfl, i, (Nat.zero_add i).symm, hhere, hne, hbefore⟩
      · rintro ⟨rfl, j, hi, hhere, hne, hbefore⟩
        obtain rfl : i = j := by rw [hi, Nat.zero_add]
        exact ⟨rfl, hhere, hne, hbefore⟩
    simp only [huneven, reduceCtorEq, false_and, false_or]
    rw [ofRows]
    split
    · next i length h =>
      simp only [h, Except.error.injEq, Option.some.injEq, Prod.mk.injEq]
      constructor
      · rintro rfl
        exact ⟨i, row.length, length, ⟨rfl, rfl, rfl⟩, rfl⟩
      · rintro ⟨_, _, _, ⟨rfl, rfl, rfl⟩, rfl⟩
        rfl
    · next h => simp [h]

/-- Equally long rows make a matrix. -/
theorem exists_ofRows_eq_ok {width : Nat} (hne : rows ≠ [])
    (h : ∀ row ∈ rows, row.length = width) : ∃ m, ofRows rows = .ok m :=
  ⟨⟨rows, width, hne, h⟩, ofRows_eq_ok_iff.2 rfl⟩

/-! ## Matrices that come about -/

/-- The ways in which matrices come about. -/
inductive Obtainable : Matrix → Prop where
  | ofRows {rows : List (List Bool)} {m : Matrix} (h : ofRows rows = .ok m) : Obtainable m
  | ofDigits {t : Text} {m : Matrix} (h : ofDigits t = .ok m) : Obtainable m
  | beside {parts : List Matrix} {m : Matrix} (hparts : ∀ part ∈ parts, Obtainable part)
      (h : beside parts = .ok m) : Obtainable m
  | stack {parts : List Matrix} {m : Matrix} (hparts : ∀ part ∈ parts, Obtainable part)
      (h : stack parts = .ok m) : Obtainable m

/-- There is a cell exactly within height and width. -/
theorem isSome_cell?_iff {r c : Nat} : (m.cell? r c).isSome ↔ r < m.height ∧ c < m.width := by
  refine ⟨fun h => ?_, fun h => m.isSome_cell? h.1 h.2⟩
  rw [cell?, Option.isSome_bind, Option.any_eq_true] at h
  obtain ⟨row, hrow, hc⟩ := h
  obtain ⟨hr, rfl⟩ := List.getElem?_eq_some_iff.1 hrow
  have hlength := m.length_row _ (List.getElem_mem hr)
  exact ⟨hr, by simpa [hlength] using hc⟩

/-- The rows that matrices have are those of one length, with at least one of them. -/
theorem exists_obtainable_iff : (∃ m, Obtainable m ∧ m.rows = rows) ↔
    rows ≠ [] ∧ ∀ row ∈ rows, ∀ other ∈ rows, row.length = other.length := by
  constructor
  · rintro ⟨m, -, rfl⟩
    refine ⟨m.rows_ne_nil, fun row hrow other hother => ?_⟩
    rw [m.length_row row hrow, m.length_row other hother]
  · rintro ⟨hne, hlength⟩
    obtain ⟨first, hfirst⟩ := List.exists_mem_of_ne_nil rows hne
    obtain ⟨m, hm⟩ := exists_ofRows_eq_ok hne fun row hrow => hlength row hrow first hfirst
    exact ⟨m, .ofRows hm, ofRows_eq_ok_iff.1 hm⟩

end StudyGraph.Matrix
