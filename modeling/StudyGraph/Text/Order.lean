import StudyGraph.Text

/-!
# Order of texts

Texts in the order of a dictionary, over a rank of the characters. Where a text starts another one
it comes first (`before_nil`); else the first characters that differ decide. The order is
irreflexive and transitive (`not_before_self`, `before_trans`), and total where different characters
have different ranks (`before_of_not_before`).

By the code points of the characters this is also the order of the UTF-8 bytes. By `pathRank` it is
the order of paths, name by name.
-/

namespace StudyGraph.Text

/-- Whether `s` comes strictly before `t`. -/
def before (rank : Char → Nat) : Text → Text → Bool
  | _, [] => false
  | [], _ :: _ => true
  | c :: s, d :: t => rank c < rank d || rank c == rank d && before rank s t

variable {rank : Char → Nat}

@[simp] theorem before_nil (s : Text) : before rank s [] = false := by
  cases s <;> rfl

@[simp] theorem before_cons_cons (c d : Char) (s t : Text) :
    before rank (c :: s) (d :: t) = true ↔
      rank c < rank d ∨ rank c = rank d ∧ before rank s t = true := by
  simp [before]

@[simp] theorem not_before_self (s : Text) : before rank s s = false := by
  induction s with
  | nil => rfl
  | cons c s ih => simp [before, ih]

theorem before_trans {s t u : Text} (hst : before rank s t = true) (htu : before rank t u = true) :
    before rank s u = true := by
  induction s generalizing t u with
  | nil =>
    cases u with
    | nil => simp at htu
    | cons e u => rfl
  | cons c s ih =>
    cases t with
    | nil => simp at hst
    | cons d t =>
      cases u with
      | nil => simp at htu
      | cons e u =>
        rw [before_cons_cons] at hst htu ⊢
        rcases hst with hcd | ⟨hcd, hst⟩ <;> rcases htu with hde | ⟨hde, htu⟩
        · exact Or.inl (Nat.lt_trans hcd hde)
        · exact Or.inl (hde ▸ hcd)
        · exact Or.inl (hcd ▸ hde)
        · exact Or.inr ⟨hcd.trans hde, ih hst htu⟩

/-- Of two different texts one comes first. -/
theorem before_of_not_before (hrank : Function.Injective rank) {s t : Text}
    (hst : ¬ before rank s t = true) (hne : t ≠ s) : before rank t s = true := by
  induction s generalizing t with
  | nil =>
    cases t with
    | nil => exact absurd rfl hne
    | cons d t => exact absurd rfl hst
  | cons c s ih =>
    cases t with
    | nil => rfl
    | cons d t =>
      rw [before_cons_cons] at hst ⊢
      rcases Nat.lt_trichotomy (rank d) (rank c) with h | h | h
      · exact Or.inl h
      · refine Or.inr ⟨h, ih (fun hs => hst (Or.inr ⟨h.symm, hs⟩)) ?_⟩
        intro hts
        exact hne (by rw [hts, hrank h])
      · exact absurd (Or.inl h) hst

/-- A character's code point ranks it. -/
theorem injective_toNat : Function.Injective Char.toNat := fun _ _ h =>
  Char.toNat_inj.1 h

/-- In a path the slash, which ends a name, ranks below all that names are made of. -/
def pathRank (c : Char) : Nat :=
  if c = '/' then 0 else c.toNat + 1

end StudyGraph.Text
