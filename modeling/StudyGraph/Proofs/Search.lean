import StudyGraph.Text.Search

/-!
# What a search finds

A search for a needle goes through a text from the left. It finds the first place at which the
needle stands, and goes on behind it, so no two of the places overlap. `Text.Finds` says so of a
list of positions. There is one such list (`Text.Finds.unique`), which `occurrences` computes
(`Text.occurrences_eq_iff`).
-/

namespace StudyGraph.Text

variable {needle t : Text}

/-- The positions at which a search from position `i` on finds the needle : each is the first one
from where the search goes on, and the search goes on where the needle ends. -/
inductive Finds (needle t : Text) : Nat → List Nat → Prop where
  | none {i : Nat} (h : ∀ k, i ≤ k → ¬needle <+: t.drop k) : Finds needle t i []
  | next {i p : Nat} {positions : List Nat} (hle : i ≤ p) (hp : needle <+: t.drop p)
      (hfirst : ∀ k, i ≤ k → k < p → ¬needle <+: t.drop k)
      (hrest : Finds needle t (p + needle.length) positions) : Finds needle t i (p :: positions)

/-- What a search finds first cuts the text there. -/
theorem Finds.exists_append {i p : Nat} {positions : List Nat} (hneedle : needle ≠ [])
    (h : Finds needle t i (p :: positions)) :
    ∃ before after, t = before ++ needle ++ after ∧ before.length = p := by
  cases h with
  | next _ hp _ _ =>
    obtain ⟨after, hafter⟩ := hp
    refine ⟨t.take p, after, ?_, ?_⟩
    · rw [List.append_assoc, hafter, List.take_append_drop]
    · have hlength := congrArg List.length hafter
      have hpos : 0 < needle.length := List.length_pos_iff.2 hneedle
      rw [List.length_append, List.length_drop] at hlength
      rw [List.length_take]
      omega

/-- A search finds one list of positions. -/
theorem Finds.unique {i : Nat} {ps qs : List Nat} (hps : Finds needle t i ps)
    (hqs : Finds needle t i qs) : ps = qs := by
  induction hps generalizing qs with
  | none h =>
    cases hqs with
    | none => rfl
    | next hle hq => exact absurd hq (h _ hle)
  | @next i p ps hle hp hfirst _ ih =>
    cases hqs with
    | none h => exact absurd hp (h p hle)
    | @next _ q qs hle' hq hfirst' hrest =>
      obtain hlt | rfl | hlt := Nat.lt_trichotomy p q
      · exact absurd hp (hfirst' p hle hlt)
      · rw [ih hrest]
      · exact absurd hq (hfirst q hle' hlt)

/-- Where the needle does not stand, a search finds what it finds from the next position on. -/
theorem Finds.of_succ {i : Nat} {positions : List Nat} (hi : ¬needle <+: t.drop i)
    (h : Finds needle t (i + 1) positions) : Finds needle t i positions := by
  cases h with
  | none h =>
    refine .none fun k hk => ?_
    obtain rfl | hlt := Nat.eq_or_lt_of_le hk
    · exact hi
    · exact h k hlt
  | next hle hp hfirst hrest =>
    refine .next (Nat.le_of_succ_le hle) hp (fun k hk hlt => ?_) hrest
    obtain rfl | hk := Nat.eq_or_lt_of_le hk
    · exact hi
    · exact hfirst k hk hlt

theorem finds_occurrencesFrom (hneedle : needle ≠ []) : ∀ (i skip : Nat) (rest : Text),
    t.drop i = rest → Finds needle t (i + skip) (occurrencesFrom needle i skip rest)
  | i, skip, [], hrest => by
    rw [occurrencesFrom]
    refine .none fun k hk hprefix => hneedle ?_
    have hbehind : t.drop k = [] := by
      rw [List.drop_eq_nil_iff] at hrest ⊢
      omega
    rw [hbehind] at hprefix
    exact List.prefix_nil.1 hprefix
  | i, skip + 1, c :: rest, hrest => by
    have hnext : t.drop (i + 1) = rest := by rw [← List.drop_drop, hrest]; rfl
    have hmore := finds_occurrencesFrom hneedle (i + 1) skip rest hnext
    rwa [Nat.add_assoc, Nat.add_comm 1] at hmore
  | i, 0, c :: rest, hrest => by
    have hnext : t.drop (i + 1) = rest := by rw [← List.drop_drop, hrest]; rfl
    rw [occurrencesFrom]
    split
    · next hprefix =>
      have hlength : 0 < needle.length := List.length_pos_iff.2 hneedle
      have hmore := finds_occurrencesFrom hneedle (i + 1) (needle.length - 1) rest hnext
      have hgo : i + 1 + (needle.length - 1) = i + needle.length := by omega
      rw [hgo] at hmore
      rw [← hrest] at hprefix
      refine .next (Nat.le_refl i) (List.isPrefixOf_iff_prefix.1 hprefix) (fun k hk hlt => ?_) hmore
      omega
    · next hprefix =>
      rw [← hrest, List.isPrefixOf_iff_prefix] at hprefix
      exact (finds_occurrencesFrom hneedle (i + 1) 0 rest hnext).of_succ hprefix

/-- The occurrences are what a search from the left finds. -/
theorem occurrences_eq_iff (hneedle : needle ≠ []) {positions : List Nat} :
    occurrences needle t = positions ↔ Finds needle t 0 positions := by
  have hfinds : Finds needle t 0 (occurrences needle t) :=
    finds_occurrencesFrom hneedle 0 0 t List.drop_zero
  exact ⟨fun h => h ▸ hfinds, hfinds.unique⟩

example : occurrences "aa".toList "aaaaa".toList = [0, 2] := by decide

end StudyGraph.Text
