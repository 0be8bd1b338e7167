import Mathlib.Data.Set.Card
import StudyGraph.Fixture
import StudyGraph.Proofs.Cloze
import StudyGraph.Proofs.Relation

/-!
# Expectations are met

A fixture can expect that its text fails with a certain part in the message, or numbers of what the
graph of its text has : of nodes, of nodes of each kind, of parents and of edges
(`Expectations.Count`). The numbers that are checked are read off the lists that make up the graph.
In a well-formed graph these are the numbers of identities that `get?` and `children` know
(`Count.number`, `Expectations.counts_eq`). So the check is silent exactly if the outcome is as
expected (`Expectations.check_eq_none_iff`), and otherwise it names each of the numbers that differ
(`Expectations.names_of_check`).
-/

namespace StudyGraph

/-! ## Numbers of members -/

theorem ncard_eq_length {α : Type} [DecidableEq α] {s : Set α} {as : List α} (has : as.Nodup)
    (h : ∀ a, a ∈ s ↔ a ∈ as) : s.ncard = as.length := by
  have hs : s = ↑as.toFinset := Set.ext fun a => by simp [h]
  rw [hs, Set.ncard_coe_finset, List.toFinset_card_of_nodup has]

/-- The keys whose values satisfy `p` are counted at the values. -/
theorem OrderedMap.ncard_get?_eq {κ ν : Type} [DecidableEq κ] (m : OrderedMap κ ν) (p : ν → Bool) :
    {k | ∃ v, m.get? k = some v ∧ p v = true}.ncard = (m.values.filter p).length := by
  have hnodup : ((m.entries.filter fun e => p e.2).map Prod.fst).Nodup :=
    m.nodup_keys.sublist (List.filter_sublist.map _)
  rw [ncard_eq_length hnodup fun k => ?_, OrderedMap.values, List.filter_map, List.length_map,
    List.length_map]
  · rfl
  · simp [← OrderedMap.mem_entries_iff]

namespace Expectations

/-! ## Numbers -/

/-- What a fixture can expect a number of. -/
inductive Count where
  | nodes
  | ofKind (kind : Quiz.Kind)
  | parents
  | edges

namespace Count

/-- All that is counted, in the order in which it is checked. -/
def all : List Count :=
  [nodes, ofKind .card, ofKind .cloze, ofKind .matching, parents, edges]

theorem mem_all (count : Count) : count ∈ all := by
  cases count with
  | ofKind kind => cases kind <;> simp [all]
  | _ => simp [all]

/-- The name under which a number is reported. -/
def name : Count → Text
  | nodes => "nodes"
  | ofKind .card => "cards"
  | ofKind .cloze => "clozes"
  | ofKind .matching => "matches"
  | parents => "edge parents"
  | edges => "edges"

theorem nodup_names : (all.map name).Nodup := by
  decide

/-- The number that is expected. -/
def expected (e : Expectations) : Count → Option Nat
  | nodes => e.nodes
  | ofKind .card => e.cards
  | ofKind .cloze => e.clozes
  | ofKind .matching => e.matchings
  | parents => e.edgeParents
  | edges => e.edges

/-- The number that there is : of identities of nodes, of those of a kind, of those with a child,
and of pairs of a parent and a child. -/
noncomputable def number (g : Graph) : Count → Nat
  | nodes => {id | ∃ quiz, g.get? id = some quiz}.ncard
  | ofKind kind => {id | ∃ quiz, g.get? id = some quiz ∧ quiz.kind = kind}.ncard
  | parents => {id | (∃ quiz, g.get? id = some quiz) ∧ ∃ child, child ∈ g.children id}.ncard
  | edges => {edge : QuizId × QuizId | edge.2 ∈ g.children edge.1}.ncard

variable {g : Graph}

theorem number_nodes (g : Graph) : nodes.number g = g.size := by
  have hcount := g.nodes.ncard_get?_eq fun _ => true
  simpa [number, Graph.get?, Graph.size, OrderedMap.size, OrderedMap.values] using hcount

theorem number_ofKind (g : Graph) (kind : Quiz.Kind) :
    (ofKind kind).number g = g.countKind kind := by
  have hcount := g.nodes.ncard_get?_eq fun quiz => quiz.kind = kind
  simpa [number, Graph.get?, Graph.countKind, Graph.ofKind] using hcount

theorem number_parents (hg : g.WellFormed) : parents.number g = g.parentCount := by
  rw [hg.parentCount_eq]
  refine ncard_eq_length (g.nodes.nodup_keys'.filter _) fun id => ?_
  have hnode : (∃ quiz, g.get? id = some quiz) ↔ id ∈ g.nodes.keys := by
    rw [← Option.ne_none_iff_exists', Graph.get?, Ne, OrderedMap.get?_eq_none_iff, not_not]
  have hchild : (∃ child, child ∈ g.children id) ↔ g.children id ≠ [] :=
    ⟨fun ⟨_, h⟩ => List.ne_nil_of_mem h, List.exists_mem_of_ne_nil _⟩
  simp only [Set.mem_ofPred_eq, hnode, hchild, List.mem_filter, decide_eq_true_eq]

theorem number_edges (g : Graph) : edges.number g = g.edgeCount :=
  ncard_eq_length g.nodup_edgeList fun edge => by
    obtain ⟨parent, child⟩ := edge
    rw [Graph.mem_edgeList_iff, ← Graph.mem_children_iff]
    rfl

end Count

variable {e : Expectations} {g : Graph}

/-- In a well-formed graph the numbers that are checked are those that there are. -/
theorem counts_eq (e : Expectations) (hg : g.WellFormed) :
    e.counts g = Count.all.map fun count => (count.name, count.expected e, count.number g) := by
  simp only [Count.all, List.map_cons, List.map_nil, Count.number_nodes, Count.number_ofKind,
    Count.number_parents hg, Count.number_edges]
  rfl

/-! ## Checking -/

/-- The outcome of compiling is as expected : a failure whose message has the expected part, or a
graph, where no failure is expected, with all of the numbers that are. -/
def MetBy (e : Expectations) : Except Failure Graph → Prop
  | .error failure => ∃ part, e.error = some part ∧ part <:+: failure.message
  | .ok g => e.error = none ∧
    ∀ (count : Count) (n : Nat), count.expected e = some n → n = count.number g

/-- The names of numbers that differ, with what is expected and what there is : each of them once,
and a line for each in the message. -/
structure Names (e : Expectations) (g : Graph) (differences : List (Text × Nat × Nat)) : Prop where
  mem_iff : ∀ name expected actual, (name, expected, actual) ∈ differences ↔
    ∃ count : Count, count.name = name ∧ count.expected e = some expected ∧
      count.number g = actual ∧ expected ≠ actual
  nodup : (differences.map Prod.fst).Nodup
  lines : Text.splitOn '\n' (Mismatch.counts differences).message =
    differences.map fun (name, expected, actual) =>
      name ++ ": expected " ++ Text.ofNat expected ++ ", got " ++ Text.ofNat actual

theorem mem_differences_iff (hg : g.WellFormed) {name : Text} {expected actual : Nat} :
    (name, expected, actual) ∈ e.differences g ↔
      ∃ count : Count, count.name = name ∧ count.expected e = some expected ∧
        count.number g = actual ∧ expected ≠ actual := by
  rw [differences, counts_eq e hg, List.filterMap_map, List.mem_filterMap]
  refine exists_congr fun count => ?_
  simp only [Count.mem_all, true_and, Function.comp_apply]
  cases count.expected e with
  | none => simp
  | some n =>
    by_cases h : n = count.number g
    · simp only [if_pos h, Option.some.injEq]
      constructor
      · intro hnone
        cases hnone
      · rintro ⟨-, rfl, rfl, hne⟩
        exact absurd h hne
    · simp only [if_neg h, Option.some.injEq, Prod.mk.injEq]
      constructor
      · rintro ⟨rfl, rfl, rfl⟩
        exact ⟨rfl, rfl, rfl, h⟩
      · rintro ⟨rfl, rfl, rfl, -⟩
        exact ⟨rfl, rfl, rfl⟩

/-- Each number is checked once. -/
theorem nodup_differences (e : Expectations) (g : Graph) :
    ((e.differences g).map Prod.fst).Nodup := by
  have hsublist : ((e.differences g).map Prod.fst).Sublist ((e.counts g).map Prod.fst) := by
    rw [differences]
    induction e.counts g with
    | nil => exact List.Sublist.refl _
    | cons count counts ih =>
      obtain ⟨name, expected, actual⟩ := count
      cases expected with
      | none => exact ih.cons _
      | some n =>
        by_cases h : n = actual
        · rw [List.filterMap_cons_none (by simp [h])]
          exact ih.cons _
        · rw [List.filterMap_cons_some (b := (name, n, actual)) (by simp [h])]
          exact ih.cons_cons _
  exact Count.nodup_names.sublist hsublist

theorem newline_notMem_ofNat (n : Nat) : '\n' ∉ Text.ofNat n := fun h =>
  absurd (Nat.isDigit_of_mem_toDigits (by decide) (by decide) h) (by decide)

theorem newline_notMem_name (count : Count) : '\n' ∉ count.name := by
  cases count with
  | ofKind kind => cases kind <;> decide
  | _ => decide

theorem names_differences (hg : g.WellFormed) (hne : e.differences g ≠ []) :
    e.Names g (e.differences g) where
  mem_iff _ _ _ := mem_differences_iff hg
  nodup := nodup_differences e g
  lines := by
    refine Text.splitOn_join (by simpa using hne) fun line hline => ?_
    obtain ⟨⟨name, expected, actual⟩, hmem, rfl⟩ := List.mem_map.1 hline
    obtain ⟨count, rfl, -⟩ := (mem_differences_iff hg).1 hmem
    simp only [List.mem_append, newline_notMem_ofNat, newline_notMem_name, or_false, false_or]
    decide

/-- The check is silent exactly if the outcome is as expected. -/
theorem check_eq_none_iff {outcome : Except Failure Graph}
    (h : ∀ g, outcome = .ok g → g.WellFormed) : e.check outcome = none ↔ e.MetBy outcome := by
  unfold check MetBy
  cases outcome with
  | error failure =>
    cases e.error with
    | none => simp
    | some part =>
      simp only [Option.some.injEq, exists_eq_left', ← Text.contains_iff_isInfix]
      split <;> simp [*]
  | ok g =>
    cases e.error with
    | some part => simp
    | none =>
      have hempty : (e.differences g).isEmpty = true ↔
          ∀ (count : Count) (n : Nat), count.expected e = some n → n = count.number g := by
        rw [List.isEmpty_iff, List.eq_nil_iff_forall_not_mem]
        constructor
        · intro hnone count n hn
          by_contra hne
          exact hnone _ ((mem_differences_iff (h g rfl)).2 ⟨count, rfl, hn, rfl, hne⟩)
        · rintro hall ⟨name, expected, actual⟩ hmem
          obtain ⟨count, -, hn, rfl, hne⟩ := (mem_differences_iff (h g rfl)).1 hmem
          exact hne (hall count expected hn)
      simp [← hempty]

/-- The check names numbers exactly if some differ in the graph of a text that is not expected to
fail, and these are the numbers that it names. -/
theorem names_of_check {outcome : Except Failure Graph}
    (h : ∀ g, outcome = .ok g → g.WellFormed) {differences : List (Text × Nat × Nat)}
    (hcheck : e.check outcome = some (.counts differences)) :
    ∃ g, outcome = .ok g ∧ e.error = none ∧ differences ≠ [] ∧ e.Names g differences := by
  unfold check at hcheck
  split at hcheck
  · split at hcheck <;> cases hcheck
  · cases hcheck
  · cases hcheck
  · next g herror =>
    split at hcheck
    · cases hcheck
    · next hne =>
      cases hcheck
      rw [List.isEmpty_iff] at hne
      exact ⟨g, rfl, herror, hne, names_differences (h g rfl) hne⟩

end Expectations

end StudyGraph
