import Mathlib
import StudyGraph.Proofs.PlanContribution
import StudyGraph.Readers.Markdown.Heading

/-!
# Graphs that can be built

`Graph.Built` lists the ways in which a graph comes about : from the empty graph by inserting
quizzes and edges, linking groups, merging graphs that were built, and compiling blocks and sources,
where an operation that fails leaves what it left. Every one of them adds a complete contribution,
so every graph that can be built is well-formed (`Built.wellFormed`). In a well-formed graph the
edges can be counted at the parents, at the children, or one by one
(`WellFormed.sum_length_children`, `WellFormed.sum_length_parents`).
-/

namespace StudyGraph

/-! ## Counting edges -/

section Counting

variable {κ : Type} [DecidableEq κ]

/-- Elements of a list are counted by counting each of the keys among which they are. -/
theorem sum_count_eq_length {keys as : List κ} (hkeys : keys.Nodup) (h : ∀ a ∈ as, a ∈ keys) :
    (keys.map fun k => as.count k).sum = as.length := by
  rw [← List.sum_toFinset _ hkeys]
  have hcard := Multiset.sum_count_eq_card (s := keys.toFinset) (m := (as : Multiset κ))
    fun a ha => List.mem_toFinset.2 (h a ha)
  simpa using hcard

/-- Each key with each member of its set. -/
def pairsOf (es : List (κ × OrderedSet κ)) : List (κ × κ) :=
  es.flatMap fun e => e.2.toList.map (e.1, ·)

theorem count_map_fst_pairsOf {es : List (κ × OrderedSet κ)} (k : κ)
    (hes : (es.map Prod.fst).Nodup) :
    ((pairsOf es).map Prod.fst).count k =
      (((OrderedMap.find? k es).map OrderedSet.toList).getD []).length := by
  induction es with
  | nil => rfl
  | cons e es ih =>
    obtain ⟨l, set⟩ := e
    obtain ⟨hl, hes⟩ := List.nodup_cons.1 hes
    have hhead : ((set.toList.map (l, ·)).map Prod.fst).count k =
        if l = k then set.toList.length else 0 := by
      rw [List.map_map]
      simp [Function.comp_def, List.map_const', List.count_replicate]
    have hcons : pairsOf ((l, set) :: es) = set.toList.map (l, ·) ++ pairsOf es := rfl
    rw [hcons, List.map_append, List.count_append, hhead, ih hes]
    by_cases h : l = k
    · subst h
      simp [OrderedMap.find?, OrderedMap.find?_eq_none_iff.2 hl]
    · simp [OrderedMap.find?, h]

theorem count_map_snd_pairsOf (es : List (κ × OrderedSet κ)) (k : κ) :
    ((pairsOf es).map Prod.snd).count k = ((es.filter fun e => k ∈ e.2).map Prod.fst).length := by
  induction es with
  | nil => rfl
  | cons e es ih =>
    obtain ⟨l, set⟩ := e
    have hhead : (set.toList.map (l, ·)).map Prod.snd = set.toList := by simp
    have hcons : pairsOf ((l, set) :: es) = set.toList.map (l, ·) ++ pairsOf es := rfl
    rw [hcons, List.map_append, List.count_append, hhead, ih]
    by_cases h : k ∈ set
    · simp [h, List.count_eq_one_of_mem set.nodup h, Nat.add_comm]
    · simp [h, List.count_eq_zero_of_not_mem h]

/-- The pairs are counted at their first members. -/
theorem sum_length_find? {es : List (κ × OrderedSet κ)} {keys : List κ}
    (hes : (es.map Prod.fst).Nodup) (hkeys : keys.Nodup) (h : ∀ e ∈ es, e.1 ∈ keys) :
    (keys.map fun k => (((OrderedMap.find? k es).map OrderedSet.toList).getD []).length).sum =
      (pairsOf es).length := by
  have hmem : ∀ k ∈ (pairsOf es).map Prod.fst, k ∈ keys := by
    intro k hk
    obtain ⟨pair, hpair, rfl⟩ := List.mem_map.1 hk
    obtain ⟨e, he, hpair⟩ := List.mem_flatMap.1 hpair
    obtain ⟨member, -, rfl⟩ := List.mem_map.1 hpair
    exact h e he
  have hsum := sum_count_eq_length hkeys hmem
  simpa only [count_map_fst_pairsOf _ hes, List.length_map] using hsum

/-- The pairs are counted at their second members. -/
theorem sum_length_filter {es : List (κ × OrderedSet κ)} {keys : List κ} (hkeys : keys.Nodup)
    (h : ∀ e ∈ es, ∀ member ∈ e.2, member ∈ keys) :
    (keys.map fun k => ((es.filter fun e => k ∈ e.2).map Prod.fst).length).sum =
      (pairsOf es).length := by
  have hmem : ∀ k ∈ (pairsOf es).map Prod.snd, k ∈ keys := by
    intro k hk
    obtain ⟨pair, hpair, rfl⟩ := List.mem_map.1 hk
    obtain ⟨e, he, hpair⟩ := List.mem_flatMap.1 hpair
    obtain ⟨member, hmember, rfl⟩ := List.mem_map.1 hpair
    exact h e he member hmember
  have hsum := sum_count_eq_length hkeys hmem
  simpa only [count_map_snd_pairsOf, List.length_map] using hsum

end Counting

namespace Graph

namespace WellFormed

variable {g : Graph} (hg : g.WellFormed)

include hg

/-- The edges are counted at their parents. -/
theorem sum_length_children :
    (g.nodes.keys.map fun id => (g.children id).length).sum = g.edgeCount :=
  sum_length_find? g.edges.nodup_keys g.nodes.nodup_keys' fun e he => (hg.edge e he).1

/-- The edges are counted at their children. -/
theorem sum_length_parents :
    (g.nodes.keys.map fun id => (g.parents id).length).sum = g.edgeCount :=
  sum_length_filter g.nodes.nodup_keys' fun e he => (hg.edge e he).2.2.2

theorem children_ne_nil_iff {id : QuizId} : g.children id ≠ [] ↔ id ∈ g.edges.keys := by
  unfold children
  cases hget : g.edges.get? id with
  | none => simpa using OrderedMap.get?_eq_none_iff.1 hget
  | some children =>
    have hentry := OrderedMap.mem_entries_iff.2 hget
    have hne : children.toList ≠ [] := fun h => (hg.edge _ hentry).2.2.1 (OrderedSet.ext h)
    have hkey : id ∈ g.edges.keys := List.mem_map.2 ⟨_, hentry, rfl⟩
    simp [hne, hkey]

/-- The parents of the edge map are the nodes with a child. -/
theorem parentCount_eq :
    g.parentCount = (g.nodes.keys.filter fun id => g.children id ≠ []).length := by
  have hmem : ∀ id, id ∈ g.edges.keys ↔ id ∈ g.nodes.keys.filter fun id => g.children id ≠ [] := by
    intro id
    simp only [List.mem_filter, decide_eq_true_eq, hg.children_ne_nil_iff]
    refine ⟨fun h => ⟨?_, h⟩, fun h => h.2⟩
    obtain ⟨e, he, rfl⟩ := List.mem_map.1 h
    exact (hg.edge e he).1
  have hperm := (List.perm_ext_iff_of_nodup g.edges.nodup_keys'
    (g.nodes.nodup_keys'.filter _)).2 hmem
  rw [← hperm.length_eq, parentCount, OrderedMap.size, OrderedMap.keys, List.length_map]

end WellFormed

/-! ## Building -/

/-- The graphs that the operations build. An operation that fails leaves the graph as it was, or,
when it compiles a source, with the blocks before the one that fails. A source is cut into blocks
with any reader of headings. -/
inductive Built : Graph → Prop where
  | empty : Built .empty
  | insert {g : Graph} {quiz : Quiz} : Built g → quiz.Made → Built (g.insert quiz)
  | insertWithRaw {g : Graph} {quiz : Quiz} (raw : Text) :
    Built g → quiz.Made → Built (g.insertWithRaw raw quiz)
  | addEdge {g : Graph} {parent child : Quiz} :
    Built g → parent.Made → child.Made → Built (g.addEdge parent child)
  | link {g : Graph} {group : List (Option Quiz)} (policy : Matrix) :
    Built g → (∀ quiz, some quiz ∈ group → quiz.Made) →
      Built ((g.link policy group).toOption.getD g)
  | merge {g other : Graph} : Built g → Built other → Built (g.merge other)
  | compileBlock {g : Graph} (file : Nat) (block : Block) :
    Built g → Built ((g.compileBlock file block).toOption.getD g)
  | compileInto {g : Graph} (headings : Text → List Nat) (file : Nat) (source : Text) :
    Built g → Built (g.compileUntil file (Block.ofSource headings source)).1

theorem WellFormed.compileBlock {g g' : Graph} (hg : g.WellFormed) {file : Nat} {block : Block}
    (h : g.compileBlock file block = .ok g') : g'.WellFormed := by
  rw [compileBlock_eq] at h
  split at h
  · next c hc =>
    obtain rfl := Except.ok.inj h
    exact hg.add (Block.complete_of_contribution hc)
  · cases h

theorem WellFormed.compileUntil {g : Graph} (hg : g.WellFormed) (file : Nat) (blocks : List Block) :
    (g.compileUntil file blocks).1.WellFormed := by
  induction blocks generalizing g with
  | nil => exact hg
  | cons block blocks ih =>
    rw [Graph.compileUntil]
    split
    · next g' h => exact ih (hg.compileBlock h)
    · exact hg

theorem WellFormed.link {g g' : Graph} (hg : g.WellFormed) {policy : Matrix}
    {group : List (Option Quiz)} (hgroup : ∀ quiz, some quiz ∈ group → quiz.Made)
    (h : g.link policy group = .ok g') : g'.WellFormed := by
  rw [link_eq] at h
  split at h
  · obtain rfl := Except.ok.inj h
    exact hg.add (Matrix.complete_links hgroup)
  · cases h

/-- Every graph that can be built is well-formed. -/
theorem Built.wellFormed {g : Graph} (h : g.Built) : g.WellFormed := by
  induction h with
  | empty => exact wellFormed_empty
  | insert _ hquiz ih =>
    rw [insert_eq_add]
    exact ih.add (Contribution.complete_quiz hquiz)
  | insertWithRaw raw _ hquiz ih =>
    rw [insertWithRaw_eq_add]
    exact ih.add (Contribution.complete_register hquiz raw)
  | addEdge _ hparent hchild ih =>
    rw [addEdge_eq_add]
    exact ih.add (Contribution.complete_edge hparent hchild)
  | @link g group policy _ hgroup ih =>
    cases hlink : g.link policy group with
    | error e => exact ih
    | ok g' => exact ih.link hgroup hlink
  | merge _ _ ih ihother => exact ih.merge ihother
  | @compileBlock g file block _ ih =>
    cases hcompile : g.compileBlock file block with
    | error e => exact ih
    | ok g' => exact ih.compileBlock hcompile
  | compileInto headings file source _ ih =>
    exact ih.compileUntil file (Block.ofSource headings source)

/-- The invariant of graphs. Whatever operations build a graph, its quizzes stand under the text of
the question they show now, its edges join two different nodes and no set of children is empty, and
its raw texts list nodes. So the edges count the same at the parents, at the children and one by
one, and the edge map has the nodes with a child. -/
theorem wellFormed_of_built {g : Graph} (h : g.Built) :
    (∀ e ∈ g.nodes.entries, e.1 = e.2.id ∧ e.1 = e.2.shown.toJson.render) ∧
    (∀ e ∈ g.edges.entries, e.1 ∈ g.nodes.keys ∧ (∀ child ∈ e.2, child ∈ g.nodes.keys) ∧
      e.1 ∉ e.2 ∧ e.2 ≠ .empty) ∧
    (∀ e ∈ g.raws.entries, (∀ id ∈ e.2, id ∈ g.nodes.keys) ∧ e.2 ≠ .empty) ∧
    g.parentCount = (g.nodes.keys.filter fun id => g.children id ≠ []).length ∧
    g.edgeCount = (g.nodes.keys.map fun id => (g.children id).length).sum ∧
    g.edgeCount = (g.nodes.keys.map fun id => (g.parents id).length).sum := by
  have hg := h.wellFormed
  refine ⟨fun e he => ?_, fun e he => ?_, fun e he => ?_, hg.parentCount_eq,
    hg.sum_length_children.symm, hg.sum_length_parents.symm⟩
  · exact ⟨(hg.node e he).1, (hg.node e he).2.1⟩
  · obtain ⟨hparent, hself, hne, hchildren⟩ := hg.edge e he
    exact ⟨hparent, hchildren, hself, hne⟩
  · exact ⟨(hg.raw e he).2, (hg.raw e he).1⟩

/-- A matching that arrives twice, and a sentence that is compiled next to it. -/
theorem wellFormed_of_built_beside_matching :
    let matching : Quiz := .matching (.make [] ⟨none, some [.plain "a".toList]⟩)
    let blocks := Block.ofSource Markdown.headingStarts "# @ a @ b"
    let g := (((empty.insert matching).insert matching).compileUntil 0 blocks).1
    g.size = 4 ∧ g.edgeCount = 4 ∧ (g.nodes.keys.map fun id => (g.parents id).length).sum = 4 := by
  intro matching blocks g
  have hmade : matching.Made := Quiz.made_make [] _
  have hbuilt : Built g :=
    .compileInto Markdown.headingStarts 0 "# @ a @ b" (.insert (.insert .empty hmade) hmade)
  have hsize : g.size = 4 := by decide +kernel
  have hcount : g.edgeCount = 4 := by decide +kernel
  obtain ⟨-, -, -, -, -, hparents⟩ := wellFormed_of_built hbuilt
  exact ⟨hsize, hcount, hparents.symm.trans hcount⟩

end Graph

end StudyGraph
