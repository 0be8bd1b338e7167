import StudyGraph.Proofs.Built
import StudyGraph.Proofs.Relation
import StudyGraph.Proofs.Run

/-!
# The order of blocks

Compiled in another order, blocks come to the same graph up to the order of arrival and up to what
later quizzes may change: notes, parts of speech, directions of cards and rules of clozes.
`Quiz.bare` is a quiz without these, and `Graph.Rearranged` compares graphs up to them.
Well-formed graphs with the same nodes, edges and raw texts are rearranged
(`Graph.rearranged_of_relates`), because an identity tells the bare quiz
(`Quiz.bare_eq_of_id_eq`).

A run over blocks comes to the shape of what the blocks contribute alone
(`Graph.sameShape_compileAll`), and the shape of joined contributions relates the same whatever
their order. So do the failures of the blocks not depend on their order (`Graph.compileAll_perm`).
-/

set_option linter.unusedSectionVars false

namespace StudyGraph

/-! ## Bare quizzes -/

namespace Quiz

/-- The quiz without what later quizzes of its identity may change. The lede of a matching belongs
to its question. -/
def bare : Quiz → Quiz
  | card c => .card (.make c.prompt c.responses c.passive false)
  | cloze c => .cloze (.make c.pieces c.answers c.hints .fill)
  | matching m => .matching (.make m.pairs ⟨none, m.notes.lede⟩)

@[simp] theorem kind_bare (quiz : Quiz) : quiz.bare.kind = quiz.kind := by
  cases quiz <;> rfl

@[simp] theorem shown_bare (quiz : Quiz) : quiz.bare.shown = quiz.shown := by
  cases quiz <;> rfl

/-- Of a quiz that is made, the identity tells the bare quiz. -/
theorem bare_eq_of_id_eq {a b : Quiz} (ha : a.Made) (hb : b.Made) (h : a.id = b.id) :
    a.bare = b.bare := by
  have hquestion := id_eq_id_iff_question.1 h
  cases a with
  | card a =>
    cases b with
    | card b =>
      obtain ⟨hprompt, hresponses, hpassive⟩ := Question.card.inj hquestion
      simp only [bare, hprompt, hresponses, hpassive]
    | cloze b => cases hquestion
    | matching b => cases hquestion
  | cloze a =>
    cases b with
    | card b => cases hquestion
    | cloze b =>
      obtain ⟨hpieces, hanswers, hhints⟩ := Question.cloze.inj hquestion
      simp only [bare, hpieces, hanswers, hhints]
    | matching b => cases hquestion
  | matching a =>
    cases b with
    | card b => cases hquestion
    | cloze b => cases hquestion
    | matching b =>
      obtain ⟨hsentence, hpairs⟩ := Question.matching.inj hquestion
      rw [sentence_eq_of_made ha, sentence_eq_of_made hb] at hsentence
      simp only [bare, hsentence, hpairs]

end Quiz

namespace Graph

/-! ## Rearranged graphs -/

/-- Graphs with the same nodes, edges and raw texts in some order, whose quizzes are the same
bare. -/
structure Rearranged (g h : Graph) : Prop where
  /-- The same identities. -/
  ids : g.nodes.keys.Perm h.nodes.keys
  /-- The same quizzes, but for what later quizzes may change. -/
  quizzes : ∀ id, (g.get? id).map Quiz.bare = (h.get? id).map Quiz.bare
  /-- The same parents. -/
  parents : g.edges.keys.Perm h.edges.keys
  /-- The same children of each parent. -/
  children : ∀ id, (g.children id).Perm (h.children id)
  /-- The same raw texts. -/
  rawTexts : g.raws.keys.Perm h.raws.keys
  /-- The same identities that each raw text gave. -/
  rawIds : ∀ raw, ((g.rawIds? raw).getD []).Perm ((h.rawIds? raw).getD [])

variable {g h : Graph}

theorem bare_get?_eq (hg : g.WellFormed) (hh : h.WellFormed)
    (hids : ∀ id, id ∈ g.nodes.keys ↔ id ∈ h.nodes.keys) (id : QuizId) :
    (g.get? id).map Quiz.bare = (h.get? id).map Quiz.bare := by
  unfold get?
  have hnone : g.nodes.get? id = none ↔ h.nodes.get? id = none := by
    rw [OrderedMap.get?_eq_none_iff, OrderedMap.get?_eq_none_iff, hids]
  cases hquiz : g.nodes.get? id with
  | none => rw [hnone.1 hquiz]
  | some quiz =>
    cases hquiz' : h.nodes.get? id with
    | none =>
      rw [hnone.2 hquiz'] at hquiz
      cases hquiz
    | some quiz' =>
      obtain ⟨hid, -, hmade⟩ := hg.node _ (OrderedMap.mem_entries_iff.2 hquiz)
      obtain ⟨hid', -, hmade'⟩ := hh.node _ (OrderedMap.mem_entries_iff.2 hquiz')
      exact congrArg some (Quiz.bare_eq_of_id_eq hmade hmade' (hid.symm.trans hid'))

/-- Well-formed graphs that relate the same are rearranged. -/
theorem rearranged_of_relates (hg : g.WellFormed) (hh : h.WellFormed)
    (hids : ∀ id, id ∈ g.nodes.keys ↔ id ∈ h.nodes.keys)
    (hedges : ∀ p c, g.edges.Relates p c ↔ h.edges.Relates p c)
    (hraws : ∀ raw id, g.raws.Relates raw id ↔ h.raws.Relates raw id) : g.Rearranged h where
  ids := (List.perm_ext_iff_of_nodup g.nodes.nodup_keys' h.nodes.nodup_keys').2 hids
  quizzes := bare_get?_eq hg hh hids
  parents := OrderedMap.perm_keys_of_relates (fun e he => (hg.edge e he).2.2.1)
    (fun e he => (hh.edge e he).2.2.1) hedges
  children := OrderedMap.perm_toList_of_relates hedges
  rawTexts := OrderedMap.perm_keys_of_relates (fun e he => (hg.raw e he).1)
    (fun e he => (hh.raw e he).1) hraws
  rawIds := OrderedMap.perm_toList_of_relates hraws

/-- Under each identity a quiz of the same kind. -/
theorem Rearranged.kind_get?_eq (hgh : g.Rearranged h) (id : QuizId) :
    (g.get? id).map Quiz.kind = (h.get? id).map Quiz.kind := by
  have hkind := congrArg (Option.map Quiz.kind) (hgh.quizzes id)
  simpa [Option.map_map, Function.comp_def] using hkind

/-- Under each identity a quiz that shows the same question. -/
theorem Rearranged.shown_get?_eq (hgh : g.Rearranged h) (id : QuizId) :
    (g.get? id).map Quiz.shown = (h.get? id).map Quiz.shown := by
  have hshown := congrArg (Option.map Quiz.shown) (hgh.quizzes id)
  simpa [Option.map_map, Function.comp_def] using hshown

/-! ## Runs -/

theorem WellFormed.compileAll (hg : g.WellFormed) (file : Nat) (blocks : List Block) :
    (g.compileAll file blocks).1.WellFormed := by
  induction blocks generalizing g with
  | nil => exact hg
  | cons block blocks ih =>
    rw [Graph.compileAll]
    split
    · next g' hcompile => exact ih (hg.compileBlock hcompile)
    · exact ih hg

/-- A run comes to the shape of what its blocks contribute alone, those at fault left out. -/
theorem sameShape_compileAll (hgh : g.SameShape h) (file : Nat) (blocks : List Block) :
    (g.compileAll file blocks).1.SameShape
      (h.add (.join (blocks.filterMap fun block => (block.contribution empty).toOption))) := by
  induction blocks generalizing g h with
  | nil => exact hgh
  | cons block blocks ih =>
    have hagree := block.agree_contribution g empty
    rw [Graph.compileAll, compileBlock_eq, List.filterMap_cons]
    generalize block.contribution g = x, block.contribution empty = y at hagree
    cases hagree with
    | fault e => exact ih hgh
    | @shape c d hshape =>
      have hnext := ih (hshape trivial trivial hgh)
      rw [← add_append] at hnext
      exact hnext

/-- Joined in another order, contributions relate the same. -/
theorem relates_join_of_perm {cs ds : List Contribution} (hperm : cs.Perm ds) :
    (∀ id, id ∈ (empty.add (.join cs)).nodes.keys ↔ id ∈ (empty.add (.join ds)).nodes.keys) ∧
    (∀ p c, (empty.add (.join cs)).edges.Relates p c ↔ (empty.add (.join ds)).edges.Relates p c) ∧
    ∀ raw id, (empty.add (.join cs)).raws.Relates raw id ↔
      (empty.add (.join ds)).raws.Relates raw id := by
  refine ⟨fun id => ?_, fun p c => ?_, fun raw id => ?_⟩
  · have hids : id ∈ (Contribution.join cs).ids ↔ id ∈ (Contribution.join ds).ids := by
      rw [Contribution.ids_join, Contribution.ids_join]
      exact (hperm.flatMap_right _).mem_iff
    rw [mem_nodes_add, mem_nodes_add, hids]
  · have hedges : OrderedMap.Brings (Contribution.join cs).edges p c ↔
        OrderedMap.Brings (Contribution.join ds).edges p c := by
      rw [Contribution.edges_join, Contribution.edges_join]
      exact OrderedMap.brings_congr fun e => (hperm.flatMap_right _).mem_iff
    rw [relates_edges_add, relates_edges_add, hedges]
  · have hraws : OrderedMap.Brings (Contribution.join cs).raws raw id ↔
        OrderedMap.Brings (Contribution.join ds).raws raw id := by
      rw [Contribution.raws_join, Contribution.raws_join]
      exact OrderedMap.brings_congr fun e => (hperm.flatMap_right _).mem_iff
    rw [relates_raws_add, relates_raws_add, hraws]

/-- Runs over the same blocks in another order come to rearranged graphs. -/
theorem rearranged_compileAll {blocks blocks' : List Block} (hperm : blocks.Perm blocks')
    (file : Nat) :
    (empty.compileAll file blocks).1.Rearranged (empty.compileAll file blocks').1 := by
  have hshape := sameShape_compileAll (.refl empty) file blocks
  have hshape' := sameShape_compileAll (.refl empty) file blocks'
  have hcontributions := hperm.filterMap fun block => (block.contribution empty).toOption
  obtain ⟨hids, hedges, hraws⟩ := relates_join_of_perm hcontributions
  refine rearranged_of_relates (wellFormed_empty.compileAll file blocks)
    (wellFormed_empty.compileAll file blocks') ?_ ?_ ?_
  · rw [hshape.keys, hshape'.keys]
    exact hids
  · rw [hshape.edges, hshape'.edges]
    exact hedges
  · rw [hshape.raws, hshape'.raws]
    exact hraws

/-- Runs over the same blocks in another order fail as often, in the same ways. -/
theorem perm_failures_compileAll {blocks blocks' : List Block} (hperm : blocks.Perm blocks')
    (g h : Graph) (file : Nat) :
    (g.compileAll file blocks).2.Perm (h.compileAll file blocks').2 := by
  rw [(compileAll_eq file g blocks).1, (compileAll_eq file h blocks').1]
  exact (hperm.map _).filterMap _

/-- The order of blocks matters for annotations alone. Past all failures, blocks in any two orders
come to graphs with the same identities, edges and raw texts, in which every identity has quizzes of
one kind that show one question and are the same bare; and they come to the same failures. -/
theorem compileAll_perm {blocks blocks' : List Block} (hperm : blocks.Perm blocks') (file : Nat) :
    let run := empty.compileAll file blocks
    let run' := empty.compileAll file blocks'
    run.1.Rearranged run'.1 ∧
    (∀ id, (run.1.get? id).map Quiz.kind = (run'.1.get? id).map Quiz.kind ∧
      (run.1.get? id).map Quiz.shown = (run'.1.get? id).map Quiz.shown) ∧
    run.2.Perm run'.2 := by
  intro run run'
  have hrun := rearranged_compileAll hperm file
  exact ⟨hrun, fun id => ⟨hrun.kind_get?_eq id, hrun.shown_get?_eq id⟩,
    perm_failures_compileAll hperm empty empty file⟩

/-- Two parts of speech and a blank that is not in its sentence : the first part of speech counts,
so the graphs differ. -/
theorem compileAll_perm_of_two_parts_of_speech :
    let noun := Block.ofLines ["# @ a @ b", "- @ a @ b @pos n"]
    let verb := Block.ofLines ["# @ a @ b", "- @ a @ b @pos v"]
    let astray := Block.ofLines ["# @ c", "- @fill d"]
    let run := empty.compileAll 0 [noun, astray, verb]
    let run' := empty.compileAll 0 [astray, verb, noun]
    run.1 ≠ run'.1 ∧ run.1.Rearranged run'.1 ∧ run.1.size = 3 ∧ run.2.length = 1 ∧
      run.2.Perm run'.2 := by
  intro noun verb astray run run'
  have hperm : [noun, astray, verb].Perm [astray, verb, noun] :=
    .trans (.swap astray noun [verb]) (.cons astray (.swap verb noun []))
  obtain ⟨hrun, -, hfailures⟩ := compileAll_perm hperm 0
  exact ⟨by decide +kernel, hrun, by decide +kernel, by decide +kernel, hfailures⟩

end Graph

end StudyGraph
