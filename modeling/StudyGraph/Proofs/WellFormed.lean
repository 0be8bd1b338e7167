import StudyGraph.Proofs.Contribution

/-!
# Well-formed graphs

`Graph.WellFormed` says what ties the three maps of a graph together : quizzes stand under the
identity of what they hold now, edges join two different nodes, every parent has a child, and every
raw text lists nodes and at least one. A contribution is `Complete` if its edges and raw texts
mention only quizzes that it brings itself, and never an empty set. A complete contribution keeps a
graph well-formed (`WellFormed.add`), and a well-formed graph is a complete contribution
(`WellFormed.complete`).

The lede of a matching belongs to its question and to its notes, and absorbing takes the notes of
the newcomer. The two agree (`Quiz.Made`) all the same, because quizzes of one identity have one
lede (`Quiz.made_absorb`).
-/

set_option linter.unusedSectionVars false

namespace StudyGraph

namespace Quiz

/-- A quiz as it can be made : any card, any cloze, and a matching whose question has the lede of
its notes. -/
def Made : Quiz → Prop
  | matching m => m = .make m.pairs m.notes
  | _ => True

/-- The question in the fields that the quiz shows : the lede of a matching is that of its notes. -/
def shown : Quiz → Question
  | matching m => .matching m.notes.lede m.pairs
  | quiz => quiz.question

theorem made_make (pairs : List Pair) (notes : Notes) : (matching (.make pairs notes)).Made := rfl

theorem sentence_eq_of_made {m : Matching} (h : (matching m).Made) : m.sentence = m.notes.lede := by
  have hm : m = .make m.pairs m.notes := h
  rw [hm]
  rfl

theorem Made.shown_eq_question {quiz : Quiz} (h : quiz.Made) : quiz.shown = quiz.question := by
  cases quiz with
  | matching m => simp [shown, question, sentence_eq_of_made h]
  | _ => rfl

/-- Of quizzes with one identity, the notes cannot change the lede of a matching. -/
theorem made_absorb {old new : Quiz} (hid : old.id = new.id) (hold : old.Made) (hnew : new.Made) :
    (old.absorb new).Made := by
  have hquestion := id_eq_id_iff_question.1 hid
  cases old with
  | matching m =>
    cases new with
    | matching n =>
      have hlede : m.sentence = n.sentence := by
        simp only [question, Question.matching.injEq] at hquestion
        exact hquestion.1
      have hm := sentence_eq_of_made hold
      have hn := sentence_eq_of_made hnew
      have hor : n.notes.lede.or m.notes.lede = m.sentence := by
        rw [← hn, ← hm, ← hlede, Option.or_self]
      simp [absorb, Made, Matching.make, Notes.absorb, hor]
    | _ => exact hnew
  | card c => cases new <;> trivial
  | cloze c => cases new <;> trivial

end Quiz

/-! ## Sets of nodes -/

/-- Identities in a list, and at least one. -/
def Listed (ids : List QuizId) (set : OrderedSet QuizId) : Prop :=
  set ≠ .empty ∧ ∀ id ∈ set, id ∈ ids

/-- A parent in a list, with children in the list among which it is not. -/
def Linked (ids : List QuizId) (parent : QuizId) (children : OrderedSet QuizId) : Prop :=
  parent ∈ ids ∧ parent ∉ children ∧ Listed ids children

theorem OrderedSet.ne_empty_of_mem {α : Type} {s : OrderedSet α} {a : α} (h : a ∈ s) :
    s ≠ empty := by
  rintro rfl
  simp [← mem_toList] at h

theorem OrderedSet.exists_mem_of_ne_empty {α : Type} {s : OrderedSet α} (h : s ≠ empty) :
    ∃ a, a ∈ s := by
  obtain ⟨a, ha⟩ := List.exists_mem_of_ne_nil s.toList fun hnil => h (OrderedSet.ext hnil)
  exact ⟨a, ha⟩

variable {ids ids' : List QuizId}

theorem listed_singleton {id : QuizId} (h : id ∈ ids) : Listed ids (.ofList [id]) := by
  refine ⟨OrderedSet.ne_empty_of_mem (a := id) (by simp), ?_⟩
  intro id' hid'
  obtain rfl : id' = id := by simpa using hid'
  exact h

theorem Listed.mono {s : OrderedSet QuizId} (hids : ∀ id ∈ ids, id ∈ ids') (h : Listed ids s) :
    Listed ids' s :=
  ⟨h.1, fun id hid => hids id (h.2 id hid)⟩

theorem Listed.union {s t : OrderedSet QuizId} (hs : Listed ids s) (ht : Listed ids t) :
    Listed ids (s.union t) := by
  obtain ⟨id, hid⟩ := OrderedSet.exists_mem_of_ne_empty hs.1
  refine ⟨OrderedSet.ne_empty_of_mem (OrderedSet.mem_union.2 (Or.inl hid)), fun id' hid' => ?_⟩
  exact (OrderedSet.mem_union.1 hid').elim (hs.2 id') (ht.2 id')

theorem Linked.mono {p : QuizId} {s : OrderedSet QuizId} (hids : ∀ id ∈ ids, id ∈ ids')
    (h : Linked ids p s) : Linked ids' p s :=
  ⟨hids p h.1, h.2.1, h.2.2.mono hids⟩

theorem Linked.union {p : QuizId} {s t : OrderedSet QuizId} (hs : Linked ids p s)
    (ht : Linked ids p t) : Linked ids p (s.union t) := by
  refine ⟨hs.1, ?_, hs.2.2.union ht.2.2⟩
  intro hp
  exact (OrderedSet.mem_union.1 hp).elim hs.2.1 ht.2.1

/-! ## Complete contributions -/

namespace Contribution

/-- A contribution that brings every quiz that its edges and raw texts mention. -/
structure Complete (c : Contribution) : Prop where
  made : ∀ quiz ∈ c.quizzes, quiz.Made
  linked : ∀ e ∈ c.edges, Linked c.ids e.1 e.2
  listed : ∀ e ∈ c.raws, Listed c.ids e.2

theorem complete_nil : Complete nil :=
  ⟨by simp [nil], by simp [nil], by simp [nil]⟩

theorem Complete.append {c d : Contribution} (hc : c.Complete) (hd : d.Complete) :
    (c ++ d).Complete := by
  have hleft : ∀ id ∈ c.ids, id ∈ (c ++ d).ids := fun id hid => by simp [hid]
  have hright : ∀ id ∈ d.ids, id ∈ (c ++ d).ids := fun id hid => by simp [hid]
  refine ⟨?_, ?_, ?_⟩
  · intro quiz hquiz
    exact (List.mem_append.1 hquiz).elim (hc.made quiz) (hd.made quiz)
  · intro e he
    exact (List.mem_append.1 he).elim (fun h => (hc.linked e h).mono hleft)
      fun h => (hd.linked e h).mono hright
  · intro e he
    exact (List.mem_append.1 he).elim (fun h => (hc.listed e h).mono hleft)
      fun h => (hd.listed e h).mono hright

theorem complete_join {cs : List Contribution} (h : ∀ c ∈ cs, c.Complete) : (join cs).Complete := by
  induction cs with
  | nil => exact complete_nil
  | cons c cs ih => exact (h c (by simp)).append (ih fun d hd => h d (by simp [hd]))

theorem complete_quiz {q : Quiz} (h : q.Made) : (quiz q).Complete :=
  ⟨by simpa [quiz] using h, by simp [quiz], by simp [quiz]⟩

theorem complete_register {q : Quiz} (h : q.Made) (text : Text) :
    (raw text q.id ++ quiz q).Complete := by
  refine ⟨by simpa [raw, quiz] using h, by simp [raw, quiz], ?_⟩
  intro e he
  obtain rfl : e = (text, .ofList [q.id]) := by simpa [raw, quiz] using he
  exact listed_singleton (by simp [ids, raw, quiz])

theorem complete_edge {parent child : Quiz} (hp : parent.Made) (hc : child.Made) :
    (edge parent child).Complete := by
  refine ⟨by simp [edge, hp, hc], ?_, by simp [edge]⟩
  intro e he
  by_cases h : parent.id = child.id
  · simp [edge, h] at he
  · obtain rfl : e = (parent.id, .ofList [child.id]) := by simpa [edge, h] using he
    exact ⟨by simp [ids, edge], by simpa using h, listed_singleton (by simp [ids, edge])⟩

end Contribution

/-! ## Settled graphs -/

/-- A made quiz, and its own identity. -/
def Quiz.SettlesAt (id : QuizId) (quiz : Quiz) : Prop :=
  quiz.id = id ∧ quiz.Made

theorem Quiz.SettlesAt.absorb {id : QuizId} {old new : Quiz} (hold : old.SettlesAt id)
    (hnew : new.SettlesAt id) : (old.absorb new).SettlesAt id := by
  obtain ⟨rfl, hold⟩ := hold
  obtain ⟨hid, hnew⟩ := hnew
  exact ⟨id_absorb hid.symm, made_absorb hid.symm hold hnew⟩

theorem Contribution.settlesAt_of_mem_arrivals {c : Contribution}
    (hc : ∀ quiz ∈ c.quizzes, quiz.Made) : ∀ e ∈ c.arrivals, e.2.SettlesAt e.1 := by
  intro e he
  obtain ⟨quiz, hquiz, rfl⟩ := List.mem_map.1 he
  exact ⟨rfl, hc quiz hquiz⟩

namespace Graph

/-- The quizzes of the graph are made, and stand under their own identities. -/
def Settled (g : Graph) : Prop :=
  g.nodes.All Quiz.SettlesAt

/-- Made quizzes keep a graph settled. -/
theorem Settled.add {g : Graph} (hg : g.Settled) {c : Contribution}
    (hc : ∀ quiz ∈ c.quizzes, quiz.Made) : (g.add c).Settled :=
  OrderedMap.All.blendAll Quiz.SettlesAt.absorb hg (Contribution.settlesAt_of_mem_arrivals hc)

/-! ## Well-formed graphs -/

/-- What ties the maps of a graph together. -/
structure WellFormed (g : Graph) : Prop where
  /-- A quiz stands under its identity, which is the text of the question it shows now. -/
  node : ∀ e ∈ g.nodes.entries, e.1 = e.2.id ∧ e.1 = e.2.shown.toJson.render ∧ e.2.Made
  /-- A parent and its children are nodes, the parent is not among them, and there is a child. -/
  edge : ∀ e ∈ g.edges.entries, Linked g.nodes.keys e.1 e.2
  /-- A raw text lists nodes, and at least one. -/
  raw : ∀ e ∈ g.raws.entries, Listed g.nodes.keys e.2

theorem wellFormed_empty : empty.WellFormed :=
  ⟨by simp [empty], by simp [empty], by simp [empty]⟩

theorem WellFormed.keyed {g : Graph} (hg : g.WellFormed) : g.Keyed := fun e he =>
  (hg.node e he).1.symm

theorem WellFormed.settled {g : Graph} (hg : g.WellFormed) : g.Settled := fun e he =>
  ⟨(hg.node e he).1.symm, (hg.node e he).2.2⟩

theorem wellFormed_of_settled {g : Graph} (hnode : g.Settled)
    (hedge : g.edges.All (Linked g.nodes.keys)) (hraw : g.raws.All fun _ => Listed g.nodes.keys) :
    g.WellFormed := by
  refine ⟨fun e he => ?_, hedge, hraw⟩
  obtain ⟨hid, hmade⟩ := hnode e he
  rw [hmade.shown_eq_question]
  exact ⟨hid.symm, hid.symm, hmade⟩

/-- A complete contribution keeps a graph well-formed. -/
theorem WellFormed.add {g : Graph} (hg : g.WellFormed) {c : Contribution} (hc : c.Complete) :
    (g.add c).WellFormed := by
  have hold : ∀ id ∈ g.nodes.keys, id ∈ (g.add c).nodes.keys := fun id hid =>
    (OrderedMap.mem_keys_blendAll _).2 (Or.inl hid)
  have hnew : ∀ id ∈ c.ids, id ∈ (g.add c).nodes.keys := fun id hid =>
    (OrderedMap.mem_keys_blendAll _).2 (Or.inr (by simpa using hid))
  refine wellFormed_of_settled (hg.settled.add hc.made) ?_ ?_
  · exact OrderedMap.All.blendAll Linked.union (fun e he => (hg.edge e he).mono hold)
      fun e he => (hc.linked e he).mono hnew
  · exact OrderedMap.All.blendAll Listed.union (fun e he => (hg.raw e he).mono hold)
      fun e he => (hc.listed e he).mono hnew

/-- A well-formed graph is a complete contribution. -/
theorem WellFormed.complete {g : Graph} (hg : g.WellFormed) : g.contribution.Complete := by
  have hids : g.contribution.ids = g.nodes.keys := by
    rw [← Contribution.map_fst_arrivals, hg.keyed.arrivals_contribution]
    rfl
  refine ⟨?_, ?_, ?_⟩
  · intro quiz hquiz
    obtain ⟨e, he, rfl⟩ := List.mem_map.1 hquiz
    exact (hg.node e he).2.2
  · rw [hids]
    exact hg.edge
  · rw [hids]
    exact hg.raw

theorem WellFormed.merge {g other : Graph} (hg : g.WellFormed) (hother : other.WellFormed) :
    (g.merge other).WellFormed := by
  rw [merge_eq_add]
  exact hg.add hother.complete

end Graph

end StudyGraph
