import StudyGraph.Proofs.LastWord

/-!
# Quizzes of one identity

Quizzes of one identity that are absorbed one after the other come to one quiz. It keeps what the
first quiz keeps (`Quiz.keeps_foldl_absorb`), and in the parts that newcomers override it has the
last word of them all (`Quiz.part_foldl_absorb`). Whether a card is inverted and which rule made a
cloze are overridden too, but no quiz of the kind leaves them open, so there the last word is that
of the last quiz (`Quiz.lastWord_eq_getLast`).

Absorbing is associative among these quizzes, so they may be absorbed in two parts
(`OrderedMap.AssocOn.foldl_cons`), and to insert them is to insert what they come to
(`Graph.foldl_insert_of_same`). `Graph.node_of_insertions` says all of this of their node.
-/

set_option linter.unusedSectionVars false

namespace StudyGraph

/-! ## Maps -/

namespace OrderedMap

variable {κ ν : Type} [DecidableEq κ] {P : κ → ν → Prop} {op : ν → ν → ν} {k : κ} {v : ν}
  {vs : List ν}

theorem AssocOn.closed_foldl (hop : AssocOn P op) (hv : P k v) (hvs : ∀ w ∈ vs, P k w) :
    P k (vs.foldl op v) := by
  induction vs generalizing v with
  | nil => exact hv
  | cons w vs ih =>
    obtain ⟨hw, hvs⟩ := List.forall_mem_cons.1 hvs
    exact ih (hop.closed hv hw) hvs

/-- To join values one after the other is to join what they come to. -/
theorem AssocOn.foldl_cons (hop : AssocOn P op) (hv : P k v) (hvs : ∀ w ∈ vs, P k w) (u : ν) :
    (v :: vs).foldl op u = op u (vs.foldl op v) := by
  induction vs generalizing v with
  | nil => rfl
  | cons w vs ih =>
    obtain ⟨hw, hvs⟩ := List.forall_mem_cons.1 hvs
    calc (v :: w :: vs).foldl op u
      _ = (op v w :: vs).foldl op u := by simp only [List.foldl_cons, hop.assoc hv hw]
      _ = op u ((w :: vs).foldl op v) := ih (hop.closed hv hw) hvs

/-- Arrivals at one key are one arrival of what they come to. -/
theorem blendAll_at (hop : AssocOn P op) (m : OrderedMap κ ν) (hv : P k v)
    (hvs : ∀ w ∈ vs, P k w) :
    m.blendAll op ((v :: vs).map (k, ·)) = m.blend op k (vs.foldl op v) := by
  induction vs generalizing v with
  | nil => rfl
  | cons w vs ih =>
    obtain ⟨hw, hvs⟩ := List.forall_mem_cons.1 hvs
    have hjoin : (m.blend op k v).blend op k w = m.blend op k (op v w) :=
      blend_blend_self (hop.assoc hv hw)
    rw [List.map_cons, List.map_cons, blendAll_cons, blendAll_cons, hjoin]
    exact ih (hop.closed hv hw) hvs

end OrderedMap

/-! ## Parts of a quiz -/

namespace Quiz

variable {α : Type} {part : Quiz → Option α} {id : QuizId} {first : Quiz} {quizzes : List Quiz}

/-- Whether the quiz is inverted, if it is a card. -/
def inverted? (quiz : Quiz) : Option Bool :=
  quiz.asCard?.map Card.inverted

/-- The rule that made the quiz, if it is a cloze. -/
def rule? : Quiz → Option Cloze.Rule
  | cloze c => some c.rule
  | _ => none

theorem overrides_inverted? : Overrides inverted? := by
  intro old new hid
  have hkind := kind_eq_of_id_eq hid
  cases old <;> cases new <;> simp_all [kind, absorb, inverted?, asCard?]

theorem overrides_rule? : Overrides rule? := by
  intro old new hid
  have hkind := kind_eq_of_id_eq hid
  cases old <;> cases new <;> simp_all [kind, absorb, rule?]

theorem isSome_inverted?_iff (quiz : Quiz) : quiz.inverted?.isSome ↔ quiz.kind = .card := by
  cases quiz <;> simp [inverted?, asCard?, kind]

theorem isSome_rule?_iff (quiz : Quiz) : quiz.rule?.isSome ↔ quiz.kind = .cloze := by
  cases quiz <;> simp [rule?, kind]

/-- Among quizzes of one identity, the last word is the last that any of them says. -/
theorem lastWord_of_same (h : ∀ quiz ∈ quizzes, quiz.id = id) :
    lastWord part id quizzes = (quizzes.filterMap part).getLast? := by
  have hsame : quizzes.filterMap (fun quiz => if quiz.id = id then part quiz else none) =
      quizzes.filterMap part :=
    List.filterMap_congr fun quiz hquiz => if_pos (h quiz hquiz)
  rw [lastWord, hsame]

/-- In a part that the quizzes of one kind have, and no others, the last quiz has the last word. -/
theorem lastWord_eq_getLast {kind : Kind} (hpart : ∀ quiz, (part quiz).isSome ↔ quiz.kind = kind)
    (hid : ∀ quiz ∈ quizzes, quiz.id = id) (hne : quizzes ≠ []) :
    lastWord part id quizzes = part (quizzes.getLast hne) := by
  obtain rfl | ⟨front, last, rfl⟩ := List.eq_nil_or_concat quizzes
  · exact absurd rfl hne
  simp only [List.concat_eq_append] at hid ⊢
  have hlast : last.id = id := hid last (by simp)
  rw [List.getLast_append_singleton, lastWord_append, lastWord_singleton, if_pos hlast]
  cases hsome : part last with
  | some a => rfl
  | none =>
    -- The last quiz is not of the kind, so none is.
    rw [Option.none_or, lastWord_eq_none_iff]
    intro quiz hquiz _
    have hkind : quiz.kind = last.kind :=
      kind_eq_of_id_eq ((hid quiz (List.mem_append_left _ hquiz)).trans hlast.symm)
    rw [← Option.not_isSome_iff_eq_none, hpart, hkind, ← hpart, hsome]
    exact Bool.false_ne_true

/-- A quiz that absorbs quizzes of its identity, one after the other, keeps what a quiz keeps. -/
theorem keeps_foldl_absorb (hfirst : first.SettlesAt id)
    (hquizzes : ∀ quiz ∈ quizzes, quiz.SettlesAt id) :
    first.Keeps (quizzes.foldl absorb first) := by
  induction quizzes generalizing first with
  | nil => exact Keeps.refl first
  | cons quiz quizzes ih =>
    obtain ⟨hquiz, hquizzes⟩ := List.forall_mem_cons.1 hquizzes
    have hstep := keeps_absorb (hfirst.1.trans hquiz.1.symm) hfirst.2 hquiz.2
    exact hstep.trans (ih (hfirst.absorb hquiz) hquizzes)

/-- In a part that newcomers override, the quizzes come to their last word. -/
theorem part_foldl_absorb (hpart : Overrides part) (h : ∀ quiz ∈ quizzes, quiz.id = first.id) :
    part (quizzes.foldl absorb first) = lastWord part first.id (first :: quizzes) := by
  induction quizzes generalizing first with
  | nil => rw [List.foldl_nil, lastWord_singleton, if_pos rfl]
  | cons quiz quizzes ih =>
    obtain ⟨hquiz, hquizzes⟩ := List.forall_mem_cons.1 h
    have hid : (first.absorb quiz).id = first.id := id_absorb hquiz.symm
    rw [← hid] at hquizzes
    calc part ((quiz :: quizzes).foldl absorb first)
      _ = lastWord part first.id (first.absorb quiz :: quizzes) := by
        rw [List.foldl_cons, ih hquizzes, hid]
      _ = (lastWord part first.id quizzes).or ((part quiz).or (part first)) := by
        rw [lastWord_cons, if_pos hid, hpart first quiz hquiz.symm]
      _ = lastWord part first.id (first :: quiz :: quizzes) := by
        rw [lastWord_cons, lastWord_cons, if_pos rfl, if_pos hquiz, Option.or_assoc]

end Quiz

/-! ## Nodes -/

namespace Graph

variable {first : Quiz} {quizzes : List Quiz}

theorem foldl_insert_eq_add (g : Graph) (quizzes : List Quiz) :
    quizzes.foldl insert g = g.add ⟨quizzes, [], []⟩ := by
  induction quizzes generalizing g with
  | nil => rfl
  | cons quiz quizzes ih =>
    rw [List.foldl_cons, ih]
    rfl

/-- To insert quizzes of one identity is to insert what they come to. -/
theorem foldl_insert_of_same (g : Graph) (h : ∀ quiz ∈ quizzes, quiz.id = first.id) :
    (first :: quizzes).foldl insert g = g.insert (quizzes.foldl Quiz.absorb first) := by
  have hid : (quizzes.foldl Quiz.absorb first).id = first.id :=
    Quiz.assocOn_absorb.closed_foldl rfl h
  have harrivals : (first :: quizzes).map (fun quiz => (quiz.id, quiz)) =
      (first :: quizzes).map (first.id, ·) := by
    refine List.map_congr_left fun quiz hquiz => ?_
    rcases List.mem_cons.1 hquiz with rfl | hquiz
    · rfl
    · rw [h quiz hquiz]
  have hnodes : g.nodes.blendAll Quiz.absorb ((first :: quizzes).map fun quiz => (quiz.id, quiz)) =
      g.nodes.blend Quiz.absorb first.id (quizzes.foldl Quiz.absorb first) := by
    rw [harrivals]
    exact OrderedMap.blendAll_at Quiz.assocOn_absorb g.nodes rfl h
  rw [← hid] at hnodes
  rw [foldl_insert_eq_add, insert_eq_add]
  exact Graph.ext hnodes rfl rfl

/-- A node is, part by part, the last word of what is inserted under its identity. Made quizzes of
one identity that are inserted one after the other leave one node in the graph, and nothing else.
It has the identity, the kind and the question of the first quiz, and the translation, the lede and
the part of speech of the last one that has any. Whether it is inverted, or the rule that made it,
is that of the last quiz. Wherever the quizzes are parted in two, what the second part comes to may
be absorbed into what the first part comes to. -/
theorem node_of_insertions (hmade : ∀ quiz ∈ first :: quizzes, quiz.Made)
    (hid : ∀ quiz ∈ quizzes, quiz.id = first.id) :
    let sequence := first :: quizzes
    let last := sequence.getLast (List.cons_ne_nil first quizzes)
    let g := sequence.foldl insert empty
    ∃ node, g.nodes.entries = [(first.id, node)] ∧ g.edges = .empty ∧ g.raws = .empty ∧
      node.id = first.id ∧ node.kind = first.kind ∧ node.question = first.question ∧
      node.shown = first.shown ∧
      node.notes.translation = (sequence.filterMap fun quiz => quiz.notes.translation).getLast? ∧
      node.notes.lede = (sequence.filterMap fun quiz => quiz.notes.lede).getLast? ∧
      node.partOfSpeech? = (sequence.filterMap Quiz.partOfSpeech?).getLast? ∧
      node.inverted? = last.inverted? ∧ node.rule? = last.rule? ∧
      ∀ a as b bs, sequence = (a :: as) ++ (b :: bs) →
        (as.foldl Quiz.absorb a).absorb (bs.foldl Quiz.absorb b) = node := by
  intro sequence last g
  have hsame : ∀ quiz ∈ sequence, quiz.id = first.id := List.forall_mem_cons.2 ⟨rfl, hid⟩
  have hkeeps : first.Keeps (quizzes.foldl Quiz.absorb first) :=
    Quiz.keeps_foldl_absorb ⟨rfl, hmade first List.mem_cons_self⟩ fun quiz hquiz =>
      ⟨hid quiz hquiz, hmade quiz (List.mem_cons_of_mem first hquiz)⟩
  have hg : g = empty.insert (quizzes.foldl Quiz.absorb first) := foldl_insert_of_same empty hid
  have hword {α : Type} {part : Quiz → Option α} (hpart : Quiz.Overrides part) :
      part (quizzes.foldl Quiz.absorb first) = (sequence.filterMap part).getLast? :=
    (Quiz.part_foldl_absorb hpart hid).trans (Quiz.lastWord_of_same hsame)
  have hlast {α : Type} {part : Quiz → Option α} {kind : Quiz.Kind} (hpart : Quiz.Overrides part)
      (hkind : ∀ quiz, (part quiz).isSome ↔ quiz.kind = kind) :
      part (quizzes.foldl Quiz.absorb first) = part last :=
    (Quiz.part_foldl_absorb hpart hid).trans (Quiz.lastWord_eq_getLast hkind hsame _)
  rw [hg]
  refine ⟨quizzes.foldl Quiz.absorb first, ?_, rfl, rfl, hkeeps.id, hkeeps.kind,
    Quiz.id_eq_id_iff_question.1 hkeeps.id, hkeeps.shown, hword Quiz.overrides_translation,
    hword Quiz.overrides_lede, hword Quiz.overrides_partOfSpeech?,
    hlast Quiz.overrides_inverted? Quiz.isSome_inverted?_iff,
    hlast Quiz.overrides_rule? Quiz.isSome_rule?_iff, ?_⟩
  · rw [← hkeeps.id]
    rfl
  · intro a as b bs hparts
    obtain ⟨rfl, rfl⟩ := List.cons.inj hparts
    obtain ⟨hb, hbs⟩ := List.forall_mem_cons.1 (List.forall_mem_append.1 hid).2
    have hjoin : (as ++ b :: bs).foldl Quiz.absorb first =
        (as.foldl Quiz.absorb first).absorb (bs.foldl Quiz.absorb b) := by
      rw [List.foldl_append]
      exact Quiz.assocOn_absorb.foldl_cons hb hbs _
    exact hjoin.symm

/-- Three cards of one identity : the first and the second have different translations, the second
alone has a reading and a part of speech and is inverted, and the third has nothing. -/
theorem node_of_insertions_of_three_cards :
    let noted (inverted : Bool) (partOfSpeech : Option (List Text)) (notes : Notes) : Quiz :=
      .card { Card.make "a" ["b"] true inverted with partOfSpeech := partOfSpeech, notes := notes }
    let notes : Notes := ⟨some (.ofList [("en", "d")]), some [.ruby "a" "b"]⟩
    let first := noted false none ⟨some (.ofList [("en", "c")]), none⟩
    let second := noted true (some ["n".toList]) notes
    let third := noted false none .none
    ∃ node, ([first, second, third].foldl insert empty).nodes.entries = [(first.id, node)] ∧
      node.notes = notes ∧ node.partOfSpeech? = some ["n".toList] ∧
      node.inverted? = some false ∧ first.absorb (second.absorb third) = node ∧
      (first.absorb second).absorb third = node := by
  intro noted notes first second third
  have hmade : ∀ quiz ∈ [first, second, third], quiz.Made := by
    simp [first, second, third, noted, Quiz.Made]
  have hid : ∀ quiz ∈ [second, third], quiz.id = first.id := by decide +kernel
  obtain ⟨node, hnode, -, -, -, -, -, -, htranslation, hlede, hpartOfSpeech, hinverted, -,
    hparts⟩ := node_of_insertions hmade hid
  refine ⟨node, hnode, ?_, hpartOfSpeech, hinverted, hparts first [] second [third] rfl,
    hparts first [second] third [] rfl⟩
  have hnotes : node.notes = ⟨node.notes.translation, node.notes.lede⟩ := rfl
  rw [hnotes, htranslation, hlede]
  rfl

end Graph

end StudyGraph
