import StudyGraph.Proofs.Growth
import StudyGraph.Proofs.Relation

/-!
# The last word on a quiz

A part of quizzes is overridden if a newcomer that has it replaces it, and one that has it not
leaves it (`Quiz.Overrides`) : so are the translation, the lede and the part of speech. Of the
quizzes that arrive with one identity, `Quiz.lastWord` is what the last of them says that says
anything. It is taken list by list (`Quiz.lastWord_append`, `Quiz.lastWord_flatMap`), and it is what
a node has of an overridden part after an addition, or else the node has what it had before
(`Graph.bind_get?_add`).
-/

set_option linter.unusedSectionVars false

namespace StudyGraph

namespace Quiz

variable {α β : Type}

/-- A part of quizzes on which a newcomer of one identity has the last word, if it says anything. -/
def Overrides (part : Quiz → Option α) : Prop :=
  ∀ old new : Quiz, old.id = new.id → part (old.absorb new) = (part new).or (part old)

theorem overrides_translation : Overrides fun quiz => quiz.notes.translation := fun _ _ hid =>
  congrArg Notes.translation (notes_absorb (kind_eq_of_id_eq hid))

theorem overrides_lede : Overrides fun quiz => quiz.notes.lede := fun _ _ hid =>
  congrArg Notes.lede (notes_absorb (kind_eq_of_id_eq hid))

theorem overrides_partOfSpeech? : Overrides partOfSpeech? := fun _ _ hid =>
  partOfSpeech?_absorb (kind_eq_of_id_eq hid)

/-- What the last of the quizzes with an identity says that says anything. -/
def lastWord (part : Quiz → Option α) (id : QuizId) (quizzes : List Quiz) : Option α :=
  (quizzes.filterMap fun quiz => if quiz.id = id then part quiz else none).getLast?

variable {part : Quiz → Option α} {id : QuizId} {quizzes : List Quiz}

@[simp] theorem lastWord_nil : lastWord part id [] = none := rfl

theorem lastWord_singleton {quiz : Quiz} :
    lastWord part id [quiz] = if quiz.id = id then part quiz else none := by
  unfold lastWord
  by_cases h : quiz.id = id
  · cases hpart : part quiz <;> simp [h, hpart]
  · simp [h]

theorem lastWord_append (quizzes more : List Quiz) :
    lastWord part id (quizzes ++ more) = (lastWord part id more).or (lastWord part id quizzes) := by
  simp [lastWord, List.getLast?_append]

theorem lastWord_cons (quiz : Quiz) (quizzes : List Quiz) :
    lastWord part id (quiz :: quizzes) =
      (lastWord part id quizzes).or (if quiz.id = id then part quiz else none) := by
  rw [← lastWord_singleton, ← lastWord_append, List.singleton_append]

theorem getLast?_filterMap_cons (f : β → Option α) (b : β) (bs : List β) :
    ((b :: bs).filterMap f).getLast? = (bs.filterMap f).getLast?.or (f b) := by
  rw [List.filterMap_cons]
  cases f b with
  | none => exact Option.or_none.symm
  | some a =>
    rw [List.getLast?_cons]
    cases (bs.filterMap f).getLast? <;> rfl

/-- The last word of lists is the last of their last words. -/
theorem lastWord_flatMap (f : β → List Quiz) (bs : List β) :
    lastWord part id (bs.flatMap f) = (bs.filterMap fun b => lastWord part id (f b)).getLast? := by
  induction bs with
  | nil => rfl
  | cons b bs ih => rw [List.flatMap_cons, lastWord_append, ih, getLast?_filterMap_cons]

theorem lastWord_eq_none_iff :
    lastWord part id quizzes = none ↔ ∀ quiz ∈ quizzes, quiz.id = id → part quiz = none := by
  simp [lastWord]

theorem exists_of_lastWord_eq_some {a : α} (h : lastWord part id quizzes = some a) :
    ∃ quiz ∈ quizzes, quiz.id = id ∧ part quiz = some a := by
  obtain ⟨quiz, hquiz, ha⟩ := List.mem_filterMap.1 (List.mem_of_getLast? h)
  split at ha
  · next hid => exact ⟨quiz, hquiz, hid, ha⟩
  · cases ha

/-- Where all that is said is the same, this is the last word. -/
theorem lastWord_of_said {word : Option α}
    (h : ∀ quiz ∈ quizzes, quiz.id = id → part quiz = none ∨ part quiz = word)
    (hsome : word.isSome → ∃ quiz ∈ quizzes, quiz.id = id ∧ part quiz = word) :
    lastWord part id quizzes = word := by
  cases hlast : lastWord part id quizzes with
  | none =>
    cases word with
    | none => rfl
    | some a =>
      obtain ⟨quiz, hquiz, hid, ha⟩ := hsome rfl
      rw [← ha, lastWord_eq_none_iff.1 hlast quiz hquiz hid]
  | some a =>
    obtain ⟨quiz, hquiz, hid, ha⟩ := exists_of_lastWord_eq_some hlast
    rcases h quiz hquiz hid with hnone | hword
    · rw [hnone] at ha
      cases ha
    · rw [← hword, ha]

/-- Where all say the same, this is the last word. -/
theorem lastWord_of_forall {word : Option α}
    (h : ∀ quiz ∈ quizzes, quiz.id = id → part quiz = word)
    (hsome : ∃ quiz ∈ quizzes, quiz.id = id) : lastWord part id quizzes = word := by
  obtain ⟨quiz, hquiz, hid⟩ := hsome
  exact lastWord_of_said (fun quiz hquiz hid => Or.inr (h quiz hquiz hid))
    fun _ => ⟨quiz, hquiz, hid, h quiz hquiz hid⟩

/-- Of an overridden part a node has the last word of the quizzes that arrive, or else what it
had. -/
theorem bind_get?_blendAll (hpart : Overrides part) {nodes : OrderedMap QuizId Quiz}
    (hnodes : nodes.All fun id quiz => quiz.id = id) (quizzes : List Quiz) :
    ((nodes.blendAll absorb (quizzes.map fun quiz => (quiz.id, quiz))).get? id).bind part =
      (lastWord part id quizzes).or ((nodes.get? id).bind part) := by
  induction quizzes generalizing nodes with
  | nil => rfl
  | cons quiz quizzes ih =>
    have hfirst : ((nodes.blend absorb quiz.id quiz).get? id).bind part =
        (if quiz.id = id then part quiz else none).or ((nodes.get? id).bind part) := by
      rw [OrderedMap.get?_blend]
      by_cases h : quiz.id = id
      · rw [if_pos h, if_pos h, h]
        cases hold : nodes.get? id with
        | none => simp
        | some old =>
          have hid : old.id = quiz.id := (OrderedMap.all_iff_get?.1 hnodes id old hold).trans h.symm
          exact hpart old quiz hid
      · simp [h]
    rw [List.map_cons, OrderedMap.blendAll_cons, ih (hnodes.blend assocOn_absorb.closed rfl),
      hfirst, lastWord_cons, Option.or_assoc]

end Quiz

namespace Graph

variable {α : Type} {g : Graph} {id : QuizId}

theorem Keyed.exists_get? (hg : g.Keyed) (h : id ∈ g.nodes.keys) :
    ∃ quiz, g.get? id = some quiz ∧ quiz.id = id := by
  obtain ⟨e, he, rfl⟩ := List.mem_map.1 h
  exact ⟨e.2, OrderedMap.mem_entries_iff.1 he, hg e he⟩

/-- After an addition, a node has the last word that was added of an overridden part, or else what
it had. -/
theorem bind_get?_add {part : Quiz → Option α} (hpart : Quiz.Overrides part) (hg : g.Keyed)
    (c : Contribution) (id : QuizId) :
    ((g.add c).get? id).bind part =
      (Quiz.lastWord part id c.quizzes).or ((g.get? id).bind part) :=
  Quiz.bind_get?_blendAll hpart hg c.quizzes

/-- In a graph that starts empty, a node has the last word of an overridden part. -/
theorem bind_get?_empty_add {part : Quiz → Option α} (hpart : Quiz.Overrides part)
    (c : Contribution) (id : QuizId) :
    ((empty.add c).get? id).bind part = Quiz.lastWord part id c.quizzes := by
  rw [bind_get?_add hpart keyed_empty]
  exact Option.or_none

/-- The notes of a node. -/
def notes? (g : Graph) (id : QuizId) : Option Notes :=
  (g.get? id).map Quiz.notes

/-- A node has the notes with which it is mentioned throughout. -/
theorem notes?_empty_add {c : Contribution} {notes : Notes}
    (h : ∀ quiz ∈ c.quizzes, quiz.id = id → quiz.notes = notes)
    (hsome : ∃ quiz ∈ c.quizzes, quiz.id = id) : (empty.add c).notes? id = some notes := by
  have hmem : id ∈ (empty.add c).nodes.keys := by
    obtain ⟨quiz, hquiz, rfl⟩ := hsome
    exact mem_nodes_add.2 (Or.inr (List.mem_map_of_mem hquiz))
  obtain ⟨node, hnode, -⟩ := (keyed_empty.add c).exists_get? hmem
  have hword {β : Type} {read : Notes → Option β} (hread : Quiz.Overrides fun quiz =>
      read quiz.notes) : read node.notes = read notes := by
    have hnodeRead := bind_get?_empty_add hread c id
    rw [hnode, Quiz.lastWord_of_forall (fun quiz hquiz hid => congrArg read (h quiz hquiz hid))
      hsome] at hnodeRead
    exact hnodeRead
  have hnotes : node.notes = ⟨notes.translation, notes.lede⟩ := by
    rw [← hword Quiz.overrides_translation, ← hword Quiz.overrides_lede]
  rw [notes?, hnode, Option.map_some, hnotes]

end Graph

end StudyGraph
