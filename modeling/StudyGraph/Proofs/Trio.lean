import StudyGraph.Proofs.Given

/-!
# The directions of an item

An item is reviewed in one direction or in three, and the quizzes for its directions never fall
together. `Proofs.Given` shows this of items that have a response. An item without responses is its
own response (`Card.trio_nil`), so one card alone stands for the items that have no response but
their prompt (`Card.isTrivial_trio_iff`), and the clozes follow the cards (`Cloze.isTrivial_trio`).
The notes make no difference to what is asked, and a cloze is no card, so an item that is cut out of
a sentence gives two quizzes or six, all of different identities (`nodup_ids_trios`).
-/

namespace StudyGraph

theorem Trio.length_toList {α : Type} (trio : Trio α) :
    trio.toList.length = if trio.isTrivial then 1 else 3 := by
  obtain ⟨first, _ | ⟨a, b⟩⟩ := trio <;> rfl

namespace Card

theorem trio_nil (prompt : Text) : trio prompt [] = trio prompt [prompt] := by
  simp [trio]

variable {prompt : Text} {responses : List Text}

/-- One card alone stands for an item that is its own response. -/
theorem isTrivial_trio_iff :
    (trio prompt responses).isTrivial = true ↔ responses = [] ∨ responses = [prompt] := by
  by_cases hnil : responses = []
  · subst hnil
    rw [trio_nil, isTrivial_trio (List.cons_ne_nil _ _)]
    simp
  · rw [isTrivial_trio hnil]
    simp [hnil]

theorem passive_first_trio : (trio prompt responses).first.passive = true := rfl

/-- The cards of an item have different identities. -/
theorem nodup_ids_trio (prompt : Text) (responses : List Text) :
    (((trio prompt responses).toList.map Quiz.card).map Quiz.id).Nodup := by
  refine Quiz.nodup_ids_of_questions ?_
  by_cases hnil : responses = []
  · subst hnil
    rw [trio_nil]
    exact nodup_questions_trio prompt (List.cons_ne_nil _ _)
  · exact nodup_questions_trio prompt hnil

end Card

namespace Cloze

variable {prompt : Text} {responses : List Text}

theorem isTrivial_trio (cut : Cut) (reading : Option Text) (trivial : Bool) :
    (trio cut prompt responses reading trivial).isTrivial = trivial := by
  cases trivial <;> rfl

/-- The clozes that go with the cards of an item have different identities. -/
theorem nodup_ids_trio (cut : Cut) (reading : Option Text) (prompt : Text)
    (responses : List Text) :
    (((trio cut prompt responses reading (Card.trio prompt responses).isTrivial).toList.map
      Quiz.cloze).map Quiz.id).Nodup := by
  refine Quiz.nodup_ids_of_questions ?_
  by_cases htrivial : (Card.trio prompt responses).isTrivial = true
  · rw [htrivial]
    exact List.pairwise_singleton _ _
  · have hproper := mt Card.isTrivial_trio_iff.2 htrivial
    rw [not_or] at hproper
    exact nodup_questions_trio cut reading hproper.1 fun _ => hproper.2

end Cloze

/-- An item gives one card if it has no response but its prompt, and otherwise three. Cut out of a
sentence it gives as many clozes. The cards have different identities, so have the clozes, and no
cloze has the identity of a card. -/
theorem nodup_ids_trios (prompt : Text) (responses : List Text) :
    let cards := Card.trio prompt responses
    ((∃ card, cards.toList = [card] ∧ card.passive = true) ↔
      responses = [] ∨ responses = [prompt]) ∧
    (cards.toList.length = 3 ↔ ¬(responses = [] ∨ responses = [prompt])) ∧
    ((cards.toList.map Quiz.card).map Quiz.id).Nodup ∧
    ∀ (s : Sentence) (cut : Cut),
      let clozes := (Cloze.trio cut prompt responses (s.readingOf cut) cards.isTrivial).map
        fun cloze => { cloze with notes := s.notes }
      clozes.toList.length = cards.toList.length ∧
      ((clozes.toList.map Quiz.cloze).map Quiz.id).Nodup ∧
      ∀ cloze ∈ clozes.toList, ∀ card : Card, (Quiz.cloze cloze).id ≠ (Quiz.card card).id := by
  intro cards
  have hlength : cards.toList.length = if cards.isTrivial then 1 else 3 := cards.length_toList
  have htrivial : cards.isTrivial = true ↔ responses = [] ∨ responses = [prompt] :=
    Card.isTrivial_trio_iff
  refine ⟨?_, ?_, Card.nodup_ids_trio prompt responses, fun s cut => ⟨?_, ?_, ?_⟩⟩
  · rw [← htrivial]
    constructor
    · rintro ⟨card, hcard, -⟩
      by_contra hproper
      simp [hcard, hproper] at hlength
    · intro hcards
      refine ⟨cards.first, ?_, Card.passive_first_trio⟩
      have hsides : cards.sides = none := Option.isNone_iff_eq_none.1 hcards
      simp [Trio.toList, Trio.slots, hsides]
  · rw [← htrivial, hlength]
    split <;> simp_all
  · rw [hlength, Trio.length_toList, Trio.isTrivial_map, Cloze.isTrivial_trio]
  · have hids := Cloze.nodup_ids_trio cut (s.readingOf cut) prompt responses
    rw [Trio.toList_map, List.map_map, List.map_map]
    rw [List.map_map] at hids
    exact hids
  · intro cloze _ card hid
    cases Quiz.kind_eq_of_id_eq hid

end StudyGraph
