import StudyGraph.Proofs.Identity
import StudyGraph.Proofs.PlanContribution

/-!
# Sentences that are read

What `Sentence.read` puts into a sentence (`Sentence.Reads`, `Sentence.reads_of_read`): the header
line, the item of the header, the notes, and the cards of the item with these notes. The item always
has a response, so its cards are one alone exactly if its prompt is its only response
(`Sentence.Reads.slots_of_trivial`), and otherwise three of different identities
(`Sentence.Reads.slots_of_not_trivial`).
-/

namespace StudyGraph

theorem Fields.responses_item_ne_nil (fields : Fields) : fields.item.responses ≠ [] := by
  unfold item
  dsimp only
  split
  · simp
  · next h =>
    intro hnil
    simp [hnil] at h

namespace Card

variable {prompt : Text} {responses : List Text}

theorem trio_of_trivial (prompt : Text) :
    trio prompt [prompt] = ⟨.make prompt [prompt] true false, none⟩ := by
  simp [trio]

theorem trio_of_not_trivial (hne : responses ≠ []) (h : responses ≠ [prompt]) :
    trio prompt responses = ⟨.make prompt responses true false,
      some (.make prompt responses false false,
        .make (Text.join responseSeparator responses) [prompt] false true)⟩ := by
  simp [trio, hne, h]

/-- A card of an item shows its prompt, or it shows the responses together. -/
theorem cases_of_mem_trio (hne : responses ≠ []) {card : Card}
    (h : card ∈ (trio prompt responses).toList) :
    (∃ passive, card = .make prompt responses passive false) ∨
      card = .make (Text.join responseSeparator responses) [prompt] false true := by
  by_cases htrivial : responses = [prompt]
  · rw [htrivial, trio_of_trivial] at h
    rw [htrivial]
    exact Or.inl ⟨true, List.mem_singleton.1 h⟩
  · rw [trio_of_not_trivial hne htrivial] at h
    rcases List.mem_cons.1 h with rfl | h
    · exact Or.inl ⟨true, rfl⟩
    · rcases List.mem_cons.1 h with rfl | h
      · exact Or.inl ⟨false, rfl⟩
      · exact Or.inr (List.mem_singleton.1 h)

/-- The three cards of an item ask different questions. -/
theorem nodup_questions (h : responses ≠ [prompt]) :
    [Question.card prompt responses true, .card prompt responses false,
      .card (Text.join responseSeparator responses) [prompt] false].Nodup := by
  simp [h]

end Card

namespace Sentence

/-- The sentence is what reading a header with this content and these bullets gives. -/
structure Reads (s : Sentence) (header : Line) (content : Text) (bullets : List Bullet) : Prop where
  /-- The line is the header. -/
  header_eq : s.header = header
  /-- The item is that of the header. -/
  item_eq : s.item = (Fields.ofText content).item
  /-- The header has a prompt. -/
  first_ne_nil : (Fields.ofText content).first ≠ []
  /-- The reading is that of the bullets. -/
  ledeOf_eq : ledeOf bullets = .ok s.notes.lede
  /-- The cards are those of the item, with the notes of the sentence. -/
  cards_eq : s.cards =
    (Card.trio s.item.prompt s.item.responses).map fun card => { card with notes := s.notes }

theorem reads_of_read {s : Sentence} {header : Line} {content : Text} {bullets : List Bullet}
    (h : read header content bullets = .ok s) : s.Reads header content bullets := by
  simp only [read, bind, Except.bind, pure, Except.pure] at h
  split at h
  · cases h
  · next hfirst =>
    split at h
    · cases h
    · next lede hlede =>
      obtain rfl := Except.ok.inj h
      exact ⟨rfl, rfl, fun hnil => hfirst (by simp [hnil]), hlede, rfl⟩

/-- The translation of a sentence that is read is that of its header, or else of its bullets. -/
theorem translation_of_read {s : Sentence} {header : Line} {content : Text} {bullets : List Bullet}
    (h : read header content bullets = .ok s) :
    s.notes.translation = translationOf (.ofText content) bullets := by
  simp only [read, bind, Except.bind, pure, Except.pure] at h
  split at h
  · cases h
  · split at h
    · cases h
    · obtain rfl := Except.ok.inj h
      rfl

namespace Reads

variable {s : Sentence} {header : Line} {content : Text} {bullets : List Bullet}
  (hs : s.Reads header content bullets)

include hs

theorem responses_ne_nil : s.item.responses ≠ [] := by
  rw [hs.item_eq]
  exact Fields.responses_item_ne_nil _

/-- An item that is its own response has one card. -/
theorem slots_of_trivial (h : s.item.responses = [s.item.prompt]) :
    ∃ card, s.slots = [some (.card card), none, none] := by
  refine ⟨{ Card.make s.item.prompt [s.item.prompt] true false with notes := s.notes }, ?_⟩
  rw [slots, hs.cards_eq, h, Card.trio_of_trivial]
  rfl

/-- Every other item has three cards, of different identities. -/
theorem slots_of_not_trivial (h : s.item.responses ≠ [s.item.prompt]) :
    ∃ first prompted answered : Card,
      s.slots = [some (.card first), some (.card prompted), some (.card answered)] ∧
      [(Quiz.card first).id, (Quiz.card prompted).id, (Quiz.card answered).id].Nodup := by
  let noted (card : Card) : Card := { card with notes := s.notes }
  let joined := Text.join responseSeparator s.item.responses
  refine ⟨noted (.make s.item.prompt s.item.responses true false),
    noted (.make s.item.prompt s.item.responses false false),
    noted (.make joined [s.item.prompt] false true), ?_, ?_⟩
  · rw [slots, hs.cards_eq, Card.trio_of_not_trivial hs.responses_ne_nil h]
    rfl
  · have hquestions := Card.nodup_questions h
    have hids : (List.map (fun question : Question => question.toJson.render) _).Nodup :=
      List.pairwise_map.2 (hquestions.imp fun hne hid =>
        hne (Question.toJson_injective (Json.render_injective hid)))
    exact hids

end Reads

end Sentence

theorem Block.exists_read_of_sentence? {block : Block} {s : Sentence}
    (h : block.sentence? = some (.ok s)) : ∃ header content, block.header? = some header ∧
      headerContent? header.text = some content ∧
      Sentence.read header content block.bullets = .ok s := by
  simp only [sentence?, Option.bind_eq_bind, Option.bind_eq_some_iff, Option.pure_def,
    Option.some.injEq] at h
  obtain ⟨header, hheader, content, hcontent, hread⟩ := h
  exact ⟨header, content, hheader, hcontent, hread⟩

theorem Block.exists_sentence?_of_isSome {block : Block}
    (h : (block.sentence?.bind Except.toOption).isSome = true) :
    ∃ s, block.sentence? = some (.ok s) := by
  obtain ⟨s, hs⟩ := Option.isSome_iff_exists.1 h
  obtain ⟨outcome, houtcome, hok⟩ := Option.bind_eq_some_iff.1 hs
  cases outcome with
  | error fault => cases hok
  | ok own => exact ⟨own, houtcome⟩

/-- What is read off the sentence of a block, for blocks whose sentence can be computed. -/
theorem Block.eq_of_sentence? {α : Type} {block : Block} {s : Sentence}
    (hs : block.sentence? = some (.ok s)) (read : Sentence → α) {a : α}
    (h : (block.sentence?.bind Except.toOption).map read = some a) : read s = a := by
  rw [hs] at h
  exact Option.some.inj h

theorem Block.exists_reads_of_sentence? {block : Block} {s : Sentence}
    (h : block.sentence? = some (.ok s)) : ∃ header content, block.header? = some header ∧
      headerContent? header.text = some content ∧ s.Reads header content block.bullets := by
  obtain ⟨header, content, hheader, hcontent, hread⟩ := exists_read_of_sentence? h
  exact ⟨header, content, hheader, hcontent, Sentence.reads_of_read hread⟩

end StudyGraph
