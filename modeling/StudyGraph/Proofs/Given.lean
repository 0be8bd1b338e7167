import Mathlib.Data.List.Nodup
import StudyGraph.Proofs.Line
import StudyGraph.Proofs.Sentence

/-!
# The quizzes that bullets give

`Sentence.given` lists the quizzes that a bullet gives a sentence : the cloze of a fill bullet, or
the cards and the clozes of a vocabulary item that is not the sentence itself. A fill bullet and a
vocabulary bullet that are read say where the sentence is cut (`Sentence.fillCloze_eq_ok_iff`,
`Sentence.Itemizes`), and the line of a bullet matters for its faults alone, so bullets with the
same text give the same quizzes (`Sentence.given_congr`). The quizzes that one bullet gives have
different identities (`Sentence.nodup_given`) : the cards ask different questions
(`Card.nodup_questions_trio`), and the clozes differ in their hints or in their answers
(`Cloze.nodup_questions_trio`).
-/

set_option linter.unusedSectionVars false

namespace StudyGraph

/-! ## Outcomes -/

section Outcomes

variable {ε ε' α : Type}

/-- To change the error of an outcome is to keep its value. -/
theorem mapError_eq_ok_iff {x : Except ε α} {f : ε → ε'} {a : α} :
    x.mapError f = .ok a ↔ x = .ok a := by
  cases x <;> constructor <;> intro h <;> cases h <;> rfl

theorem toOption_mapError (x : Except ε α) (f : ε → ε') :
    (x.mapError f).toOption = x.toOption := by
  cases x <;> rfl

/-- Outcomes that have one value or fail, each with an error of its own. -/
theorem ok_or_error_of_toOption_eq {x y : Except ε α} (h : x.toOption = y.toOption) :
    (∃ a, x = .ok a ∧ y = .ok a) ∨ ∃ e e', x = .error e ∧ y = .error e' := by
  cases x with
  | ok a =>
    cases y with
    | ok b => exact Or.inl ⟨a, rfl, by rw [Option.some.inj h]⟩
    | error e => cases h
  | error e =>
    cases y with
    | ok b => cases h
    | error e' => exact Or.inr ⟨e, e', rfl, rfl⟩

end Outcomes

/-! ## Trios -/

namespace Trio

variable {α β : Type}

theorem toList_map (f : α → β) (trio : Trio α) : (trio.map f).toList = trio.toList.map f := by
  obtain ⟨first, _ | ⟨a, b⟩⟩ := trio <;> rfl

@[simp] theorem isTrivial_map (f : α → β) (trio : Trio α) :
    (trio.map f).isTrivial = trio.isTrivial := by
  simp [isTrivial, map]

theorem filterMap_slots (f : α → β) (trio : Trio α) :
    (trio.slots.map (Option.map f)).filterMap id = trio.toList.map f := by
  obtain ⟨first, _ | ⟨a, b⟩⟩ := trio <;> rfl

end Trio

theorem Quiz.nodup_ids_of_questions {quizzes : List Quiz} (h : (quizzes.map Quiz.question).Nodup) :
    (quizzes.map Quiz.id).Nodup := by
  rw [List.Nodup, List.pairwise_map] at h ⊢
  exact h.imp fun hne hid => hne (id_eq_id_iff_question.1 hid)

namespace Card

variable {prompt : Text} {responses : List Text}

theorem isTrivial_trio (hne : responses ≠ []) :
    (trio prompt responses).isTrivial = true ↔ responses = [prompt] := by
  by_cases h : responses = [prompt]
  · simp [h, trio_of_trivial, Trio.isTrivial]
  · simp [h, trio_of_not_trivial hne h, Trio.isTrivial]

/-- The cards of an item ask different questions. -/
theorem nodup_questions_trio (prompt : Text) (hne : responses ≠ []) :
    (((trio prompt responses).toList.map Quiz.card).map Quiz.question).Nodup := by
  by_cases h : responses = [prompt]
  · rw [h, trio_of_trivial]
    exact List.pairwise_singleton _ _
  · rw [trio_of_not_trivial hne h]
    exact nodup_questions h

end Card

namespace Cloze

variable {prompt : Text} {responses : List Text}

/-- Several responses are never joined into one of them. -/
theorem ne_join_responses (hne : responses ≠ []) (h : responses ≠ [prompt])
    (hall : ∀ response ∈ responses, response = prompt) :
    prompt ≠ Text.join responseSeparator responses := by
  cases responses with
  | nil => exact absurd rfl hne
  | cons response responses =>
    obtain rfl : response = prompt := hall response (by simp)
    have hmore : responses ≠ [] := fun hnil => h (by rw [hnil])
    rw [Text.join_cons _ _ hmore]
    intro hjoin
    have hlength := congrArg List.length hjoin
    simp [responseSeparator] at hlength

/-- The clozes of an item ask different questions. -/
theorem nodup_questions_trio (cut : Cut) (reading : Option Text) {trivial : Bool}
    (hne : responses ≠ []) (h : trivial = false → responses ≠ [prompt]) :
    (((trio cut prompt responses reading trivial).toList.map Quiz.cloze).map
      Quiz.question).Nodup := by
  cases trivial with
  | true => exact List.pairwise_singleton _ _
  | false =>
    have hsides : (some [prompt], (OrderedSet.ofList (responses ++ [prompt])).toList) ≠
        (some [Text.join responseSeparator responses], (OrderedSet.ofList [prompt]).toList) := by
      intro heq
      obtain ⟨hhints, hanswers⟩ := Prod.mk.inj heq
      refine ne_join_responses hne (h rfl) (fun response hresponse => ?_) (by simpa using hhints)
      have hmem : response ∈ (OrderedSet.ofList [prompt]).toList := by
        rw [← hanswers]
        simp [hresponse]
      simpa using hmem
    have hquestions : [Question.cloze cut.pieces
          [(OrderedSet.ofList (responses ++ [prompt] ++ reading.toList)).toList] none,
        .cloze cut.pieces [(OrderedSet.ofList (responses ++ [prompt])).toList] (some [prompt]),
        .cloze cut.pieces [(OrderedSet.ofList [prompt]).toList]
          (some [Text.join responseSeparator responses])].Nodup := by
      simp only [List.nodup_cons, List.mem_cons, List.not_mem_nil, or_false, Question.cloze.injEq,
        reduceCtorEq, and_false, not_false_eq_true, true_and, List.nodup_nil, and_true]
      rintro ⟨hanswers, hhints⟩
      exact hsides (Prod.ext hhints (List.cons.inj hanswers).1)
    exact hquestions

end Cloze

/-- The cards of a sentence have different identities. -/
theorem Sentence.Reads.nodup_quizzes {s : Sentence} {header : Line} {content : Text}
    {bullets : List Bullet} (hs : s.Reads header content bullets) :
    (s.quizzes.map Quiz.id).Nodup := by
  refine Quiz.nodup_ids_of_questions ?_
  have htrio := Card.nodup_questions_trio s.item.prompt hs.responses_ne_nil
  rw [List.map_map] at htrio
  rw [Sentence.quizzes, hs.cards_eq, Trio.toList_map, List.map_map, List.map_map]
  exact htrio

/-! ## Items and their cards -/

namespace Item

/-- The identities of the cards of an item. -/
def ids (item : Item) : List QuizId :=
  (Card.trio item.prompt item.responses).toList.map fun card => (Quiz.card card).id

/-- The identity of the card that asks to recognise an item, which every item has. -/
def recognition (item : Item) : QuizId :=
  (Quiz.card (Card.trio item.prompt item.responses).first).id

/-- Items share cards, but not the one to recognise them. -/
theorem recognition_mem_ids_iff {item other : Item} (h : item.responses ≠ [])
    (hother : other.responses ≠ []) : item.recognition ∈ other.ids ↔ other = item := by
  have hfirst : (Card.trio item.prompt item.responses).first =
      .make item.prompt item.responses true false := by
    simp [Card.trio, h]
  have hquestion : ∀ card : Card, item.recognition = (Quiz.card card).id ↔
      .card item.prompt item.responses true = (Quiz.card card).question := by
    intro card
    rw [recognition, hfirst]
    exact Quiz.id_eq_id_iff_question
  have hitems : other = item ↔ item.prompt = other.prompt ∧ item.responses = other.responses := by
    constructor
    · rintro rfl
      exact ⟨rfl, rfl⟩
    · rintro ⟨hprompt, hresponses⟩
      cases other
      cases item
      simp_all
  rw [hitems, ids, List.mem_map]
  simp only [eq_comm (b := item.recognition), hquestion]
  by_cases htrivial : other.responses = [other.prompt]
  · rw [htrivial, Card.trio_of_trivial]
    simp [Trio.toList, Trio.slots, Quiz.question, Card.make]
  · rw [Card.trio_of_not_trivial hother htrivial]
    simp [Trio.toList, Trio.slots, Quiz.question, Card.make]

end Item

theorem Sentence.Reads.ids_quizzes {s : Sentence} {header : Line} {content : Text}
    {bullets : List Bullet} (hs : s.Reads header content bullets) :
    s.quizzes.map Quiz.id = s.item.ids := by
  rw [Sentence.quizzes, hs.cards_eq, Trio.toList_map, List.map_map, List.map_map]
  rfl

theorem Sentence.Reads.id_first {s : Sentence} {header : Line} {content : Text}
    {bullets : List Bullet} (hs : s.Reads header content bullets) :
    (Quiz.card s.cards.first).id = s.item.recognition := by
  rw [hs.cards_eq]
  rfl

/-! ## Lines of bullets -/

namespace Bullet

theorem classify_of_mem_run : ∀ {lines : List Line} {bullet : Bullet}, bullet ∈ run lines →
    classify bullet.line.text = some (bullet.kind, bullet.content)
  | [], _, h => by simp [run] at h
  | line :: lines, bullet, h => by
    rw [run] at h
    split at h
    · next kind content hline =>
      rcases List.mem_cons.1 h with rfl | h
      · exact hline
      · exact classify_of_mem_run h
    · cases h

/-- The text of its line says everything about a bullet. -/
theorem eq_of_text_eq {lines lines' : List Line} {bullet bullet' : Bullet} (h : bullet ∈ run lines)
    (h' : bullet' ∈ run lines') (htext : bullet.line.text = bullet'.line.text) :
    bullet.kind = bullet'.kind ∧ bullet.content = bullet'.content := by
  have hline := classify_of_mem_run h
  rw [htext, classify_of_mem_run h', Option.some.injEq, Prod.mk.injEq] at hline
  exact ⟨hline.1.symm, hline.2.symm⟩

end Bullet

/-! ## What bullets give -/

/-- The quizzes of a vocabulary item. -/
def Vocabulary.quizzes (v : Vocabulary) : List Quiz :=
  (v.cardSlots ++ v.clozeSlots).filterMap id

theorem Vocabulary.quizzes_eq (v : Vocabulary) :
    v.quizzes = v.cards.toList.map .card ++ (v.clozes.toList.flatMap Trio.toList).map .cloze := by
  rw [quizzes, List.filterMap_append, cardSlots, Trio.filterMap_slots, clozeSlots]
  cases v.clozes with
  | none => rfl
  | some clozes =>
    simp only [Trio.filterMap_slots, Option.toList_some, List.flatMap_cons, List.flatMap_nil,
      List.append_nil]

theorem Sentence.vocabularySteps_eq (s : Sentence) (v : Vocabulary) :
    s.vocabularySteps v = v.quizzes.map (.register (s.raw v.bullet)) ++
      [.link sentencePolicy (s.group v) v.bullet.line] := by
  have hregister : (v.cardSlots ++ v.clozeSlots).filterMap
      (·.map (Step.register (s.raw v.bullet))) = v.quizzes.map (Step.register (s.raw v.bullet)) :=
    List.map_filterMap.symm
  rw [vocabularySteps, hregister]

/-- The quizzes of an item are its cards and its clozes. -/
theorem Vocabulary.mem_quizzes_iff {v : Vocabulary} {quiz : Quiz} :
    quiz ∈ v.quizzes ↔ (∃ card ∈ v.cards.toList, quiz = .card card) ∨
      ∃ clozes, v.clozes = some clozes ∧ ∃ cloze ∈ clozes.toList, quiz = .cloze cloze := by
  rw [quizzes_eq, List.mem_append]
  cases v.clozes <;> simp [eq_comm]

theorem Vocabulary.first_mem_quizzes (v : Vocabulary) : .card v.cards.first ∈ v.quizzes := by
  simp [quizzes_eq, Trio.toList, Trio.slots]

namespace Sentence

/-- The quizzes that a bullet gives : the cloze of a blank, or the cards and the clozes of a
vocabulary item. A bullet that repeats the sentence gives none of its own. -/
def given (s : Sentence) (bullet : Bullet) : List Quiz :=
  match bullet.kind with
  | .fill => (s.fillCloze bullet).toOption.toList.map .cloze
  | .vocabulary =>
    ((s.entry bullet).toOption.bind Entry.vocabulary?).toList.flatMap Vocabulary.quizzes
  | .translation => []
  | .furigana => []
  | .unknown => []

variable {s : Sentence} {bullet bullet' : Bullet}

theorem cutAt_eq_ok_iff {locator : Text} (line : Line) {cut : Cut} :
    s.cutAt locator line = .ok cut ↔ Cut.locate s.item.prompt locator = .ok cut :=
  mapError_eq_ok_iff

/-- A fill bullet gives the cloze of a cut, which accepts what was blanked and the further values.
-/
theorem fillCloze_eq_ok_iff {cloze : Cloze} : s.fillCloze bullet = .ok cloze ↔
    bullet.fields.first ≠ [] ∧ ∃ cut, Cut.locate s.item.prompt bullet.fields.first = .ok cut ∧
      cloze =
        { Cloze.ofCut cut .fill (cut.blank :: bullet.fields.rest) none with notes := s.notes } := by
  simp only [fillCloze, ← s.cutAt_eq_ok_iff bullet.line, bind, Except.bind, pure, Except.pure]
  cases hfirst : bullet.fields.first with
  | nil => simp [throw, throwThe, MonadExceptOf.throw]
  | cons c t =>
    cases s.cutAt (c :: t) bullet.line with
    | error fault => simp
    | ok cut => simp [eq_comm]

/-- What a vocabulary bullet with an item of its own gives : the cards of the item, and its clozes
if the sentence is cut for it. -/
structure Itemizes (s : Sentence) (bullet : Bullet) (v : Vocabulary) : Prop where
  /-- The item is not the sentence. -/
  item_ne : bullet.fields.item ≠ s.item
  /-- The item stands for its bullet. -/
  bullet_eq : v.bullet = bullet
  /-- The cards are those of the item, with the notes of the bullet. -/
  cards_eq : ∃ notes, v.cards =
    (Card.trio bullet.fields.item.prompt bullet.fields.item.responses).map fun card =>
      { card with partOfSpeech := partOfSpeech? bullet.fields, notes }
  /-- The clozes are those of a cut, with the notes of the sentence. -/
  clozes_eq : ∀ clozes, v.clozes = some clozes → ∃ locator cut,
    Cut.locate s.item.prompt locator = .ok cut ∧
      clozes = (Cloze.trio cut bullet.fields.item.prompt bullet.fields.item.responses
        (s.readingOf cut) v.cards.isTrivial).map fun cloze => { cloze with notes := s.notes }

theorem exists_cut_of_vocabularyClozes {fields : Fields} {trivial : Bool} {line : Line}
    {clozes : Trio Cloze} (h : s.vocabularyClozes fields trivial line = .ok (some clozes)) :
    ∃ locator cut, Cut.locate s.item.prompt locator = .ok cut ∧
      clozes = (Cloze.trio cut fields.item.prompt fields.item.responses (s.readingOf cut)
        trivial).map fun cloze => { cloze with notes := s.notes } := by
  unfold vocabularyClozes at h
  split at h
  · cases h
  · next locator _ =>
    cases hcut : s.cutAt locator line with
    | error fault => simp [hcut, bind, Except.bind] at h
    | ok cut =>
      simp only [hcut, bind, Except.bind, pure, Except.pure, Except.ok.injEq,
        Option.some.injEq] at h
      exact ⟨locator, cut, (s.cutAt_eq_ok_iff line).1 hcut, h.symm⟩

/-- What a vocabulary bullet comes to. It repeats the sentence, and may give it a part of speech, or
it gives an item of its own, whose cards carry what the bullet says. -/
theorem outcome_of_entry {entry : Entry} (h : s.entry bullet = .ok entry) :
    (bullet.fields.item = s.item ∧ entry = .repeats (partOfSpeech? bullet.fields)) ∨
      ∃ v lede, entry = .vocabulary v ∧ s.Itemizes bullet v ∧
        markedFurigana bullet.fields bullet.line = .ok lede ∧ v.cards =
          (Card.trio bullet.fields.item.prompt bullet.fields.item.responses).map fun card =>
            { card with
              partOfSpeech := partOfSpeech? bullet.fields
              notes := ⟨bullet.fields.translation?, lede⟩ } := by
  simp only [Sentence.entry, bind, Except.bind, pure, Except.pure] at h
  split at h
  · cases h
  · split at h
    · cases h
    · next lede hlede =>
      split at h
      · next hitem => exact Or.inl ⟨hitem, (Except.ok.inj h).symm⟩
      · next hitem =>
        split at h
        · cases h
        · next clozes hclozes =>
          refine Or.inr ⟨_, lede, (Except.ok.inj h).symm, ⟨hitem, rfl, ⟨_, rfl⟩, ?_⟩, hlede, rfl⟩
          rintro trio rfl
          exact exists_cut_of_vocabularyClozes hclozes

/-- A vocabulary bullet that is read repeats the sentence, or gives an item of its own. -/
theorem entry_cases {entry : Entry} (h : s.entry bullet = .ok entry) :
    (bullet.fields.item = s.item ∧ ∃ partOfSpeech, entry = .repeats partOfSpeech) ∨
      ∃ v, entry = .vocabulary v ∧ s.Itemizes bullet v := by
  rcases outcome_of_entry h with ⟨hitem, hrepeats⟩ | ⟨v, -, hv, hitemizes, -⟩
  · exact Or.inl ⟨hitem, _, hrepeats⟩
  · exact Or.inr ⟨v, hv, hitemizes⟩

theorem itemizes_of_entry {v : Vocabulary} (h : s.entry bullet = .ok (.vocabulary v)) :
    s.Itemizes bullet v := by
  rcases entry_cases h with ⟨-, partOfSpeech, hrepeats⟩ | ⟨w, hw, hitem⟩
  · cases hrepeats
  · obtain rfl := Entry.vocabulary.inj hw
    exact hitem

/-- The cards of an item carry what its bullet says. -/
theorem cards_of_entry {v : Vocabulary} (h : s.entry bullet = .ok (.vocabulary v)) :
    ∃ lede, markedFurigana bullet.fields bullet.line = .ok lede ∧ v.cards =
      (Card.trio bullet.fields.item.prompt bullet.fields.item.responses).map fun card =>
        { card with
          partOfSpeech := partOfSpeech? bullet.fields
          notes := ⟨bullet.fields.translation?, lede⟩ } := by
  rcases outcome_of_entry h with ⟨-, hrepeats⟩ | ⟨w, lede, hw, -, hlede, hcards⟩
  · cases hrepeats
  · obtain rfl := Entry.vocabulary.inj hw
    exact ⟨lede, hlede, hcards⟩

/-! ### By the kind of the bullet -/

theorem given_of_fillCloze {cloze : Cloze} (hkind : bullet.kind = .fill)
    (h : s.fillCloze bullet = .ok cloze) : s.given bullet = [.cloze cloze] := by
  simp [given, hkind, h, Except.toOption]

theorem given_of_vocabulary {v : Vocabulary} (hkind : bullet.kind = .vocabulary)
    (h : s.entry bullet = .ok (.vocabulary v)) : s.given bullet = v.quizzes := by
  simp [given, hkind, h, Except.toOption, Entry.vocabulary?]

theorem given_of_repeats {partOfSpeech : Option (List Text)} (hkind : bullet.kind = .vocabulary)
    (h : s.entry bullet = .ok (.repeats partOfSpeech)) : s.given bullet = [] := by
  simp [given, hkind, h, Except.toOption, Entry.vocabulary?]

theorem given_of_other (hfill : bullet.kind ≠ .fill) (hvocabulary : bullet.kind ≠ .vocabulary) :
    s.given bullet = [] := by
  unfold given
  split <;> simp_all

/-- A quiz that is given is the cloze of a fill bullet, or a quiz of a vocabulary item. -/
theorem given_cases {quiz : Quiz} (h : quiz ∈ s.given bullet) :
    (bullet.kind = .fill ∧ ∃ cloze, s.fillCloze bullet = .ok cloze ∧ quiz = .cloze cloze) ∨
      bullet.kind = .vocabulary ∧ ∃ v, s.entry bullet = .ok (.vocabulary v) ∧ quiz ∈ v.quizzes := by
  cases hkind : bullet.kind with
  | fill =>
    cases hcloze : s.fillCloze bullet with
    | error fault => simp [given, hkind, hcloze, Except.toOption] at h
    | ok cloze =>
      rw [given_of_fillCloze hkind hcloze, List.mem_singleton] at h
      exact Or.inl ⟨rfl, cloze, rfl, h⟩
  | vocabulary =>
    cases hentry : s.entry bullet with
    | error fault => simp [given, hkind, hentry, Except.toOption] at h
    | ok entry =>
      cases entry with
      | «repeats» partOfSpeech => simp [given_of_repeats hkind hentry] at h
      | vocabulary v =>
        rw [given_of_vocabulary hkind hentry] at h
        exact Or.inr ⟨rfl, v, rfl, h⟩
  | _ => simp [given, hkind] at h

/-! ### By the text of the bullet -/

theorem toOption_fillCloze_congr (h : bullet.content = bullet'.content) :
    (s.fillCloze bullet).toOption = (s.fillCloze bullet').toOption := by
  have hfields : bullet.fields = bullet'.fields := congrArg Fields.ofText h
  have hcloze : ∀ cloze, s.fillCloze bullet = .ok cloze ↔ s.fillCloze bullet' = .ok cloze := by
    intro cloze
    rw [fillCloze_eq_ok_iff, fillCloze_eq_ok_iff, hfields]
  cases hfill : s.fillCloze bullet with
  | ok cloze => rw [(hcloze cloze).1 hfill]
  | error fault =>
    cases hfill' : s.fillCloze bullet' with
    | ok cloze => simp [(hcloze cloze).2 hfill'] at hfill
    | error fault' => rfl

theorem toOption_markedFurigana_congr (fields : Fields) (line line' : Line) :
    (markedFurigana fields line).toOption = (markedFurigana fields line').toOption := by
  unfold markedFurigana
  cases fields.marker "furigana" with
  | none => rfl
  | some t =>
    have hread : (readFurigana line t).toOption = (readFurigana line' t).toOption := by
      rw [readFurigana, readFurigana, toOption_mapError, toOption_mapError]
    rcases ok_or_error_of_toOption_eq hread with ⟨units, h, h'⟩ | ⟨e, e', h, h'⟩
    · simp only [h, h']
    · simp only [h, h']
      rfl

theorem toOption_vocabularyClozes_congr (fields : Fields) (trivial : Bool) (line line' : Line) :
    (s.vocabularyClozes fields trivial line).toOption =
      (s.vocabularyClozes fields trivial line').toOption := by
  unfold vocabularyClozes
  cases s.locator? fields with
  | none => rfl
  | some locator =>
    have hcut : (s.cutAt locator line).toOption = (s.cutAt locator line').toOption := by
      rw [cutAt, cutAt, toOption_mapError, toOption_mapError]
    rcases ok_or_error_of_toOption_eq hcut with ⟨cut, h, h'⟩ | ⟨e, e', h, h'⟩
    · simp only [h, h']
    · simp only [h, h']
      rfl

/-- The quizzes of an entry do not depend on the line of its bullet. -/
theorem quizzes_entry_congr (h : bullet.content = bullet'.content) :
    ((s.entry bullet).toOption.bind Entry.vocabulary?).map Vocabulary.quizzes =
      ((s.entry bullet').toOption.bind Entry.vocabulary?).map Vocabulary.quizzes := by
  have hfields : bullet.fields = bullet'.fields := congrArg Fields.ofText h
  have hlede := toOption_markedFurigana_congr bullet'.fields bullet.line bullet'.line
  have hclozes := toOption_vocabularyClozes_congr (s := s) bullet'.fields
    (Card.trio bullet'.fields.item.prompt bullet'.fields.item.responses).isTrivial bullet.line
    bullet'.line
  simp only [Sentence.entry, hfields, Trio.isTrivial_map, bind, Except.bind, pure, Except.pure]
  split
  · rfl
  · rcases ok_or_error_of_toOption_eq hlede with ⟨lede, h, h'⟩ | ⟨e, e', h, h'⟩
    · simp only [h, h']
      split
      · rfl
      · rcases ok_or_error_of_toOption_eq hclozes with ⟨clozes, h, h'⟩ | ⟨e, e', h, h'⟩
        · simp only [h, h']
          rfl
        · simp only [h, h']
          rfl
    · simp only [h, h']
      rfl

/-- Bullets of one kind with one content give the same quizzes. -/
theorem given_congr (hkind : bullet.kind = bullet'.kind)
    (hcontent : bullet.content = bullet'.content) : s.given bullet = s.given bullet' := by
  have hflat : ∀ o : Option Vocabulary, o.toList.flatMap Vocabulary.quizzes =
      (o.map Vocabulary.quizzes).getD [] := by
    intro o
    cases o <;> simp
  simp only [given, hkind, toOption_fillCloze_congr hcontent, hflat, quizzes_entry_congr hcontent]

/-! ### Different identities -/

/-- The quizzes of an item ask different questions. -/
theorem Itemizes.nodup_questions {v : Vocabulary} (h : s.Itemizes bullet v) :
    (v.quizzes.map Quiz.question).Nodup := by
  have hne := bullet.fields.responses_item_ne_nil
  obtain ⟨notes, hcards⟩ := h.cards_eq
  rw [Vocabulary.quizzes_eq, List.map_append]
  refine List.nodup_append.2 ⟨?_, ?_, ?_⟩
  · rw [hcards, Trio.toList_map, List.map_map, List.map_map]
    have htrio := Card.nodup_questions_trio bullet.fields.item.prompt hne
    rw [List.map_map] at htrio
    exact htrio
  · cases hclozes : v.clozes with
    | none => exact List.Pairwise.nil
    | some clozes =>
      obtain ⟨locator, cut, -, rfl⟩ := h.clozes_eq clozes hclozes
      have htrivial : v.cards.isTrivial = false →
          bullet.fields.item.responses ≠ [bullet.fields.item.prompt] := by
        intro hfalse htrue
        rw [hcards, Trio.isTrivial_map, (Card.isTrivial_trio hne).2 htrue] at hfalse
        cases hfalse
      have htrio := Cloze.nodup_questions_trio cut (s.readingOf cut) hne htrivial
      rw [List.map_map] at htrio
      simp only [Option.toList_some, List.flatMap_cons, List.flatMap_nil, List.append_nil,
        Trio.toList_map, List.map_map]
      exact htrio
  · intro question hquestion question' hquestion' heq
    obtain ⟨quiz, hquiz, rfl⟩ := List.mem_map.1 hquestion
    obtain ⟨quiz', hquiz', rfl⟩ := List.mem_map.1 hquestion'
    obtain ⟨card, -, rfl⟩ := List.mem_map.1 hquiz
    obtain ⟨cloze, -, rfl⟩ := List.mem_map.1 hquiz'
    cases heq

theorem Itemizes.ids_cards {v : Vocabulary} (h : s.Itemizes bullet v) :
    v.cards.toList.map (fun card => (Quiz.card card).id) = bullet.fields.item.ids := by
  obtain ⟨notes, hcards⟩ := h.cards_eq
  rw [hcards, Trio.toList_map, List.map_map]
  rfl

theorem Itemizes.id_mem_ids {v : Vocabulary} (h : s.Itemizes bullet v) {quiz : Quiz}
    (hquiz : quiz ∈ v.quizzes) (hkind : quiz.kind = .card) :
    quiz.id ∈ bullet.fields.item.ids := by
  rcases Vocabulary.mem_quizzes_iff.1 hquiz with ⟨card, hcard, rfl⟩ | ⟨clozes, -, cloze, -, rfl⟩
  · rw [← h.ids_cards]
    exact List.mem_map_of_mem hcard
  · cases hkind

theorem Itemizes.id_first {v : Vocabulary} (h : s.Itemizes bullet v) :
    (Quiz.card v.cards.first).id = bullet.fields.item.recognition := by
  obtain ⟨notes, hcards⟩ := h.cards_eq
  rw [hcards]
  rfl

/-- Only the first card of an item asks to recognise it. -/
theorem Itemizes.eq_first {v : Vocabulary} (h : s.Itemizes bullet v) {quiz : Quiz}
    (hquiz : quiz ∈ v.quizzes) {item : Item} (hitem : item.responses ≠ [])
    (hid : quiz.id = item.recognition) :
    bullet.fields.item = item ∧ quiz = .card v.cards.first := by
  have hkind : quiz.kind = .card := Quiz.kind_eq_of_id_eq (b := .card _) hid
  have hmem := h.id_mem_ids hquiz hkind
  rw [hid, Item.recognition_mem_ids_iff hitem bullet.fields.responses_item_ne_nil] at hmem
  refine ⟨hmem, ?_⟩
  have hnodup := Quiz.nodup_ids_of_questions h.nodup_questions
  refine List.inj_on_of_nodup_map hnodup hquiz v.first_mem_quizzes ?_
  rw [hid, h.id_first, hmem]

/-- The quizzes that a bullet gives have different identities. -/
theorem nodup_given (s : Sentence) (bullet : Bullet) : ((s.given bullet).map Quiz.id).Nodup := by
  cases hkind : bullet.kind with
  | fill =>
    cases hcloze : s.fillCloze bullet with
    | error fault => simp [given, hkind, hcloze, Except.toOption]
    | ok cloze => simp [given_of_fillCloze hkind hcloze]
  | vocabulary =>
    cases hentry : s.entry bullet with
    | error fault => simp [given, hkind, hentry, Except.toOption]
    | ok entry =>
      rcases entry_cases hentry with ⟨-, partOfSpeech, rfl⟩ | ⟨v, rfl, hitem⟩
      · simp [given_of_repeats hkind hentry]
      · rw [given_of_vocabulary hkind hentry]
        exact Quiz.nodup_ids_of_questions hitem.nodup_questions
  | _ => simp [given, hkind]

end Sentence

end StudyGraph
