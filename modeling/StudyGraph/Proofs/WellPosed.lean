import StudyGraph.Proofs.Cloze
import StudyGraph.Proofs.Reading

/-!
# Questions that ask and accept something

Every question that a sentence or a bullet gives has answers (`Question.Answerable`). But an empty
value behind the first one of a line is kept as a response or as an answer, and where it is the only
response it is what the card for the answer asks. A question is well posed if it neither asks nor
accepts the empty text (`Question.WellPosed`). What a sentence and its bullets give is well posed if
their lines have no empty value (`Block.Filled.wellPosed`), and every empty value gets into a
question (`Block.filled_of_wellPosed`).

The nodes of a source that compiles are what its blocks list, so they are well posed exactly if no
line that gives quizzes has an empty value (`Graph.forall_question_iff_of_compileText`,
`wellPosed_iff_of_compileText`).
-/

namespace StudyGraph

/-! ## Questions -/

namespace Question

/-- There is something to answer with. -/
def Answerable : Question → Prop
  | card _ responses _ => responses ≠ []
  | cloze _ answers _ => answers ≠ [] ∧ [] ∉ answers
  | matching _ _ => True

/-- The empty text is neither asked nor accepted. -/
def WellPosed : Question → Prop
  | card prompt responses _ => prompt ≠ [] ∧ [] ∉ responses
  | cloze _ answers _ => ∀ accepted ∈ answers, [] ∉ accepted
  | matching _ _ => True

instance (question : Question) : Decidable question.WellPosed :=
  match question with
  | card prompt responses _ => inferInstanceAs (Decidable (prompt ≠ [] ∧ [] ∉ responses))
  | cloze _ answers _ => inferInstanceAs (Decidable (∀ accepted ∈ answers, [] ∉ accepted))
  | matching _ _ => .isTrue trivial

theorem BlankIn.answerable {sentence : Text} {question : Question} (h : question.BlankIn sentence) :
    question.Answerable := by
  cases question with
  | cloze pieces answers hints =>
    obtain ⟨-, ⟨accepted, rfl, hne, -⟩, -⟩ := h
    exact ⟨List.cons_ne_nil _ _, by simpa using hne.symm⟩
  | card => exact h.elim
  | matching => exact h.elim

end Question

theorem Text.join_ne_nil {separator : Text} {texts : List Text} (h : texts ≠ [])
    (hfilled : [] ∉ texts) : join separator texts ≠ [] := by
  cases texts with
  | nil => exact absurd rfl h
  | cons t texts =>
    have ht : t ≠ [] := fun hnil => hfilled (by simp [hnil])
    by_cases hmore : texts = []
    · simpa [hmore] using ht
    · simp [join_cons _ _ hmore, ht]

namespace Card

variable {prompt : Text} {responses : List Text} {card : Card}

/-- The first card of an item asks to recognise it. -/
theorem question_first_trio (hne : responses ≠ []) :
    (Quiz.card (trio prompt responses).first).question = .card prompt responses true := by
  simp [trio, hne, Quiz.question, make]

theorem answerable_of_mem_trio (hne : responses ≠ []) (h : card ∈ (trio prompt responses).toList) :
    (Quiz.card card).question.Answerable := by
  show card.responses ≠ []
  rcases cases_of_mem_trio hne h with ⟨passive, rfl⟩ | rfl
  · exact hne
  · exact List.cons_ne_nil prompt []

theorem wellPosed_of_mem_trio (hprompt : prompt ≠ []) (hne : responses ≠ [])
    (hfilled : [] ∉ responses) (h : card ∈ (trio prompt responses).toList) :
    (Quiz.card card).question.WellPosed := by
  show card.prompt ≠ [] ∧ [] ∉ card.responses
  rcases cases_of_mem_trio hne h with ⟨passive, rfl⟩ | rfl
  · exact ⟨hprompt, hfilled⟩
  · have hresponse : [] ∉ [prompt] := by simpa using hprompt.symm
    exact ⟨Text.join_ne_nil hne hfilled, hresponse⟩

end Card

namespace Cloze

variable {cut : Cut} {prompt : Text} {responses : List Text} {reading : Option Text} {cloze : Cloze}

theorem wellPosed_ofCut_iff {rule : Rule} {answers : List Text} {hints : Option (List Text)} :
    (Quiz.cloze (ofCut cut rule answers hints)).question.WellPosed ↔ [] ∉ answers := by
  show (∀ accepted ∈ [(OrderedSet.ofList answers).toList], [] ∉ accepted) ↔ [] ∉ answers
  simp

theorem wellPosed_of_mem_trio {trivial : Bool} (hprompt : prompt ≠ []) (hfilled : [] ∉ responses)
    (hreading : reading ≠ some [])
    (h : cloze ∈ (trio cut prompt responses reading trivial).toList) :
    (Quiz.cloze cloze).question.WellPosed := by
  have hfirst : [] ∉ responses ++ [prompt] ++ reading.toList := by
    simp [hfilled, hprompt.symm, hreading]
  have hfirst' : [] ∉ responses ++ [prompt] := fun hmem => hfirst (List.mem_append_left _ hmem)
  cases trivial with
  | true =>
    obtain rfl := List.mem_singleton.1 h
    exact wellPosed_ofCut_iff.2 hfirst
  | false =>
    rcases List.mem_cons.1 h with rfl | h
    · exact wellPosed_ofCut_iff.2 hfirst
    · rcases List.mem_cons.1 h with rfl | h
      · exact wellPosed_ofCut_iff.2 hfirst'
      · obtain rfl := List.mem_singleton.1 h
        exact wellPosed_ofCut_iff.2 (by simpa using hprompt.symm)

end Cloze

/-! ## What is given -/

/-- No value behind the first one is empty. -/
def Fields.Filled (fields : Fields) : Prop :=
  [] ∉ fields.rest

instance (fields : Fields) : Decidable fields.Filled :=
  inferInstanceAs (Decidable ([] ∉ fields.rest))

/-- The responses of an item are the values behind its prompt, or its prompt. -/
theorem Fields.filled_iff {fields : Fields} (h : fields.first ≠ []) :
    fields.Filled ↔ [] ∉ fields.item.responses := by
  unfold Filled item
  dsimp only
  split
  · next hrest =>
    rw [List.isEmpty_iff] at hrest
    simp [hrest, h.symm]
  · rfl

namespace Sentence

variable {s : Sentence} {bullet : Bullet} {quiz : Quiz}

namespace Reads

variable {header : Line} {content : Text} {bullets : List Bullet}
  (hs : s.Reads header content bullets)

include hs

/-- A card of the sentence asks what a card of its item asks. -/
theorem exists_card_of_mem_quizzes (h : quiz ∈ s.quizzes) :
    ∃ card ∈ (Card.trio s.item.prompt s.item.responses).toList,
      quiz.question = (Quiz.card card).question := by
  rw [quizzes, hs.cards_eq, Trio.toList_map, List.map_map] at h
  obtain ⟨card, hcard, rfl⟩ := List.mem_map.1 h
  exact ⟨card, hcard, rfl⟩

theorem answerable_of_mem_quizzes (h : quiz ∈ s.quizzes) : quiz.question.Answerable := by
  obtain ⟨card, hcard, hquestion⟩ := hs.exists_card_of_mem_quizzes h
  rw [hquestion]
  exact Card.answerable_of_mem_trio hs.responses_ne_nil hcard

/-- The cards of a sentence are well posed if its line has no empty value. -/
theorem wellPosed_of_mem_quizzes (hfilled : (Fields.ofText content).Filled)
    (h : quiz ∈ s.quizzes) : quiz.question.WellPosed := by
  obtain ⟨card, hcard, hquestion⟩ := hs.exists_card_of_mem_quizzes h
  rw [hquestion]
  rw [Fields.filled_iff hs.first_ne_nil, ← hs.item_eq] at hfilled
  refine Card.wellPosed_of_mem_trio ?_ hs.responses_ne_nil hfilled hcard
  rw [hs.item_eq]
  exact hs.first_ne_nil

/-- An empty value of the header is accepted by a card of the sentence. -/
theorem filled_of_wellPosed (h : ∀ quiz ∈ s.quizzes, quiz.question.WellPosed) :
    (Fields.ofText content).Filled := by
  rw [Fields.filled_iff hs.first_ne_nil, ← hs.item_eq]
  have hfirst : Quiz.card s.cards.first ∈ s.quizzes := by
    simp [quizzes, Trio.toList, Trio.slots]
  have hquestion : (Quiz.card s.cards.first).question =
      .card s.item.prompt s.item.responses true := by
    rw [hs.cards_eq]
    exact Card.question_first_trio hs.responses_ne_nil
  have hposed := h _ hfirst
  rw [hquestion] at hposed
  exact hposed.2

end Reads

theorem first_ne_nil_of_entry {entry : Entry} (h : s.entry bullet = .ok entry) :
    bullet.fields.first ≠ [] := by
  intro hnil
  simp [Sentence.entry, hnil, throw, throwThe, MonadExceptOf.throw, bind, Except.bind] at h

namespace Itemizes

variable {v : Vocabulary} (hv : s.Itemizes bullet v)

include hv

/-- A card of an item asks what a card of its fields asks. -/
theorem exists_card_of_mem_cards {card : Card} (h : card ∈ v.cards.toList) :
    ∃ bare ∈ (Card.trio bullet.fields.item.prompt bullet.fields.item.responses).toList,
      (Quiz.card card).question = (Quiz.card bare).question := by
  obtain ⟨notes, hcards⟩ := hv.cards_eq
  rw [hcards, Trio.toList_map] at h
  obtain ⟨bare, hbare, rfl⟩ := List.mem_map.1 h
  exact ⟨bare, hbare, rfl⟩

theorem wellPosed_of_mem_clozes (hfirst : bullet.fields.first ≠ []) (hfilled : bullet.fields.Filled)
    {clozes : Trio Cloze} (hclozes : v.clozes = some clozes) {cloze : Cloze}
    (h : cloze ∈ clozes.toList) : (Quiz.cloze cloze).question.WellPosed := by
  obtain ⟨locator, cut, hcut, rfl⟩ := hv.clozes_eq clozes hclozes
  rw [Trio.toList_map] at h
  obtain ⟨bare, hbare, rfl⟩ := List.mem_map.1 h
  have hreading : s.readingOf cut ≠ some [] := fun hreading =>
    readingOf_ne_nil (Cut.blanks_of_locate hcut).blank_ne_nil hreading rfl
  have hbarePosed : (Quiz.cloze bare).question.WellPosed :=
    Cloze.wellPosed_of_mem_trio hfirst ((Fields.filled_iff hfirst).1 hfilled) hreading hbare
  exact hbarePosed

end Itemizes

theorem answerable_of_mem_given (h : quiz ∈ s.given bullet) : quiz.question.Answerable := by
  cases quiz with
  | cloze cloze => exact (blankIn_of_mem_given h).answerable
  | matching matching => trivial
  | card card =>
    rcases given_cases h with ⟨-, cloze, -, heq⟩ | ⟨-, v, hentry, hquiz⟩
    · cases heq
    · rcases Vocabulary.mem_quizzes_iff.1 hquiz with ⟨own, hown, heq⟩ | ⟨_, -, _, -, heq⟩
      · obtain rfl := Quiz.card.inj heq
        obtain ⟨bare, hbare, hquestion⟩ :=
          (itemizes_of_entry hentry).exists_card_of_mem_cards hown
        rw [hquestion]
        exact Card.answerable_of_mem_trio bullet.fields.responses_item_ne_nil hbare
      · cases heq

/-- The cloze of a fill bullet is well posed exactly if its line has no empty value. -/
theorem wellPosed_fillCloze_iff {cloze : Cloze} (h : s.fillCloze bullet = .ok cloze) :
    (Quiz.cloze cloze).question.WellPosed ↔ bullet.fields.Filled := by
  obtain ⟨-, cut, hcut, rfl⟩ := fillCloze_eq_ok_iff.1 h
  have hblank := (Cut.blanks_of_locate hcut).blank_ne_nil
  have hanswers : (Quiz.cloze (Cloze.ofCut cut .fill (cut.blank :: bullet.fields.rest)
      none)).question.WellPosed ↔ [] ∉ cut.blank :: bullet.fields.rest :=
    Cloze.wellPosed_ofCut_iff
  rw [List.mem_cons, not_or, and_iff_right hblank.symm] at hanswers
  exact hanswers

/-- What a bullet gives is well posed if its line has no empty value. -/
theorem wellPosed_of_mem_given (hfilled : bullet.fields.Filled) (h : quiz ∈ s.given bullet) :
    quiz.question.WellPosed := by
  rcases given_cases h with ⟨-, cloze, hcloze, rfl⟩ | ⟨-, v, hentry, hquiz⟩
  · exact (wellPosed_fillCloze_iff hcloze).2 hfilled
  · have hfirst := first_ne_nil_of_entry hentry
    have hv := itemizes_of_entry hentry
    rcases Vocabulary.mem_quizzes_iff.1 hquiz with
      ⟨card, hcard, rfl⟩ | ⟨clozes, hclozes, cloze, hcloze, rfl⟩
    · obtain ⟨bare, hbare, hquestion⟩ := hv.exists_card_of_mem_cards hcard
      rw [hquestion]
      exact Card.wellPosed_of_mem_trio hfirst bullet.fields.responses_item_ne_nil
        ((Fields.filled_iff hfirst).1 hfilled) hbare
    · exact hv.wellPosed_of_mem_clozes hfirst hfilled hclozes hcloze

/-- An empty value of a vocabulary bullet is accepted by its first card. -/
theorem filled_of_entry {v : Vocabulary} (hentry : s.entry bullet = .ok (.vocabulary v))
    (h : (Quiz.card v.cards.first).question.WellPosed) : bullet.fields.Filled := by
  obtain ⟨notes, hcards⟩ := (itemizes_of_entry hentry).cards_eq
  have hquestion : (Quiz.card v.cards.first).question =
      .card bullet.fields.item.prompt bullet.fields.item.responses true := by
    rw [hcards]
    exact Card.question_first_trio bullet.fields.responses_item_ne_nil
  rw [hquestion] at h
  exact (Fields.filled_iff (first_ne_nil_of_entry hentry)).2 h.2

end Sentence

/-! ## Sources -/

namespace Graph

variable {headings : Text → List Nat} {source : Text} {g : Graph}

/-- The nodes of a source that compiles ask what its sentences and their bullets give. -/
theorem forall_question_iff_of_compileText (h : compileText headings source = .ok g)
    (p : Question → Prop) :
    (∀ id quiz, g.get? id = some quiz → p quiz.question) ↔
      ∀ block ∈ Block.ofSource headings source, ∀ s, block.sentence? = some (.ok s) →
        (∀ quiz ∈ s.quizzes ++ s.matchings block.bullets, p quiz.question) ∧
          ∀ bullet ∈ block.bullets, ∀ quiz ∈ s.given bullet, p quiz.question := by
  have hrun := compileUntil_of_compileText h
  constructor
  · intro hnodes block hblock s hs
    have hlisted : ∀ (raw : Text) (quiz : Quiz), (raw, quiz.id) ∈ s.listings block.bullets →
        p quiz.question := by
      intro raw quiz hlisting
      obtain ⟨node, hnode, hquestion⟩ := (wellFormed_of_compileText h).exists_get?_of_relates
        ((relates_raws_of_compileUntil hrun).2 ⟨block, hblock, s, hs, hlisting⟩)
      exact hquestion ▸ hnodes _ _ hnode
    refine ⟨fun quiz hquiz => ?_, fun bullet hbullet quiz hquiz => ?_⟩
    · exact hlisted _ quiz (Sentence.mem_listings.2 (Or.inl ⟨rfl, quiz, hquiz, rfl⟩))
    · exact hlisted _ quiz
        (Sentence.mem_listings.2 (Or.inr ⟨bullet, hbullet, rfl, quiz, hquiz, rfl⟩))
  · intro hblocks id quiz hnode
    have hentry := OrderedMap.mem_entries_iff.2 hnode
    obtain rfl : quiz.id = id := (wellFormed_of_compileText h).keyed _ hentry
    obtain ⟨block, hblock, raw, s, hs, hlisting⟩ :=
      exists_lists_of_compileUntil hrun (List.mem_map_of_mem hentry)
    obtain ⟨hsentence, hbullets⟩ := hblocks block hblock s hs
    rcases Sentence.mem_listings.1 hlisting with
      ⟨-, own, hown, hid⟩ | ⟨bullet, hbullet, -, own, hown, hid⟩
    · exact Quiz.id_eq_id_iff_question.1 hid ▸ hsentence own hown
    · exact Quiz.id_eq_id_iff_question.1 hid ▸ hbullets bullet hbullet own hown

end Graph

namespace Block

/-- No line of the block that gives quizzes has an empty value behind the first one. -/
def Filled (block : Block) : Prop :=
  ∀ header ∈ block.header?, ∀ content ∈ headerContent? header.text,
    (Fields.ofText content).Filled ∧
      ∀ bullet ∈ block.bullets, bullet.kind = .fill ∨ bullet.kind = .vocabulary →
        bullet.fields.Filled

instance (block : Block) : Decidable block.Filled :=
  inferInstanceAs (Decidable (∀ header ∈ block.header?, ∀ content ∈ headerContent? header.text,
    (Fields.ofText content).Filled ∧
      ∀ bullet ∈ block.bullets, bullet.kind = .fill ∨ bullet.kind = .vocabulary →
        bullet.fields.Filled))

variable {block : Block} {s : Sentence}

/-- What a block without empty values gives is well posed. -/
theorem Filled.wellPosed (h : block.Filled) (hs : block.sentence? = some (.ok s)) :
    (∀ quiz ∈ s.quizzes ++ s.matchings block.bullets, quiz.question.WellPosed) ∧
      ∀ bullet ∈ block.bullets, ∀ quiz ∈ s.given bullet, quiz.question.WellPosed := by
  obtain ⟨header, content, hheader, hcontent, hreads⟩ := exists_reads_of_sentence? hs
  obtain ⟨hfields, hbullets⟩ := h header hheader content hcontent
  refine ⟨fun quiz hquiz => ?_, fun bullet hbullet quiz hquiz => ?_⟩
  · rcases List.mem_append.1 hquiz with hquiz | hquiz
    · exact hreads.wellPosed_of_mem_quizzes hfields hquiz
    · obtain ⟨matching, -, rfl⟩ := List.mem_map.1 hquiz
      trivial
  · have hkind := Sentence.kind_of_given_ne_nil (List.ne_nil_of_mem hquiz)
    exact Sentence.wellPosed_of_mem_given (hbullets bullet hbullet hkind) hquiz

/-- If what a block that compiles gives is well posed, the block has no empty values. -/
theorem filled_of_wellPosed {g g' : Graph} {file : Nat} (h : g.compileBlock file block = .ok g')
    (hposed : ∀ s, block.sentence? = some (.ok s) →
      (∀ quiz ∈ s.quizzes, quiz.question.WellPosed) ∧
        ∀ bullet ∈ block.bullets, ∀ quiz ∈ s.given bullet, quiz.question.WellPosed) :
    block.Filled := by
  intro header hheader content hcontent
  have hread : block.sentence? = some (Sentence.read header content block.bullets) := by
    simp [sentence?, Option.mem_def.1 hheader, Option.mem_def.1 hcontent]
  rcases Graph.compileBlock_ok_cases h with ⟨hnone, -⟩ | ⟨s, c, hs, hc, -⟩
  · simp [hnone] at hread
  obtain ⟨hsentence, hgiven⟩ := hposed s hs
  have hreads := Sentence.reads_of_read (Option.some.inj (hread.symm.trans hs))
  have hfields := hreads.filled_of_wellPosed hsentence
  obtain ⟨hfills, hentries⟩ := Sentence.exists_of_collect_plan hc
  refine ⟨hfields, fun bullet hbullet hkind => ?_⟩
  rcases hkind with hkind | hkind
  · obtain ⟨cloze, hcloze⟩ := hfills bullet hbullet hkind
    refine (Sentence.wellPosed_fillCloze_iff hcloze).1 (hgiven bullet hbullet _ ?_)
    simp [Sentence.given_of_fillCloze hkind hcloze]
  · obtain ⟨entry, hentry⟩ := hentries bullet hbullet hkind
    rcases Sentence.entry_cases hentry with ⟨hitem, -⟩ | ⟨v, rfl, -⟩
    · -- A bullet that repeats the sentence has the values of the header.
      rw [Fields.filled_iff hreads.first_ne_nil, ← hreads.item_eq, ← hitem] at hfields
      exact (Fields.filled_iff (Sentence.first_ne_nil_of_entry hentry)).2 hfields
    · refine Sentence.filled_of_entry hentry (hgiven bullet hbullet _ ?_)
      rw [Sentence.given_of_vocabulary hkind hentry]
      exact v.first_mem_quizzes

end Block

/-- Every question of a source that compiles has answers. The questions are all well posed exactly
if no line that gives quizzes has an empty value behind the first one. -/
theorem wellPosed_iff_of_compileText {headings : Text → List Nat} {source : Text} {g : Graph}
    (h : compileText headings source = .ok g) :
    (∀ id quiz, g.get? id = some quiz → quiz.question.Answerable) ∧
      ((∀ id quiz, g.get? id = some quiz → quiz.question.WellPosed) ↔
        ∀ block ∈ Block.ofSource headings source, block.Filled) := by
  rw [Graph.forall_question_iff_of_compileText h, Graph.forall_question_iff_of_compileText h]
  refine ⟨fun block _ s hs => ⟨fun quiz hquiz => ?_, fun bullet _ quiz hquiz => ?_⟩,
    fun hposed block hblock => ?_,
    fun hfilled block hblock s hs => (hfilled block hblock).wellPosed hs⟩
  · obtain ⟨header, content, -, -, hreads⟩ := Block.exists_reads_of_sentence? hs
    rcases List.mem_append.1 hquiz with hquiz | hquiz
    · exact hreads.answerable_of_mem_quizzes hquiz
    · obtain ⟨matching, -, rfl⟩ := List.mem_map.1 hquiz
      trivial
  · exact Sentence.answerable_of_mem_given hquiz
  · obtain ⟨before, after, hcompile⟩ :=
      Graph.exists_compileBlock_of_compileUntil (compileUntil_of_compileText h) hblock
    refine Block.filled_of_wellPosed hcompile fun s hs => ?_
    obtain ⟨hsentence, hgiven⟩ := hposed block hblock s hs
    exact ⟨fun quiz hquiz => hsentence quiz (List.mem_append_left _ hquiz), hgiven⟩

/-- A sentence with a blank that accepts a further value, and an item with a reading. -/
theorem wellPosed_iff_of_compileText_with_reading :
    let source := "# @ 今日は @ hello\n- @furigana \x7b今日\x7d^\x7bきょう\x7dは\n".toList ++
      "- @fill は @ わ\n- @ 今日 @ today".toList
    let compiled := compileText Markdown.headingStarts source
    ∃ g, compiled = .ok g ∧ g.countKind .cloze = 4 ∧
      ∀ id quiz, g.get? id = some quiz → quiz.question.Answerable ∧ quiz.question.WellPosed := by
  intro source compiled
  obtain ⟨g, hg⟩ : ∃ g, compiled = .ok g :=
    exists_eq_ok_of_isSome (by decide +kernel)
  have hcount : compiled.toOption.map (·.countKind .cloze) = some 4 := by
    decide +kernel
  rw [hg] at hcount
  obtain ⟨hanswerable, hposed⟩ := wellPosed_iff_of_compileText hg
  have hfilled : ∀ block ∈ Block.ofSource Markdown.headingStarts source, block.Filled := by
    decide +kernel
  exact ⟨g, hg, Option.some.inj hcount, fun id quiz hquiz =>
    ⟨hanswerable id quiz hquiz, hposed.2 hfilled id quiz hquiz⟩⟩

/-- A separator with nothing behind it makes an empty response, and a card that asks nothing. -/
theorem exists_card_of_empty_value :
    let recognition : Card := .make "私".toList [[]] true false
    let inverted : Card := .make [] ["私".toList] false true
    let compiled := compileText Markdown.headingStarts "# @ 私 @"
    ∃ g, compiled = .ok g ∧
      g.get? (Quiz.card recognition).id = some (.card recognition) ∧
      g.get? (Quiz.card inverted).id = some (.card inverted) ∧
      ¬(Quiz.card recognition).question.WellPosed ∧ ¬(Quiz.card inverted).question.WellPosed := by
  intro recognition inverted compiled
  obtain ⟨g, hg⟩ : ∃ g, compiled = .ok g :=
    exists_eq_ok_of_isSome (by decide +kernel)
  have hnodes : compiled.toOption.map (fun g =>
      (g.get? (Quiz.card recognition).id, g.get? (Quiz.card inverted).id)) =
      some (some (.card recognition), some (.card inverted)) := by
    decide +kernel
  rw [hg] at hnodes
  obtain ⟨hrecognition, hinverted⟩ := Prod.mk.inj (Option.some.inj hnodes)
  exact ⟨g, hg, hrecognition, hinverted, by decide, by decide⟩

end StudyGraph
