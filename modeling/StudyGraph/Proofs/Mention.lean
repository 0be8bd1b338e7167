import StudyGraph.Proofs.Edges
import StudyGraph.Proofs.Fault
import StudyGraph.Proofs.LastWord
import StudyGraph.Proofs.Listing

/-!
# What a plan mentions

A quiz settles when a step registers it, and again whenever an edge mentions it (`Step.quizzes`),
and a plan brings its quizzes in this order (`Part.quizzes_of_collect`). They are the cards of the
sentence, the clozes of the fill bullets, the quizzes of the vocabulary items, the matching, and the
cards of the sentence once more with the part of speech that a bullet gives them which repeats the
sentence (`Sentence.Mentions`, `Sentence.mem_quizzes_iff_mentions`). Such bullets are heard if no
part of speech was known, and then the first that has one (`Sentence.repeatedPartOfSpeech?`).
-/

set_option linter.unusedSectionVars false

namespace StudyGraph

/-! ## Steps -/

/-- The quizzes that a step mentions, in the order in which they settle. -/
def Step.quizzes : Step → List Quiz
  | register _ quiz => [quiz]
  | credit parent child => [parent, child]
  | link policy group _ => (policy.links group).flatMap fun l => [l.parent, l.child]

theorem Step.quizzes_of_contribution {step : Step} {c : Contribution}
    (h : step.contribution = .ok c) : c.quizzes = step.quizzes := by
  cases step with
  | register raw quiz =>
    obtain rfl := Except.ok.inj h
    rfl
  | credit parent child =>
    obtain rfl := Except.ok.inj h
    rfl
  | link policy group line =>
    rw [contribution] at h
    split at h
    · obtain rfl := Except.ok.inj h
      rw [Contribution.quizzes_join, List.flatMap_map]
      rfl
    · cases h

theorem Part.quizzes_of_collect {parts : List Part} {c : Contribution}
    (h : Contribution.collect (parts.map Part.contribution) = .ok c) :
    c.quizzes = (parts.flatMap stepList).flatMap Step.quizzes :=
  flatMap_of_collect rfl Contribution.quizzes_append Step.quizzes_of_contribution h

/-- A link mentions quizzes of its group. -/
theorem Step.mem_group_of_mem_quizzes {policy : Matrix} {group : List (Option Quiz)} {line : Line}
    {quiz : Quiz} (h : quiz ∈ (link policy group line).quizzes) : some quiz ∈ group := by
  obtain ⟨l, hl, hquiz⟩ := List.mem_flatMap.1 h
  obtain ⟨hparent, hchild⟩ := Matrix.mem_group_of_mem_links hl
  rcases List.mem_cons.1 hquiz with rfl | hquiz
  · exact hparent
  · obtain rfl := List.mem_singleton.1 hquiz
    exact hchild

/-- A set cell between two quizzes of a group mentions the child. -/
theorem Step.child_mem_quizzes {policy : Matrix} {group : List (Option Quiz)} {line : Line}
    {i j : Nat} {parent child : Quiz} (hcell : policy.get j i = true)
    (hparent : group[i]? = some (some parent)) (hchild : group[j]? = some (some child)) :
    child ∈ (link policy group line).quizzes :=
  List.mem_flatMap.2 ⟨⟨i, j, parent, child⟩,
    Matrix.mem_links_iff.2 ⟨hcell, hparent, hchild⟩, by simp⟩

theorem Step.flatMap_quizzes_map_register (raw : Text) (quizzes : List Quiz) :
    (quizzes.map (register raw)).flatMap Step.quizzes = quizzes := by
  rw [List.flatMap_map]
  exact List.flatMap_singleton' quizzes

namespace Sentence

variable {s : Sentence} {known : Bool} {bullet : Bullet} {bullets items : List Bullet} {quiz : Quiz}

/-! ## Groups -/

theorem first_mem_quizzes (s : Sentence) : .card s.cards.first ∈ s.quizzes := by
  simp [quizzes, Trio.toList, Trio.slots]

theorem mem_quizzes_iff : quiz ∈ s.quizzes ↔ some quiz ∈ s.slots := by
  have hslots : s.slots.filterMap id = s.quizzes := Trio.filterMap_slots _ _
  rw [← hslots]
  simp

theorem mem_group_iff {v : Vocabulary} :
    some quiz ∈ s.group v ↔ quiz ∈ s.quizzes ∨ quiz ∈ v.quizzes := by
  rw [group, List.append_assoc, List.mem_append, ← mem_quizzes_iff, Vocabulary.quizzes,
    List.mem_filterMap]
  simp only [id_eq, exists_eq_right]

/-! ## Bullets that repeat the sentence -/

/-- The part of speech that a bullet gives the sentence, if it repeats the sentence. -/
def repeated? (s : Sentence) (bullet : Bullet) : Option (List Text) :=
  if bullet.fields.item = s.item then partOfSpeech? bullet.fields else none

/-- The first part of speech that vocabulary bullets give the sentence. -/
def repeatedPartOfSpeech? (s : Sentence) (bullets : List Bullet) : Option (List Text) :=
  (bullets.filter (·.kind = .vocabulary)).findSome? s.repeated?

theorem repeated?_of_vocabulary {v : Vocabulary} (h : s.entry bullet = .ok (.vocabulary v)) :
    s.repeated? bullet = none :=
  if_neg (itemizes_of_entry h).item_ne

theorem repeated?_of_repeats {partOfSpeech : Option (List Text)}
    (h : s.entry bullet = .ok (.repeats partOfSpeech)) : s.repeated? bullet = partOfSpeech := by
  rcases outcome_of_entry h with ⟨hitem, hentry⟩ | ⟨v, lede, hentry, -⟩
  · rw [Entry.repeats.inj hentry]
    exact if_pos hitem
  · cases hentry

/-! ## The parts of a plan -/

/-- The header mentions its cards. -/
theorem mem_quizzes_headerSteps :
    quiz ∈ s.headerSteps.flatMap Step.quizzes ↔ quiz ∈ s.quizzes := by
  rw [headerSteps, List.flatMap_append, Step.flatMap_quizzes_map_register, List.mem_append,
    or_iff_left_iff_imp, List.flatMap_cons, List.flatMap_nil, List.append_nil]
  intro h
  have hslot := Step.mem_group_of_mem_quizzes h
  simp only [List.mem_append, Trio.notMem_noSlots, or_false] at hslot
  exact mem_quizzes_iff.2 hslot

/-- A fill bullet mentions its cloze and the cards of the sentence. -/
theorem mem_quizzes_fillPart :
    quiz ∈ (Part.stepList ⟨some bullet, s.fillSteps bullet⟩).flatMap Step.quizzes ↔
      ∃ cloze, s.fillCloze bullet = .ok cloze ∧ (quiz = .cloze cloze ∨ quiz ∈ s.quizzes) := by
  cases hsteps : s.fillSteps bullet with
  | error fault =>
    have hnone : ∀ cloze, s.fillCloze bullet ≠ .ok cloze := by
      intro cloze hcloze
      rw [fillSteps_eq_ok_iff.2 ⟨cloze, hcloze, rfl⟩] at hsteps
      cases hsteps
    simp [Part.stepList, Except.toOption, hnone]
  | ok steps =>
    obtain ⟨cloze, hcloze, rfl⟩ := fillSteps_eq_ok_iff.1 hsteps
    have hstepList (steps : List Step) : Part.stepList ⟨some bullet, .ok steps⟩ = steps := rfl
    simp only [hstepList, hcloze, Except.ok.injEq, exists_eq_left', List.flatMap_cons,
      List.flatMap_assoc, List.flatMap_nil, List.mem_append, List.mem_flatMap, Step.quizzes,
      List.mem_cons, List.not_mem_nil, or_false]
    constructor
    · rintro (rfl | ⟨card, hcard, (rfl | rfl) | rfl | rfl⟩)
      · exact Or.inl rfl
      · exact Or.inr hcard
      · exact Or.inl rfl
      · exact Or.inl rfl
      · exact Or.inr hcard
    · rintro (rfl | hquiz)
      · exact Or.inl rfl
      · exact Or.inr ⟨quiz, hquiz, Or.inl (Or.inl rfl)⟩

/-- A vocabulary item mentions its quizzes, and then some of its group. -/
theorem quizzes_vocabularySteps (s : Sentence) (v : Vocabulary) :
    (s.vocabularySteps v).flatMap Step.quizzes =
      v.quizzes ++ (Step.link sentencePolicy (s.group v) v.bullet.line).quizzes := by
  rw [vocabularySteps_eq, List.flatMap_append, Step.flatMap_quizzes_map_register,
    List.flatMap_singleton]

theorem mem_quizzes_vocabularySteps {v : Vocabulary} :
    quiz ∈ s.quizzes ∨ quiz ∈ (s.vocabularySteps v).flatMap Step.quizzes ↔
      quiz ∈ s.quizzes ∨ quiz ∈ v.quizzes := by
  rw [quizzes_vocabularySteps, List.mem_append]
  constructor
  · rintro (hquiz | hquiz | hquiz)
    · exact Or.inl hquiz
    · exact Or.inr hquiz
    · exact mem_group_iff.1 (Step.mem_group_of_mem_quizzes hquiz)
  · rintro (hquiz | hquiz)
    · exact Or.inl hquiz
    · exact Or.inr (Or.inl hquiz)

theorem mem_quizzes_repeatSteps {partOfSpeech : List Text} :
    quiz ∈ (s.repeatSteps partOfSpeech).flatMap Step.quizzes ↔
      ∃ card ∈ s.cards.toList, quiz = .card { card with partOfSpeech := some partOfSpeech } := by
  simp only [repeatSteps, List.flatMap_map, List.mem_flatMap, Step.quizzes, List.mem_singleton]

/-- Vocabulary bullets that can be read mention the quizzes of their items, and cards of the
sentence, with the first part of speech that they give it unless one is known. -/
theorem mem_quizzes_vocabularyParts : ∀ (known : Bool) {items : List Bullet},
    (∀ bullet ∈ items, ∃ entry, s.entry bullet = .ok entry) →
    (quiz ∈ s.quizzes ∨
      quiz ∈ ((s.vocabularyParts known items).flatMap Part.stepList).flatMap Step.quizzes ↔
    quiz ∈ s.quizzes ∨
      (∃ bullet ∈ items, ∃ v, s.entry bullet = .ok (.vocabulary v) ∧ quiz ∈ v.quizzes) ∨
      known = false ∧ ∃ partOfSpeech, items.findSome? s.repeated? = some partOfSpeech ∧
        ∃ card ∈ s.cards.toList, quiz = .card { card with partOfSpeech := some partOfSpeech })
  | _, [], _ => by simp [vocabularyParts]
  | known, bullet :: items, h => by
    obtain ⟨⟨entry, hentry⟩, hitems⟩ := List.forall_mem_cons.1 h
    have hstepList : Part.stepList ⟨some bullet, .ok (s.entrySteps known entry)⟩ =
        s.entrySteps known entry := rfl
    rw [vocabularyParts, hentry]
    simp only [List.flatMap_cons, List.flatMap_append, List.mem_append, hstepList,
      List.findSome?_cons, List.exists_mem_cons_iff]
    cases entry with
    | vocabulary v =>
      have hrest := mem_quizzes_vocabularyParts known hitems
      simp only [entrySteps, Entry.givesPartOfSpeech, Bool.or_false, repeated?_of_vocabulary hentry,
        hentry, Except.ok.injEq, Entry.vocabulary.injEq, exists_eq_left']
      rw [or_or_distrib_left, mem_quizzes_vocabularySteps, hrest, ← or_or_distrib_left, or_assoc]
    | «repeats» partOfSpeech =>
      simp only [repeated?_of_repeats hentry, hentry, Except.ok.injEq, reduceCtorEq, false_and,
        exists_false, false_or]
      cases partOfSpeech with
      | none =>
        have hrest := mem_quizzes_vocabularyParts known hitems
        simpa [entrySteps, Entry.givesPartOfSpeech] using hrest
      | some partOfSpeech =>
        have hrest := mem_quizzes_vocabularyParts true hitems
        cases known with
        | true => simpa [entrySteps, Entry.givesPartOfSpeech] using hrest
        | false =>
          simp only [reduceCtorEq, false_and, or_false] at hrest
          simp only [entrySteps, Entry.givesPartOfSpeech, Option.isSome_some, Bool.or_true,
            Bool.false_eq_true, if_false, Option.some.injEq, exists_eq_left', true_and]
          rw [or_or_distrib_left, mem_quizzes_repeatSteps, hrest, ← or_or_distrib_left,
            or_comm (a := ∃ card ∈ s.cards.toList, _)]

/-- The fill bullets mention their clozes, and cards of the sentence. -/
theorem mem_quizzes_fillParts :
    quiz ∈ s.quizzes ∨ quiz ∈ ((bullets.filter (·.kind = .fill)).flatMap fun bullet =>
      Part.stepList ⟨some bullet, s.fillSteps bullet⟩).flatMap Step.quizzes ↔
    quiz ∈ s.quizzes ∨ ∃ cloze, s.HasFill bullets cloze ∧ quiz = .cloze cloze := by
  rw [List.flatMap_assoc, List.mem_flatMap]
  simp only [mem_quizzes_fillPart, HasFill, List.mem_filter, decide_eq_true_eq]
  constructor
  · rintro (hcard | ⟨bullet, ⟨hbullet, hkind⟩, cloze, hcloze, rfl | hcard⟩)
    · exact Or.inl hcard
    · exact Or.inr ⟨cloze, ⟨bullet, hbullet, hkind, hcloze⟩, rfl⟩
    · exact Or.inl hcard
  · rintro (hcard | ⟨cloze, ⟨bullet, hbullet, hkind, hcloze⟩, rfl⟩)
    · exact Or.inl hcard
    · exact Or.inr ⟨bullet, ⟨hbullet, hkind⟩, cloze, hcloze, Or.inl rfl⟩

theorem exists_entry_of_filter
    (h : ∀ bullet ∈ bullets, bullet.kind = .vocabulary → ∃ entry, s.entry bullet = .ok entry) :
    ∀ bullet ∈ bullets.filter (·.kind = .vocabulary), ∃ entry, s.entry bullet = .ok entry := by
  intro bullet hbullet
  obtain ⟨hmem, hkind⟩ := List.mem_filter.1 hbullet
  exact h bullet hmem (by simpa using hkind)

/-- The matching mentions itself, and quizzes of the groups. -/
theorem mem_quizzes_matchingSteps :
    (quiz ∈ s.quizzes ∨ ∃ v, s.HasItem bullets v ∧ quiz ∈ v.quizzes) ∨
      quiz ∈ (s.matchingSteps (s.vocabularies (bullets.filter (·.kind = .vocabulary)))).flatMap
        Step.quizzes ↔
    (quiz ∈ s.quizzes ∨ ∃ v, s.HasItem bullets v ∧ quiz ∈ v.quizzes) ∨
      ∃ m, s.HasMatching bullets m ∧ quiz = .matching m := by
  unfold matchingSteps HasMatching
  cases s.matching? (s.vocabularies (bullets.filter (·.kind = .vocabulary))) with
  | none => simp
  | some m =>
    simp only [List.flatMap_cons, List.flatMap_map, Step.quizzes, List.singleton_append,
      List.mem_cons, Option.some.injEq, exists_eq_left']
    constructor
    · rintro (hquiz | rfl | hlink)
      · exact Or.inl hquiz
      · exact Or.inr rfl
      · obtain ⟨v, hv, hquiz⟩ := List.mem_flatMap.1 hlink
        have hstep : quiz ∈ (Step.link matchingPolicy (s.group v ++ [some (.matching m)])
            s.header).quizzes := hquiz
        rcases List.mem_append.1 (Step.mem_group_of_mem_quizzes hstep) with hgroup | hmatching
        · rcases mem_group_iff.1 hgroup with hcard | hown
          · exact Or.inl (Or.inl hcard)
          · exact Or.inl (Or.inr ⟨v, mem_vocabularies_iff.1 hv, hown⟩)
        · exact Or.inr (by simpa using hmatching)
    · rintro (hquiz | rfl)
      · exact Or.inl hquiz
      · exact Or.inr (Or.inl rfl)

/-! ## Plans -/

/-- The quizzes that a sentence with these bullets mentions. -/
inductive Mentions (s : Sentence) (known : Bool) (bullets : List Bullet) : Quiz → Prop where
  /-- The cards of the sentence. -/
  | card {quiz : Quiz} : quiz ∈ s.quizzes → Mentions s known bullets quiz
  /-- The cards once more, with the part of speech that they are given if none is known. -/
  | again {partOfSpeech : List Text} {card : Card} : known = false →
    s.repeatedPartOfSpeech? bullets = some partOfSpeech → card ∈ s.cards.toList →
    Mentions s known bullets (.card { card with partOfSpeech := some partOfSpeech })
  /-- The clozes of the fill bullets. -/
  | fill {cloze : Cloze} : s.HasFill bullets cloze → Mentions s known bullets (.cloze cloze)
  /-- The quizzes of the vocabulary items. -/
  | item {v : Vocabulary} {quiz : Quiz} : s.HasItem bullets v → quiz ∈ v.quizzes →
    Mentions s known bullets quiz
  /-- The matching. -/
  | matching {m : Matching} : s.HasMatching bullets m → Mentions s known bullets (.matching m)

/-- A plan whose vocabulary bullets can be read mentions what its sentence mentions. -/
theorem mem_quizzes_plan_iff
    (hentries : ∀ bullet ∈ bullets, bullet.kind = .vocabulary →
      ∃ entry, s.entry bullet = .ok entry) :
    quiz ∈ ((s.plan known bullets).flatMap Part.stepList).flatMap Step.quizzes ↔
      s.Mentions known bullets quiz := by
  have hitems : (∃ bullet ∈ bullets.filter (·.kind = .vocabulary), ∃ v,
      s.entry bullet = .ok (.vocabulary v) ∧ quiz ∈ v.quizzes) ↔
      ∃ v, s.HasItem bullets v ∧ quiz ∈ v.quizzes := by
    simp only [HasItem, List.mem_filter, decide_eq_true_eq]
    constructor
    · rintro ⟨bullet, ⟨hbullet, hkind⟩, v, hv, hquiz⟩
      exact ⟨v, ⟨bullet, hbullet, hkind, hv⟩, hquiz⟩
    · rintro ⟨v, ⟨bullet, hbullet, hkind, hv⟩, hquiz⟩
      exact ⟨bullet, ⟨hbullet, hkind⟩, v, hv, hquiz⟩
  -- Each part mentions something of its own beside what the parts in front of it mention.
  rw [flatMap_stepList_plan, List.flatMap_append, List.flatMap_append, List.flatMap_append,
    List.mem_append, List.mem_append, List.mem_append, mem_quizzes_headerSteps,
    mem_quizzes_fillParts, or_right_comm (a := quiz ∈ s.quizzes),
    mem_quizzes_vocabularyParts known (exists_entry_of_filter hentries), hitems, ← or_assoc,
    or_right_comm (c := quiz ∈ List.flatMap _ (s.matchingSteps _)),
    or_right_comm (c := quiz ∈ List.flatMap _ (s.matchingSteps _)), mem_quizzes_matchingSteps]
  constructor
  · rintro ((((hcard | ⟨v, hv, hquiz⟩) | ⟨m, hm, rfl⟩) |
      ⟨hknown, partOfSpeech, hrepeated, card, hcard, rfl⟩) | ⟨cloze, hcloze, rfl⟩)
    · exact .card hcard
    · exact .item hv hquiz
    · exact .matching hm
    · exact .again hknown hrepeated hcard
    · exact .fill hcloze
  · intro h
    cases h with
    | card hcard => exact Or.inl (Or.inl (Or.inl (Or.inl hcard)))
    | again hknown hrepeated hcard => exact Or.inl (Or.inr ⟨hknown, _, hrepeated, _, hcard, rfl⟩)
    | fill hcloze => exact Or.inr ⟨_, hcloze, rfl⟩
    | item hv hquiz => exact Or.inl (Or.inl (Or.inl (Or.inr ⟨_, hv, hquiz⟩)))
    | matching hm => exact Or.inl (Or.inl (Or.inr ⟨_, hm, rfl⟩))

/-- The bullets of a plan that is carried out can be read. -/
theorem exists_of_collect_plan {c : Contribution}
    (hc : Contribution.collect ((s.plan known bullets).map Part.contribution) = .ok c) :
    (∀ bullet ∈ bullets, bullet.kind = .fill → ∃ cloze, s.fillCloze bullet = .ok cloze) ∧
    ∀ bullet ∈ bullets, bullet.kind = .vocabulary → ∃ entry, s.entry bullet = .ok entry := by
  have hfault := fault_plan (s := s) known bullets
  rw [hc, Fault.of?_ok, eq_comm, List.head?_eq_none_iff, List.filterMap_eq_nil_iff] at hfault
  refine ⟨fun bullet hbullet hkind => ?_, fun bullet hbullet hkind => ?_⟩
  · have hnone := hfault bullet (by simp [hbullet, hkind])
    rw [← fault_fillSteps hkind] at hnone
    cases hsteps : s.fillSteps bullet with
    | error fault => simp [hsteps] at hnone
    | ok steps =>
      obtain ⟨cloze, hcloze, -⟩ := fillSteps_eq_ok_iff.1 hsteps
      exact ⟨cloze, hcloze⟩
  · have hnone := hfault bullet (by simp [hbullet, hkind])
    rw [← fault_entry hkind] at hnone
    cases hentry : s.entry bullet with
    | error fault => simp [hentry] at hnone
    | ok entry => exact ⟨entry, rfl⟩

/-- What a plan brings is what its sentence mentions. -/
theorem mem_quizzes_iff_mentions {c : Contribution}
    (hc : Contribution.collect ((s.plan known bullets).map Part.contribution) = .ok c) :
    quiz ∈ c.quizzes ↔ s.Mentions known bullets quiz := by
  rw [Part.quizzes_of_collect hc]
  exact mem_quizzes_plan_iff (exists_of_collect_plan hc).2

/-! ## The last word of a plan -/

section LastWords

variable {α : Type} {part : Quiz → Option α} {id : QuizId} {word : Bullet → Option α}

/-- The cards of the sentence, and all that is no card, say nothing of a quiz. -/
def SilentOn (s : Sentence) (part : Quiz → Option α) (id : QuizId) : Prop :=
  ∀ quiz, quiz ∈ s.quizzes ∨ quiz.kind ≠ .card → quiz.id = id → part quiz = none

theorem SilentOn.lastWord_eq_none (hsilent : s.SilentOn part id) {quizzes : List Quiz}
    (h : ∀ quiz ∈ quizzes, quiz ∈ s.quizzes ∨ quiz.kind ≠ .card) :
    Quiz.lastWord part id quizzes = none :=
  Quiz.lastWord_eq_none_iff.2 fun quiz hquiz => hsilent quiz (h quiz hquiz)

/-- Vocabulary bullets have the last of the words of their entries. -/
theorem lastWord_vocabularyParts_of_entries : ∀ (known : Bool) {items : List Bullet},
    (∀ bullet ∈ items, ∃ entry, s.entry bullet = .ok entry ∧ ∀ known' : Bool, (known → known') →
      Quiz.lastWord part id ((s.entrySteps known' entry).flatMap Step.quizzes) = word bullet) →
    Quiz.lastWord part id
      (((s.vocabularyParts known items).flatMap Part.stepList).flatMap Step.quizzes) =
        (items.filterMap word).getLast?
  | _, [], _ => rfl
  | known, bullet :: items, h => by
    obtain ⟨⟨entry, hentry, hword⟩, hitems⟩ := List.forall_mem_cons.1 h
    have hstepList : Part.stepList ⟨some bullet, .ok (s.entrySteps known entry)⟩ =
        s.entrySteps known entry := rfl
    have hrest := lastWord_vocabularyParts_of_entries (known || entry.givesPartOfSpeech)
      fun bullet hbullet => by
        obtain ⟨entry, hentry, hword⟩ := hitems bullet hbullet
        exact ⟨entry, hentry, fun known' hknown => hword known' fun h => hknown (by simp [h])⟩
    rw [vocabularyParts, hentry]
    simp only [List.flatMap_cons, List.flatMap_append, hstepList]
    rw [Quiz.lastWord_append, Quiz.getLast?_filterMap_cons, hrest, hword known fun h => h]

/-- The slot of the matching. -/
theorem getElem?_matching (s : Sentence) (v : Vocabulary) (m : Matching) :
    (s.group v ++ [some (.matching m)])[9]? = some (some (.matching m)) := by
  rw [List.getElem?_append_right (by simp [length_group, sentenceSlots]), length_group]
  rfl

/-- What the matching credits is mentioned with it. -/
theorem child_mem_matchingLink {v : Vocabulary} {m : Matching} {line : Line} {j : Nat}
    (hcell : matchingPolicy.get j 9 = true)
    (hquiz : (s.group v ++ [some (.matching m)])[j]? = some (some quiz)) :
    quiz ∈ (Step.link matchingPolicy (s.group v ++ [some (.matching m)]) line).quizzes :=
  Step.child_mem_quizzes hcell (s.getElem?_matching v m) hquiz

/-- If there is a matching, it mentions the groups again in the order of the bullets. -/
theorem lastWord_matchingSteps_of_links
    (hsilent : s.SilentOn part id)
    (hentries : ∀ bullet ∈ items, ∃ entry, s.entry bullet = .ok entry)
    (hrepeats : ∀ {bullet partOfSpeech}, s.entry bullet = .ok (.repeats partOfSpeech) →
      word bullet = none)
    (hlink : ∀ {bullet v}, s.entry bullet = .ok (.vocabulary v) → ∀ m, Quiz.lastWord part id
      (Step.link matchingPolicy (s.group v ++ [some (.matching m)]) s.header).quizzes =
        word bullet) :
    Quiz.lastWord part id ((s.matchingSteps (s.vocabularies items)).flatMap Step.quizzes) =
      if (s.matching? (s.vocabularies items)).isSome then (items.filterMap word).getLast?
      else none := by
  unfold matchingSteps
  cases s.matching? (s.vocabularies items) with
  | none => rfl
  | some m =>
    have hregister : Quiz.lastWord part id
        (Step.register s.header.text (.matching m)).quizzes = none := by
      refine hsilent.lastWord_eq_none fun quiz hquiz => Or.inr ?_
      obtain rfl := List.mem_singleton.1 hquiz
      exact nofun
    rw [Option.isSome_some, if_pos rfl, List.flatMap_cons, Quiz.lastWord_append, hregister,
      Option.or_none, List.flatMap_map, Quiz.lastWord_flatMap, vocabularies,
      List.filterMap_filterMap]
    congr 1
    refine List.filterMap_congr fun bullet hbullet => ?_
    obtain ⟨entry, hentry⟩ := hentries bullet hbullet
    rw [hentry]
    cases entry with
    | «repeats» partOfSpeech => exact (hrepeats hentry).symm
    | vocabulary v => exact hlink hentry m

/-- A plan has the last word of the matching and its groups, or else of the vocabulary bullets. -/
theorem lastWord_plan_of_silent (hsilent : s.SilentOn part id) {c : Contribution}
    (hc : Contribution.collect ((s.plan known bullets).map Part.contribution) = .ok c) :
    let items := bullets.filter (·.kind = .vocabulary)
    Quiz.lastWord part id c.quizzes =
      (Quiz.lastWord part id
        ((s.matchingSteps (s.vocabularies items)).flatMap Step.quizzes)).or
      (Quiz.lastWord part id
        (((s.vocabularyParts known items).flatMap Part.stepList).flatMap Step.quizzes)) := by
  intro items
  have hheader : Quiz.lastWord part id (s.headerSteps.flatMap Step.quizzes) = none :=
    hsilent.lastWord_eq_none fun quiz hquiz => Or.inl (mem_quizzes_headerSteps.1 hquiz)
  have hfills : Quiz.lastWord part id (((bullets.filter (·.kind = .fill)).flatMap
      fun bullet => Part.stepList ⟨some bullet, s.fillSteps bullet⟩).flatMap Step.quizzes) =
      none := by
    refine hsilent.lastWord_eq_none fun quiz hquiz => ?_
    rw [List.flatMap_assoc] at hquiz
    obtain ⟨bullet, -, hquiz⟩ := List.mem_flatMap.1 hquiz
    obtain ⟨cloze, -, rfl | hcard⟩ := mem_quizzes_fillPart.1 hquiz
    · exact Or.inr nofun
    · exact Or.inl hcard
  rw [Part.quizzes_of_collect hc, flatMap_stepList_plan]
  simp only [List.flatMap_append, Quiz.lastWord_append, hheader, hfills, Option.or_none]
  rfl

end LastWords

end Sentence

end StudyGraph
