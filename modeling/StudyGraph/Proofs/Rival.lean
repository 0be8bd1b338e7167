import StudyGraph.Proofs.Mention

/-!
# Cards that are shared with the sentence

A card of the sentence may also be a card of another item : an item that reverses the sentence has
two of its three cards. A vocabulary bullet of such an item is a rival of the card, and gives it its
own part of speech (`Sentence.rival?`). The first card of the sentence has no rivals
(`Sentence.rival?_recognition`).

The vocabulary bullets are heard in order, and among them, if no part of speech is known, the first
that repeats the sentence and has one (`Sentence.lastWord_vocabularyParts_of_known`,
`Sentence.lastWord_vocabularyParts_of_unknown`). Then the matching mentions the groups again : the
cards that show the prompt of an item, but not those that show its responses
(`Sentence.mem_quizzes_matchingLink`, `Sentence.lastWord_matching`). A card of the sentence ends
with the last part of speech that it is given (`Sentence.partOfSpeech?_add_plan`).
-/

set_option linter.unusedSectionVars false

namespace StudyGraph

/-! ## Parts of speech -/

/-- The part of speech of a node. -/
def Graph.partOfSpeech? (g : Graph) (id : QuizId) : Option (List Text) :=
  (g.get? id).bind Quiz.partOfSpeech?

theorem Card.partOfSpeech_of_mem_trio {prompt : Text} {responses : List Text}
    (hne : responses ≠ []) {card : Card} (h : card ∈ (trio prompt responses).toList) :
    card.partOfSpeech = none := by
  rcases cases_of_mem_trio hne h with ⟨passive, rfl⟩ | rfl
  · rfl
  · rfl

namespace Sentence

variable {s : Sentence} {known : Bool} {bullet : Bullet} {bullets items : List Bullet}
  {header : Line} {content : Text} {bullets' : List Bullet} {quiz other : Quiz}
  {partOfSpeech : List Text} {v : Vocabulary}

theorem isKnown_eq (s : Sentence) (g : Graph) :
    s.isKnown g = (g.partOfSpeech? (Quiz.card s.cards.first).id).isSome := by
  unfold isKnown Graph.partOfSpeech?
  cases g.get? (Quiz.card s.cards.first).id with
  | none => rfl
  | some quiz => cases quiz <;> simp [Quiz.partOfSpeech?, Quiz.asCard?]

theorem Reads.partOfSpeech?_eq_none (hs : s.Reads header content bullets') (h : quiz ∈ s.quizzes) :
    quiz.partOfSpeech? = none := by
  obtain ⟨card, hcard, rfl⟩ := List.mem_map.1 h
  rw [hs.cards_eq, Trio.toList_map] at hcard
  obtain ⟨bare, hbare, rfl⟩ := List.mem_map.1 hcard
  have hnone : bare.partOfSpeech = none :=
    Card.partOfSpeech_of_mem_trio hs.responses_ne_nil hbare
  exact hnone

theorem Itemizes.partOfSpeech_eq (hv : s.Itemizes bullet v) {card : Card}
    (h : card ∈ v.cards.toList) : card.partOfSpeech = partOfSpeech? bullet.fields := by
  obtain ⟨notes, hcards⟩ := hv.cards_eq
  rw [hcards, Trio.toList_map] at h
  obtain ⟨bare, -, rfl⟩ := List.mem_map.1 h
  rfl

end Sentence

/-! ## Rivals -/

/-- The identity of the card that shows the prompt of an item, unless the item is trivial. -/
def Item.shown? (item : Item) : Option QuizId :=
  (Card.trio item.prompt item.responses).sides.map fun sides => (Quiz.card sides.1).id

theorem Item.mem_ids_of_shown? {item : Item} {id : QuizId} (h : item.shown? = some id) :
    id ∈ item.ids := by
  obtain ⟨sides, hsides, rfl⟩ := Option.map_eq_some_iff.1 h
  exact List.mem_map.2 ⟨sides.1, by simp [Trio.toList, Trio.slots, hsides], rfl⟩

namespace Sentence

/-- The part of speech that a bullet of another item gives to a card, if the item has this card. -/
def rival? (s : Sentence) (id : QuizId) (bullet : Bullet) : Option (List Text) :=
  if bullet.fields.item ≠ s.item ∧ bullet.fields.item.ids.contains id then
    partOfSpeech? bullet.fields
  else none

/-- What a rival gives to a card once more, if the card shows the prompt of its item. -/
def recalled? (s : Sentence) (id : QuizId) (bullet : Bullet) : Option (List Text) :=
  if bullet.fields.item.shown? = some id then s.rival? id bullet else none

/-- The parts of speech that vocabulary bullets give to a card of other items. -/
def rivals (s : Sentence) (items : List Bullet) (id : QuizId) : List (List Text) :=
  items.filterMap (s.rival? id)

/-- The parts of speech that the matching of vocabulary bullets gives once more to a card of other
items, if there is one. -/
def recalled (s : Sentence) (items : List Bullet) (id : QuizId) : List (List Text) :=
  if (s.matching? (s.vocabularies items)).isSome then items.filterMap (s.recalled? id) else []

/-- The vocabulary bullets behind the first that gives the sentence a part of speech. -/
def behind (s : Sentence) (items : List Bullet) : List Bullet :=
  (items.dropWhile fun bullet => (s.repeated? bullet).isNone).tail

variable {s : Sentence} {known : Bool} {bullet : Bullet} {bullets items : List Bullet}
  {header : Line} {content : Text} {bullets' : List Bullet} {quiz other : Quiz}
  {partOfSpeech : List Text} {v : Vocabulary}

theorem Itemizes.shown?_eq (hv : s.Itemizes bullet v) :
    bullet.fields.item.shown? = v.cards.sides.map fun sides => (Quiz.card sides.1).id := by
  obtain ⟨notes, hcards⟩ := hv.cards_eq
  rw [hcards, Trio.map, Option.map_map]
  rfl

theorem rival?_of_vocabulary (hv : s.Itemizes bullet v) {id : QuizId}
    (hid : id ∈ bullet.fields.item.ids) : s.rival? id bullet = partOfSpeech? bullet.fields :=
  if_pos ⟨hv.item_ne, List.contains_iff_mem.2 hid⟩

theorem rival?_of_repeats {given : Option (List Text)} {id : QuizId}
    (hentry : s.entry bullet = .ok (.repeats given)) : s.rival? id bullet = none := by
  rcases entry_cases hentry with ⟨hrepeats, -⟩ | ⟨v, hv, -⟩
  · exact if_neg fun h => h.1 hrepeats
  · cases hv

theorem recalled?_of_repeats {given : Option (List Text)} {id : QuizId}
    (hentry : s.entry bullet = .ok (.repeats given)) : s.recalled? id bullet = none := by
  rw [recalled?, rival?_of_repeats hentry, ite_self]

/-- The first card of the sentence has no rivals. -/
theorem rival?_recognition (hs : s.Reads header content bullets') (bullet : Bullet) :
    s.rival? s.item.recognition bullet = none := by
  refine if_neg fun ⟨hne, hid⟩ => hne ?_
  exact (Item.recognition_mem_ids_iff hs.responses_ne_nil bullet.fields.responses_item_ne_nil).1
    (List.contains_iff_mem.1 hid)

theorem rivals_recognition (hs : s.Reads header content bullets') (items : List Bullet) :
    s.rivals items s.item.recognition = [] := by
  simp [rivals, rival?_recognition hs]

theorem recalled_recognition (hs : s.Reads header content bullets') (items : List Bullet) :
    s.recalled items s.item.recognition = [] := by
  simp [recalled, recalled?, rival?_recognition hs]

end Sentence

/-! ## Groups of the matching -/

theorem Vocabulary.kind_ne_card_of_mem_clozeSlots {v : Vocabulary} {quiz : Quiz}
    (h : some quiz ∈ v.clozeSlots) : quiz.kind ≠ .card := by
  unfold clozeSlots at h
  split at h
  · exact absurd h Trio.notMem_noSlots
  · obtain ⟨slot, -, hslot⟩ := List.mem_map.1 h
    obtain ⟨cloze, -, rfl⟩ := Option.map_eq_some_iff.1 hslot
    exact nofun

namespace Sentence

variable {s : Sentence} {known : Bool} {bullet : Bullet} {bullets items : List Bullet}
  {header : Line} {content : Text} {bullets' : List Bullet} {quiz other : Quiz}
  {partOfSpeech : List Text} {v : Vocabulary}

/-- The matching neither credits the card that shows the responses of an item nor is credited by
it. -/
theorem get_matchingPolicy_five :
    ∀ k < 10, matchingPolicy.get 5 k = false ∧ matchingPolicy.get k 5 = false := by
  decide

/-- In the other slots of a group of the matching, the cards of the item are the first and the one
that shows the prompt. -/
theorem getElem?_matchingGroup {m : Matching} {k : Nat} (hk : k ≠ 5)
    (h : (s.group v ++ [some (.matching m)])[k]? = some (some quiz)) :
    (quiz ∈ s.quizzes ∨ quiz.kind ≠ .card) ∨ quiz = .card v.cards.first ∨
      ∃ sides, v.cards.sides = some sides ∧ quiz = .card sides.1 := by
  let rest := v.clozeSlots ++ [some (.matching m)]
  have hgroup : s.group v ++ [some (.matching m)] = s.slots ++ some (.card v.cards.first) ::
      v.cards.sides.map (fun sides => .card sides.1) ::
      v.cards.sides.map (fun sides => .card sides.2) :: rest := by
    simp [group, Vocabulary.cardSlots, Trio.slots, rest, Function.comp_def]
  have hthree : s.slots.length = 3 := s.length_slots
  rw [hgroup] at h
  rcases Nat.lt_or_ge k 3 with hlt | hge
  · rw [List.getElem?_append_left (by omega)] at h
    exact Or.inl (Or.inl (mem_quizzes_iff.2 (List.mem_of_getElem? h)))
  · rw [List.getElem?_append_right (by omega), hthree] at h
    obtain rfl | rfl | ⟨k, rfl⟩ : k = 3 ∨ k = 4 ∨ ∃ j, k = j + 6 := by
      rcases Nat.lt_or_ge k 6 with hlt | hsix
      · omega
      · exact Or.inr (Or.inr ⟨k - 6, by omega⟩)
    · obtain rfl : Quiz.card v.cards.first = quiz := by simpa using h
      exact Or.inr (Or.inl rfl)
    · have hmap : v.cards.sides.map (fun sides => Quiz.card sides.1) = some quiz := by
        simpa using h
      obtain ⟨sides, hsides, rfl⟩ := Option.map_eq_some_iff.1 hmap
      exact Or.inr (Or.inr ⟨sides, hsides, rfl⟩)
    · have hrest : some quiz ∈ rest := List.mem_of_getElem? (i := k) h
      rcases List.mem_append.1 hrest with hcloze | hmatching
      · exact Or.inl (Or.inr (Vocabulary.kind_ne_card_of_mem_clozeSlots hcloze))
      · obtain rfl := Option.some.inj (List.mem_singleton.1 hmatching)
        refine Or.inl (Or.inr fun hkind => ?_)
        cases hkind

/-- So a group of the matching mentions no more of the cards of the item. -/
theorem mem_quizzes_matchingLink {m : Matching} {line : Line} (h : quiz ∈
    (Step.link matchingPolicy (s.group v ++ [some (.matching m)]) line).quizzes) :
    (quiz ∈ s.quizzes ∨ quiz.kind ≠ .card) ∨ quiz = .card v.cards.first ∨
      ∃ sides, v.cards.sides = some sides ∧ quiz = .card sides.1 := by
  have hlength : (s.group v ++ [some (Quiz.matching m)]).length = 10 := by
    simp [length_group, sentenceSlots]
  obtain ⟨l, hl, hquiz⟩ := List.mem_flatMap.1 h
  obtain ⟨hcell, hparent, hchild⟩ := Matrix.mem_links_iff.1 hl
  have hparentSlot : l.parentSlot < 10 := hlength ▸ (List.getElem?_eq_some_iff.1 hparent).1
  have hchildSlot : l.childSlot < 10 := hlength ▸ (List.getElem?_eq_some_iff.1 hchild).1
  rcases List.mem_cons.1 hquiz with rfl | hquiz
  · refine getElem?_matchingGroup (fun hfive => ?_) hparent
    rw [hfive, (get_matchingPolicy_five _ hchildSlot).2] at hcell
    cases hcell
  · obtain rfl := List.mem_singleton.1 hquiz
    refine getElem?_matchingGroup (fun hfive => ?_) hchild
    rw [hfive, (get_matchingPolicy_five _ hparentSlot).1] at hcell
    cases hcell

/-! ## What the cards of the sentence are given -/

theorem lastWord_repeatSteps (hquiz : quiz ∈ s.quizzes) (given : List Text) :
    Quiz.lastWord Quiz.partOfSpeech? quiz.id ((s.repeatSteps given).flatMap Step.quizzes) =
      some given := by
  refine Quiz.lastWord_of_forall (fun other hother _ => ?_) ?_
  · obtain ⟨card, -, rfl⟩ := mem_quizzes_repeatSteps.1 hother
    rfl
  · obtain ⟨card, hcard, rfl⟩ := List.mem_map.1 hquiz
    exact ⟨_, mem_quizzes_repeatSteps.2 ⟨card, hcard, rfl⟩, rfl⟩

section Cards

variable (hs : s.Reads header content bullets')

include hs

theorem silentOn_partOfSpeech? (id : QuizId) : s.SilentOn Quiz.partOfSpeech? id := by
  intro quiz hquiz _
  rcases hquiz with hcard | hkind
  · exact hs.partOfSpeech?_eq_none hcard
  · cases quiz with
    | card card => exact absurd rfl hkind
    | cloze cloze => rfl
    | matching m => rfl

/-- A vocabulary item gives a card its part of speech, if it has this card. -/
theorem lastWord_vocabularySteps (hentry : s.entry bullet = .ok (.vocabulary v)) (id : QuizId) :
    Quiz.lastWord Quiz.partOfSpeech? id ((s.vocabularySteps v).flatMap Step.quizzes) =
      s.rival? id bullet := by
  have hv := itemizes_of_entry hentry
  rw [quizzes_vocabularySteps]
  refine Quiz.lastWord_of_said (fun other hother hid => ?_) fun hsome => ?_
  · have hcases : other ∈ s.quizzes ∨ other ∈ v.quizzes := by
      rcases List.mem_append.1 hother with hown | hlink
      · exact Or.inr hown
      · exact mem_group_iff.1 (Step.mem_group_of_mem_quizzes hlink)
    rcases hcases with hcard | hown
    · exact Or.inl (hs.partOfSpeech?_eq_none hcard)
    · rcases Vocabulary.mem_quizzes_iff.1 hown with ⟨card, hcard, rfl⟩ | ⟨-, -, cloze, -, rfl⟩
      · have hmem := hv.id_mem_ids hown rfl
        rw [hid] at hmem
        rw [rival?_of_vocabulary hv hmem]
        exact Or.inr (hv.partOfSpeech_eq hcard)
      · exact Or.inl rfl
  · by_cases hrival : bullet.fields.item ≠ s.item ∧ bullet.fields.item.ids.contains id
    · have hmem : id ∈ bullet.fields.item.ids := List.contains_iff_mem.1 hrival.2
      obtain ⟨card, hcard, hid⟩ := List.mem_map.1 (hv.ids_cards ▸ hmem)
      have hown := Vocabulary.mem_quizzes_iff.2 (Or.inl ⟨card, hcard, rfl⟩)
      rw [rival?_of_vocabulary hv hmem]
      exact ⟨.card card, List.mem_append_left _ hown, hid, hv.partOfSpeech_eq hcard⟩
    · rw [rival?, if_neg hrival] at hsome
      cases hsome

/-- While a part of speech is known, a card has what the last of its rivals gives. -/
theorem lastWord_vocabularyParts_of_known (id : QuizId)
    (hentries : ∀ bullet ∈ items, ∃ entry, s.entry bullet = .ok entry) :
    Quiz.lastWord Quiz.partOfSpeech? id
      (((s.vocabularyParts true items).flatMap Part.stepList).flatMap Step.quizzes) =
        (s.rivals items id).getLast? := by
  refine lastWord_vocabularyParts_of_entries true fun bullet hbullet => ?_
  obtain ⟨entry, hentry⟩ := hentries bullet hbullet
  refine ⟨entry, hentry, fun known' hknown => ?_⟩
  obtain rfl := hknown rfl
  cases entry with
  | vocabulary v => exact lastWord_vocabularySteps hs hentry id
  | «repeats» given =>
    rw [rival?_of_repeats hentry]
    cases given <;> rfl

/-- If none is known, a card of the sentence has what the first bullet gives the sentence that gives
it anything, or else what the last of its rivals behind this bullet gives. -/
theorem lastWord_vocabularyParts_of_unknown (hquiz : quiz ∈ s.quizzes) :
    ∀ {items : List Bullet}, (∀ bullet ∈ items, ∃ entry, s.entry bullet = .ok entry) →
    items.findSome? s.repeated? = some partOfSpeech →
    Quiz.lastWord Quiz.partOfSpeech? quiz.id
      (((s.vocabularyParts false items).flatMap Part.stepList).flatMap Step.quizzes) =
        (s.rivals (s.behind items) quiz.id).getLast?.or (some partOfSpeech)
  | [], _, hrepeated => by cases hrepeated
  | bullet :: items, h, hrepeated => by
    obtain ⟨⟨entry, hentry⟩, hitems⟩ := List.forall_mem_cons.1 h
    have hstepList : Part.stepList ⟨some bullet, .ok (s.entrySteps false entry)⟩ =
        s.entrySteps false entry := rfl
    rw [vocabularyParts, hentry]
    simp only [List.flatMap_cons, List.flatMap_append, hstepList, Bool.false_or,
      Quiz.lastWord_append]
    rw [List.findSome?_cons] at hrepeated
    cases hword : s.repeated? bullet with
    | none =>
      have hgives : entry.givesPartOfSpeech = false := by
        cases entry with
        | vocabulary v => rfl
        | «repeats» given =>
          rw [repeated?_of_repeats hentry] at hword
          rw [hword]
          rfl
      have hbehind : s.behind (bullet :: items) = s.behind items := by
        simp [behind, hword]
      rw [hword] at hrepeated
      rw [hgives, lastWord_vocabularyParts_of_unknown hquiz hitems hrepeated, hbehind,
        Option.or_assoc, Option.some_or]
    | some given =>
      have hbehind : s.behind (bullet :: items) = items := by
        simp [behind, hword]
      rw [hword] at hrepeated
      obtain rfl := Option.some.inj hrepeated
      cases entry with
      | vocabulary v =>
        rw [repeated?_of_vocabulary hentry] at hword
        cases hword
      | «repeats» given' =>
        obtain rfl := (repeated?_of_repeats hentry).symm.trans hword
        rw [hbehind, ← lastWord_vocabularyParts_of_known hs quiz.id hitems]
        exact congrArg₂ Option.or rfl (lastWord_repeatSteps hquiz given)

/-- In a group of the matching, a card of the sentence has what the item gives it, if the card shows
its prompt. -/
theorem lastWord_matchingLink (hquiz : quiz ∈ s.quizzes)
    (hentry : s.entry bullet = .ok (.vocabulary v)) (m : Matching) (line : Line) :
    Quiz.lastWord Quiz.partOfSpeech? quiz.id
      (Step.link matchingPolicy (s.group v ++ [some (.matching m)]) line).quizzes =
        s.recalled? quiz.id bullet := by
  have hv := itemizes_of_entry hentry
  refine Quiz.lastWord_of_said (fun other hother hid => ?_) fun hsome => ?_
  · rcases mem_quizzes_matchingLink hother with hsilent | rfl | ⟨sides, hsides, rfl⟩
    · exact Or.inl (silentOn_partOfSpeech? hs quiz.id other hsilent hid)
    · -- The sentence does not have the first card of another item.
      have hmem := List.mem_map_of_mem (f := Quiz.id) hquiz
      rw [← hid, hv.id_first, hs.ids_quizzes, Item.recognition_mem_ids_iff
        bullet.fields.responses_item_ne_nil hs.responses_ne_nil] at hmem
      exact absurd hmem.symm hv.item_ne
    · have hshown : bullet.fields.item.shown? = some quiz.id := by
        rw [hv.shown?_eq, hsides, ← hid]
        rfl
      rw [recalled?, if_pos hshown, rival?_of_vocabulary hv (Item.mem_ids_of_shown? hshown)]
      exact Or.inr (hv.partOfSpeech_eq (by simp [Trio.toList, Trio.slots, hsides]))
  · by_cases hshown : bullet.fields.item.shown? = some quiz.id
    · rw [recalled?, if_pos hshown, rival?_of_vocabulary hv (Item.mem_ids_of_shown? hshown)]
      rw [hv.shown?_eq] at hshown
      obtain ⟨sides, hsides, hid⟩ := Option.map_eq_some_iff.1 hshown
      have hslot : (s.group v ++ [some (.matching m)])[4]? = some (some (.card sides.1)) := by
        simp [group, slots, Vocabulary.cardSlots, Trio.slots, hsides]
      exact ⟨_, child_mem_matchingLink (by decide) hslot, hid,
        hv.partOfSpeech_eq (by simp [Trio.toList, Trio.slots, hsides])⟩
    · rw [recalled?, if_neg hshown] at hsome
      cases hsome

/-- The matching gives a card of the sentence what the last of the items gives it of which it shows
the prompt. -/
theorem lastWord_matching (hquiz : quiz ∈ s.quizzes)
    (hentries : ∀ bullet ∈ items, ∃ entry, s.entry bullet = .ok entry) :
    Quiz.lastWord Quiz.partOfSpeech? quiz.id
        ((s.matchingSteps (s.vocabularies items)).flatMap Step.quizzes) =
      (s.recalled items quiz.id).getLast? := by
  rw [lastWord_matchingSteps_of_links (silentOn_partOfSpeech? hs quiz.id) hentries
    recalled?_of_repeats fun hentry m => lastWord_matchingLink hs hquiz hentry m s.header, recalled]
  split <;> rfl

/-- A card of the sentence ends with the last that the items give it. If the first card has no part
of speech, and a bullet gives the sentence one, it has this one before. -/
theorem partOfSpeech?_add_plan {g : Graph} (hg : g.Keyed) (hquiz : quiz ∈ s.quizzes)
    {c : Contribution}
    (hc : Contribution.collect ((s.plan known bullets).map Part.contribution) = .ok c) :
    let items := bullets.filter (·.kind = .vocabulary)
    (known = true → (g.add c).partOfSpeech? quiz.id =
      (s.rivals items quiz.id ++ s.recalled items quiz.id).getLast?.or (g.partOfSpeech? quiz.id)) ∧
    ∀ partOfSpeech, known = false → s.repeatedPartOfSpeech? bullets = some partOfSpeech →
      (g.add c).partOfSpeech? quiz.id =
        (s.rivals (s.behind items) quiz.id ++ s.recalled items quiz.id).getLast?.or
          (some partOfSpeech) := by
  intro items
  have hentries := exists_entry_of_filter (exists_of_collect_plan hc).2
  have hadd : (g.add c).partOfSpeech? quiz.id =
      (Quiz.lastWord Quiz.partOfSpeech? quiz.id c.quizzes).or (g.partOfSpeech? quiz.id) :=
    Graph.bind_get?_add Quiz.overrides_partOfSpeech? hg c quiz.id
  rw [hadd, lastWord_plan_of_silent (silentOn_partOfSpeech? hs quiz.id) hc,
    lastWord_matching hs hquiz hentries]
  simp only [List.getLast?_append]
  constructor
  · rintro rfl
    rw [lastWord_vocabularyParts_of_known hs quiz.id hentries]
  · rintro partOfSpeech rfl hrepeated
    rw [lastWord_vocabularyParts_of_unknown hs hquiz hentries hrepeated, Option.or_assoc,
      Option.or_assoc, Option.or_assoc, Option.some_or]

end Cards

end Sentence

end StudyGraph
