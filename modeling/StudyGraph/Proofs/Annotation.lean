import StudyGraph.Proofs.Mention

/-!
# Where annotations end up

Quizzes are mentioned many times while a block is compiled, and every time the newcomer has the last
word. All the same a quiz of the sentence ends with the notes of the sentence : the clozes, the
matching and the first card are mentioned with these alone (`Sentence.Mentions.notes_eq`). The first
card of an item is mentioned by the bullets that have this item, in order, and by the matching in
the same order once more (`Sentence.lastWord_vocabularyParts`, `Sentence.lastWord_matchingSteps`).
So it ends with the last translation, the last reading and the last part of speech that these
bullets give (`Sentence.lastWord_plan`). `Graph.annotations_of_compileBlock` puts this together.
-/

set_option linter.unusedSectionVars false

namespace StudyGraph

/-! ## Notes of the sentence -/

namespace Sentence

variable {s : Sentence} {known : Bool} {bullet : Bullet} {bullets : List Bullet} {quiz : Quiz}
  {header : Line} {content : Text} {bullets' : List Bullet}

/-- A mention of a sentence that asks for something else than its cards, or to recognise it, carries
its notes. -/
theorem Mentions.notes_eq (hs : s.Reads header content bullets') (h : s.Mentions known bullets quiz)
    (hquiz : quiz.kind ≠ .card ∨ quiz.id = s.item.recognition) : quiz.notes = s.notes := by
  have hcards : ∀ card ∈ s.cards.toList, card.notes = s.notes := by
    intro card hcard
    rw [hs.cards_eq, Trio.toList_map] at hcard
    obtain ⟨bare, -, rfl⟩ := List.mem_map.1 hcard
    rfl
  cases h with
  | card hown =>
    obtain ⟨card, hcard, rfl⟩ := List.mem_map.1 hown
    exact hcards card hcard
  | @again _ card _ _ hcard => exact hcards card hcard
  | fill hfill =>
    obtain ⟨bullet, -, -, hcloze⟩ := hfill
    obtain ⟨-, cut, -, rfl⟩ := fillCloze_eq_ok_iff.1 hcloze
    rfl
  | @item v _ hitem hown =>
    obtain ⟨bullet, -, -, hentry⟩ := hitem
    have hv := itemizes_of_entry hentry
    rcases Vocabulary.mem_quizzes_iff.1 hown with
      ⟨card, -, rfl⟩ | ⟨clozes, hclozes, cloze, hcloze, rfl⟩
    · -- A card of the item is not the one to recognise the sentence.
      have hid := hquiz.resolve_left (not_not_intro rfl)
      exact absurd (hv.eq_first hown hs.responses_ne_nil hid).1 hv.item_ne
    · obtain ⟨locator, cut, -, rfl⟩ := hv.clozes_eq clozes hclozes
      rw [Trio.toList_map] at hcloze
      obtain ⟨bare, -, rfl⟩ := List.mem_map.1 hcloze
      rfl
  | @matching m hmatching =>
    simp only [HasMatching, matching?] at hmatching
    split at hmatching
    · cases hmatching
    · obtain rfl := Option.some.inj hmatching
      rfl

end Sentence

/-! ## Notes of an item -/

/-- The reading in the marker `@furigana`, if there is one that can be read. -/
def Fields.lede? (fields : Fields) : Option Furigana :=
  (fields.marker "furigana").bind fun t => (Furigana.parse t).toOption

theorem Sentence.lede?_of_markedFurigana {fields : Fields} {line : Line} {lede : Option Furigana}
    (h : markedFurigana fields line = .ok lede) : fields.lede? = lede := by
  unfold markedFurigana at h
  unfold Fields.lede?
  split at h
  · next hmarker =>
    rw [hmarker]
    exact Except.ok.inj h
  · next t hmarker =>
    rw [hmarker, Option.bind_some, ← toOption_mapError _ fun e => (⟨.badFurigana e, line⟩ : Fault)]
    unfold readFurigana at h
    cases hparse : (Furigana.parse t).mapError fun e => (⟨.badFurigana e, line⟩ : Fault) with
    | error fault => simp [hparse, Except.map] at h
    | ok units =>
      rw [hparse] at h
      exact Except.ok.inj h

/-- The fields of the vocabulary bullets that have an item, in order. -/
def Bullet.saying (bullets : List Bullet) (item : Item) : List Fields :=
  ((bullets.filter (·.kind = .vocabulary)).map fields).filter (·.item = item)

/-- A part of quizzes that a newcomer overrides, and that the first card of an item has from a field
of its bullet. -/
structure Quiz.Tells {α : Type} (part : Quiz → Option α) (field : Fields → Option α) : Prop where
  overrides : Overrides part
  first : ∀ {s : Sentence} {bullet : Bullet} {v : Vocabulary},
    s.entry bullet = .ok (.vocabulary v) → part (.card v.cards.first) = field bullet.fields

namespace Quiz

theorem tells_translation : Tells (fun quiz => quiz.notes.translation) Fields.translation? where
  overrides := overrides_translation
  first hentry := by
    obtain ⟨lede, -, hcards⟩ := Sentence.cards_of_entry hentry
    rw [hcards]
    rfl

theorem tells_lede : Tells (fun quiz => quiz.notes.lede) Fields.lede? where
  overrides := overrides_lede
  first hentry := by
    obtain ⟨lede, hlede, hcards⟩ := Sentence.cards_of_entry hentry
    rw [hcards, Sentence.lede?_of_markedFurigana hlede]
    rfl

theorem tells_partOfSpeech? : Tells partOfSpeech? Sentence.partOfSpeech? where
  overrides := overrides_partOfSpeech?
  first hentry := by
    obtain ⟨lede, -, hcards⟩ := Sentence.cards_of_entry hentry
    rw [hcards]
    rfl

end Quiz

namespace Sentence

variable {α : Type} {part : Quiz → Option α} {field : Fields → Option α} {s : Sentence}
  {known : Bool} {bullet : Bullet} {bullets items : List Bullet} {item : Item} {header : Line}
  {content : Text} {bullets' : List Bullet} {quizzes : List Quiz}

/-- What a vocabulary bullet says of an item. -/
def word (field : Fields → Option α) (item : Item) (bullet : Bullet) : Option α :=
  if bullet.fields.item = item then field bullet.fields else none

theorem word_of_repeats {partOfSpeech : Option (List Text)} (hne : item ≠ s.item)
    (hentry : s.entry bullet = .ok (.repeats partOfSpeech)) : word field item bullet = none := by
  rcases entry_cases hentry with ⟨hrepeats, -⟩ | ⟨v, hv, -⟩
  · exact if_neg fun hsame => hne (hsame.symm.trans hrepeats)
  · cases hv

section Words

variable (hs : s.Reads header content bullets') (hitem : item.responses ≠ []) (hne : item ≠ s.item)

include hs hitem hne

/-- A card of the sentence does not ask to recognise another item, and what is no card does not. -/
theorem not_recognition {quiz : Quiz} (h : quiz ∈ s.quizzes ∨ quiz.kind ≠ .card) :
    quiz.id ≠ item.recognition := by
  intro hid
  rcases h with hcard | hkind
  · have hmem := List.mem_map_of_mem (f := Quiz.id) hcard
    rw [hid, hs.ids_quizzes, Item.recognition_mem_ids_iff hitem hs.responses_ne_nil] at hmem
    exact hne hmem.symm
  · exact hkind (Quiz.kind_eq_of_id_eq (b := .card _) hid)

theorem silentOn_recognition : s.SilentOn part item.recognition :=
  fun _ h hid => absurd hid (not_recognition hs hitem hne h)

variable (htells : Quiz.Tells part field)

include htells

/-- Of an item, the group of a vocabulary bullet has what the bullet says. -/
theorem lastWord_of_group {v : Vocabulary} (hentry : s.entry bullet = .ok (.vocabulary v))
    (h : ∀ quiz ∈ quizzes, quiz ∈ v.quizzes ∨ quiz ∈ s.quizzes ∨ quiz.kind ≠ .card)
    (hfirst : .card v.cards.first ∈ quizzes) :
    Quiz.lastWord part item.recognition quizzes = word field item bullet := by
  have hv := itemizes_of_entry hentry
  have heq : ∀ quiz ∈ quizzes, quiz.id = item.recognition →
      bullet.fields.item = item ∧ quiz = .card v.cards.first := by
    intro quiz hquiz hid
    rcases h quiz hquiz with hown | hother
    · exact hv.eq_first hown hitem hid
    · exact absurd hid (not_recognition hs hitem hne hother)
  by_cases hsame : bullet.fields.item = item
  · rw [word, if_pos hsame, ← htells.first hentry]
    refine Quiz.lastWord_of_forall (fun quiz hquiz hid => ?_) ⟨_, hfirst, ?_⟩
    · rw [(heq quiz hquiz hid).2]
    · rw [hv.id_first, hsame]
  · rw [word, if_neg hsame]
    exact Quiz.lastWord_eq_none_iff.2 fun quiz hquiz hid => absurd (heq quiz hquiz hid).1 hsame

theorem lastWord_entrySteps {entry : Entry} (hentry : s.entry bullet = .ok entry) :
    Quiz.lastWord part item.recognition ((s.entrySteps known entry).flatMap Step.quizzes) =
      word field item bullet := by
  cases entry with
  | vocabulary v =>
    rw [entrySteps, quizzes_vocabularySteps]
    refine lastWord_of_group hs hitem hne htells hentry (fun quiz hquiz => ?_)
      (List.mem_append_left _ v.first_mem_quizzes)
    rcases List.mem_append.1 hquiz with hown | hlink
    · exact Or.inl hown
    · rcases mem_group_iff.1 (Step.mem_group_of_mem_quizzes hlink) with hcard | hown
      · exact Or.inr (Or.inl hcard)
      · exact Or.inl hown
  | «repeats» partOfSpeech =>
    rw [word_of_repeats hne hentry]
    cases partOfSpeech with
    | none => rfl
    | some partOfSpeech =>
      cases known with
      | true => rfl
      | false =>
        refine Quiz.lastWord_eq_none_iff.2 fun quiz hquiz hid => ?_
        obtain ⟨card, hcard, rfl⟩ := mem_quizzes_repeatSteps.1 hquiz
        have hmem : Quiz.card card ∈ s.quizzes := List.mem_map_of_mem hcard
        have hbare : (Quiz.card card).id = item.recognition := hid
        exact absurd hbare (not_recognition hs hitem hne (Or.inl hmem))

/-- Of an item, vocabulary bullets that can be read have what the last of them says. -/
theorem lastWord_vocabularyParts (known : Bool)
    (hentries : ∀ bullet ∈ items, ∃ entry, s.entry bullet = .ok entry) :
    Quiz.lastWord part item.recognition
      (((s.vocabularyParts known items).flatMap Part.stepList).flatMap Step.quizzes) =
        (items.filterMap (word field item)).getLast? := by
  refine lastWord_vocabularyParts_of_entries known fun bullet hbullet => ?_
  obtain ⟨entry, hentry⟩ := hentries bullet hbullet
  exact ⟨entry, hentry, fun _ _ => lastWord_entrySteps hs hitem hne htells hentry⟩

/-- The matching mentions every first card again, in the order of the bullets. -/
theorem lastWord_matchingSteps
    (hentries : ∀ bullet ∈ items, ∃ entry, s.entry bullet = .ok entry) :
    Quiz.lastWord part item.recognition
        ((s.matchingSteps (s.vocabularies items)).flatMap Step.quizzes) =
      if (s.matching? (s.vocabularies items)).isSome then
        (items.filterMap (word field item)).getLast?
      else none := by
  refine lastWord_matchingSteps_of_links (silentOn_recognition hs hitem hne) hentries
    (fun hentry => word_of_repeats hne hentry) fun hentry matching => ?_
  refine lastWord_of_group hs hitem hne htells hentry (fun quiz hquiz => ?_)
    (child_mem_matchingLink (j := 3) (by decide) rfl)
  rcases List.mem_append.1 (Step.mem_group_of_mem_quizzes hquiz) with hgroup | hmatching
  · rcases mem_group_iff.1 hgroup with hcard | hown
    · exact Or.inr (Or.inl hcard)
    · exact Or.inl hown
  · obtain rfl : quiz = .matching matching := by simpa using hmatching
    exact Or.inr (Or.inr nofun)

/-- Of an item that is not the sentence, a plan has what the last of its bullets says that says
anything. -/
theorem lastWord_plan {c : Contribution}
    (hc : Contribution.collect ((s.plan known bullets).map Part.contribution) = .ok c) :
    Quiz.lastWord part item.recognition c.quizzes =
      ((Bullet.saying bullets item).filterMap field).getLast? := by
  have hentries := exists_entry_of_filter (exists_of_collect_plan hc).2
  have hsaying : (Bullet.saying bullets item).filterMap field =
      (bullets.filter (·.kind = .vocabulary)).filterMap (word field item) := by
    simp only [Bullet.saying, List.filterMap_filter, List.filterMap_map, word, decide_eq_true_eq]
    rfl
  rw [lastWord_plan_of_silent (silentOn_recognition hs hitem hne) hc,
    lastWord_vocabularyParts hs hitem hne htells known hentries,
    lastWord_matchingSteps hs hitem hne htells hentries, hsaying]
  split
  · rw [Option.or_self]
  · rw [Option.none_or]

end Words

end Sentence

/-! ## Blocks -/

namespace Sentence

variable {s : Sentence} {known : Bool} {bullet : Bullet} {bullets : List Bullet} {header : Line}
  {content : Text} {bullets' : List Bullet} {c : Contribution}

/-- A quiz of the sentence ends with the notes of the sentence. -/
theorem notes?_of_mentions (hs : s.Reads header content bullets')
    (hc : Contribution.collect ((s.plan known bullets).map Part.contribution) = .ok c) {quiz : Quiz}
    (h : s.Mentions known bullets quiz)
    (hquiz : quiz.kind ≠ .card ∨ quiz.id = s.item.recognition) :
    (Graph.empty.add c).notes? quiz.id = some s.notes := by
  refine Graph.notes?_empty_add (fun other hother hid => ?_)
    ⟨quiz, (mem_quizzes_iff_mentions hc).2 h, rfl⟩
  refine ((mem_quizzes_iff_mentions hc).1 hother).notes_eq hs ?_
  rwa [Quiz.kind_eq_of_id_eq hid, hid]

/-- The first card of an item that is not the sentence ends with the last of what its bullets say.
-/
theorem exists_first_of_entry (hs : s.Reads header content bullets')
    (hc : Contribution.collect ((s.plan known bullets).map Part.contribution) = .ok c)
    {v : Vocabulary} (hbullet : bullet ∈ bullets) (hkind : bullet.kind = .vocabulary)
    (hentry : s.entry bullet = .ok (.vocabulary v)) :
    let said := Bullet.saying bullets bullet.fields.item
    ∃ node, (Graph.empty.add c).get? (Quiz.card v.cards.first).id = some node ∧
      node.notes = ⟨(said.filterMap Fields.translation?).getLast?,
        (said.filterMap Fields.lede?).getLast?⟩ ∧
      node.partOfSpeech? = (said.filterMap partOfSpeech?).getLast? := by
  intro said
  have hv := itemizes_of_entry hentry
  have hmentions : s.Mentions known bullets (.card v.cards.first) :=
    .item ⟨bullet, hbullet, hkind, hentry⟩ v.first_mem_quizzes
  have hmem : (Quiz.card v.cards.first).id ∈ (Graph.empty.add c).nodes.keys :=
    Graph.mem_nodes_add.2 (Or.inr (List.mem_map_of_mem ((mem_quizzes_iff_mentions hc).2 hmentions)))
  obtain ⟨node, hnode, -⟩ := (Graph.keyed_empty.add c).exists_get? hmem
  have hpart {α : Type} {part : Quiz → Option α} {field : Fields → Option α}
      (htells : Quiz.Tells part field) : part node = (said.filterMap field).getLast? := by
    rw [← lastWord_plan hs bullet.fields.responses_item_ne_nil hv.item_ne htells hc, ← hv.id_first,
      ← Graph.bind_get?_empty_add htells.overrides, hnode, Option.bind_some]
  refine ⟨node, hnode, ?_, hpart Quiz.tells_partOfSpeech?⟩
  rw [← hpart Quiz.tells_translation, ← hpart Quiz.tells_lede]

end Sentence

namespace Graph

/-- Annotations end up where the author put them. In the graph of a block that is compiled alone,
the cloze of every blank, the clozes of every item, the matching and the first card of the sentence
carry the notes of the sentence : the translation of the header or else of the first bullet for it,
and the reading of the first bullet for it. The first card of every other item carries, of the
translations, the readings and the parts of speech that its own bullets give, the last. -/
theorem annotations_of_compileBlock {file : Nat} {block : Block} {g : Graph}
    (h : empty.compileBlock file block = .ok g) :
    (block.sentence? = none ∧ g = empty) ∨ ∃ s header content,
      block.sentence? = some (.ok s) ∧ block.header? = some header ∧
      headerContent? header.text = some content ∧
      s.notes.translation = Sentence.translationOf (.ofText content) block.bullets ∧
      Sentence.ledeOf block.bullets = .ok s.notes.lede ∧
      g.notes? (Quiz.card s.cards.first).id = some s.notes ∧
      (∀ m, s.HasMatching block.bullets m → g.notes? (Quiz.matching m).id = some s.notes) ∧
      (∀ bullet ∈ block.bullets, bullet.kind = .fill → ∃ cloze, s.fillCloze bullet = .ok cloze ∧
        g.notes? (Quiz.cloze cloze).id = some s.notes) ∧
      ∀ bullet ∈ block.bullets, bullet.kind = .vocabulary → bullet.fields.item ≠ s.item →
        ∃ v, s.entry bullet = .ok (.vocabulary v) ∧
          (∀ clozes, v.clozes = some clozes → ∀ cloze ∈ clozes.toList,
            g.notes? (Quiz.cloze cloze).id = some s.notes) ∧
          let said := Bullet.saying block.bullets bullet.fields.item
          ∃ node, g.get? (Quiz.card v.cards.first).id = some node ∧
            node.notes = ⟨(said.filterMap Fields.translation?).getLast?,
              (said.filterMap Fields.lede?).getLast?⟩ ∧
            node.partOfSpeech? = (said.filterMap Sentence.partOfSpeech?).getLast? := by
  rcases compileBlock_ok_cases h with hnone | ⟨s, c, hsentence, hc, rfl⟩
  · exact Or.inl hnone
  obtain ⟨header, content, hheader, hcontent, hread⟩ := Block.exists_read_of_sentence? hsentence
  have hs := Sentence.reads_of_read hread
  obtain ⟨hfills, hentries⟩ := Sentence.exists_of_collect_plan hc
  refine Or.inr ⟨s, header, content, hsentence, hheader, hcontent,
    Sentence.translation_of_read hread, hs.ledeOf_eq, ?_, ?_, ?_, ?_⟩
  · exact Sentence.notes?_of_mentions hs hc (.card s.first_mem_quizzes) (Or.inr hs.id_first)
  · intro m hm
    exact Sentence.notes?_of_mentions hs hc (.matching hm) (Or.inl nofun)
  · intro bullet hbullet hkind
    obtain ⟨cloze, hcloze⟩ := hfills bullet hbullet hkind
    exact ⟨cloze, hcloze, Sentence.notes?_of_mentions hs hc
      (.fill ⟨bullet, hbullet, hkind, hcloze⟩) (Or.inl nofun)⟩
  · intro bullet hbullet hkind hitem
    obtain ⟨entry, hentry⟩ := hentries bullet hbullet hkind
    rcases Sentence.entry_cases hentry with ⟨hrepeats, -⟩ | ⟨v, rfl, hv⟩
    · exact absurd hrepeats hitem
    · refine ⟨v, hentry, fun clozes hclozes cloze hcloze => ?_,
        Sentence.exists_first_of_entry hs hc hbullet hkind hentry⟩
      have hown := Vocabulary.mem_quizzes_iff.2 (Or.inr ⟨clozes, hclozes, cloze, hcloze, rfl⟩)
      exact Sentence.notes?_of_mentions hs hc (.item ⟨bullet, hbullet, hkind, hentry⟩ hown)
        (Or.inl nofun)

/-- Two bullets of one item : the second translates it differently, and leaves it the reading and
the part of speech of the first. -/
theorem annotations_of_compileBlock_with_repeated_item :
    let block := Block.ofLines ["# @ ab @ c".toList, "- @translation @en x".toList,
      "- @furigana ab".toList, "- @fill a".toList, "- @ b @ d @furigana e @t-en f @pos n".toList,
      "- @ b @ d @t-en g".toList]
    let notes : Notes := ⟨some (.ofList [("en", "x")]), some [.plain "ab"]⟩
    ∃ g s, empty.compileBlock 0 block = .ok g ∧ block.sentence? = some (.ok s) ∧
      s.notes = notes ∧ g.notes? (Quiz.card s.cards.first).id = some notes ∧
      (∃ m, s.HasMatching block.bullets m ∧ g.notes? (Quiz.matching m).id = some notes) ∧
      ∃ node, g.get? (Item.recognition ⟨"b", ["d"]⟩) = some node ∧
        node.notes = ⟨some (.ofList [("en", "g")]), some [.plain "e"]⟩ ∧
        node.partOfSpeech? = some [("n" : Text)] := by
  intro block notes
  obtain ⟨g, hg⟩ : ∃ g, empty.compileBlock 0 block = .ok g :=
    exists_eq_ok_of_isSome (by decide +kernel)
  have hsentence : block.sentence?.isSome = true := by decide +kernel
  rcases annotations_of_compileBlock hg with
    ⟨hnone, -⟩ | ⟨s, -, -, hs, -, -, -, -, hfirst, hmatching, -, hitems⟩
  · simp [hnone] at hsentence
  have hnotes : s.notes = notes := Block.eq_of_sentence? hs Sentence.notes (by decide +kernel)
  have hitem : s.item = ⟨"ab", ["c"]⟩ := Block.eq_of_sentence? hs Sentence.item (by decide +kernel)
  obtain ⟨m, hm⟩ : ∃ m, s.HasMatching block.bullets m := by
    have hsome : (s.matching? (s.vocabularies
        (block.bullets.filter (·.kind = .vocabulary)))).isSome = true :=
      Block.eq_of_sentence? hs (fun s => (s.matching? (s.vocabularies
        (block.bullets.filter (·.kind = .vocabulary)))).isSome) (by decide +kernel)
    exact Option.isSome_iff_exists.1 hsome
  have hbullet : ∃ bullet ∈ block.bullets, bullet.kind = .vocabulary ∧
      bullet.fields.item = ⟨"b", ["d"]⟩ := by
    decide +kernel
  obtain ⟨bullet, hmem, hkind, hown⟩ := hbullet
  obtain ⟨v, hentry, -, node, hnode, hsaid, hpart⟩ :=
    hitems bullet hmem hkind (by rw [hown, hitem]; decide)
  have hid : (Quiz.card v.cards.first).id = Item.recognition ⟨"b", ["d"]⟩ := by
    rw [(Sentence.itemizes_of_entry hentry).id_first, hown]
  rw [hid] at hnode
  rw [hown] at hsaid hpart
  refine ⟨g, s, hg, hs, hnotes, hnotes ▸ hfirst, ⟨m, hm, hnotes ▸ hmatching m hm⟩, node, hnode,
    hsaid.trans ?_, hpart.trans ?_⟩
  · decide +kernel
  · decide +kernel

end Graph

end StudyGraph
