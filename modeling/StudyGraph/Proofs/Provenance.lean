import StudyGraph.Proofs.Mention

/-!
# Where the quizzes of a block come from

A block that is compiled alone has the raw texts that its sentence lists, with the same identities
in the same order (`Sentence.rawIds?_add_plan`). Under the header they are the cards and the
matching, under a bullet what the bullet gives, and there are no others. Every quiz that the
sentence mentions, be it in a link, is listed by it (`Sentence.Mentions.lists`), so no node is
without a raw text. `Graph.rawIds?_of_compileBlock` puts this together.
-/

set_option linter.unusedSectionVars false

namespace StudyGraph

/-! ## Every quiz is listed -/

namespace Sentence

variable {s : Sentence} {bullet : Bullet} {bullets : List Bullet}

/-- The sentence lists an identity under some raw text. -/
def Lists (s : Sentence) (bullets : List Bullet) (id : QuizId) : Prop :=
  ∃ raw, (raw, id) ∈ s.listings bullets

theorem lists_of_mem_header {quiz : Quiz} (h : quiz ∈ s.quizzes ++ s.matchings bullets) :
    s.Lists bullets quiz.id :=
  ⟨s.header.text, mem_listings.2 (Or.inl ⟨rfl, quiz, h, rfl⟩)⟩

theorem lists_of_mem_quizzes {quiz : Quiz} (h : quiz ∈ s.quizzes) : s.Lists bullets quiz.id :=
  lists_of_mem_header (List.mem_append_left _ h)

theorem lists_of_mem_given {quiz : Quiz} (hbullet : bullet ∈ bullets) (h : quiz ∈ s.given bullet) :
    s.Lists bullets quiz.id :=
  ⟨s.raw bullet, mem_listings.2 (Or.inr ⟨bullet, hbullet, rfl, quiz, h, rfl⟩)⟩

/-- Every quiz that a sentence mentions is listed. -/
theorem Mentions.lists {known : Bool} {quiz : Quiz} (h : s.Mentions known bullets quiz) :
    s.Lists bullets quiz.id := by
  cases h with
  | card hcard => exact lists_of_mem_quizzes hcard
  | @again partOfSpeech card _ _ hcard =>
    have hown : Quiz.card card ∈ s.quizzes := List.mem_map_of_mem hcard
    have hlists : s.Lists bullets (Quiz.card card).id := lists_of_mem_quizzes hown
    exact hlists
  | fill hfill =>
    obtain ⟨bullet, hbullet, hkind, hcloze⟩ := hfill
    refine lists_of_mem_given hbullet ?_
    rw [given_of_fillCloze hkind hcloze]
    exact List.mem_singleton.2 rfl
  | item hitem hquiz =>
    obtain ⟨bullet, hbullet, hkind, hentry⟩ := hitem
    refine lists_of_mem_given hbullet ?_
    rw [given_of_vocabulary hkind hentry]
    exact hquiz
  | @matching m hmatching =>
    refine lists_of_mem_header (List.mem_append_right _ ?_)
    rw [HasMatching] at hmatching
    simp [matchings, hmatching]

end Sentence

/-! ## What a block lists -/

namespace Sentence

open OrderedMap (arrivalsAt)

variable {s : Sentence} {known : Bool} {bullets : List Bullet} {c : Contribution}

/-- What a plan brings under raw texts is what the sentence lists. -/
theorem brings_raws_plan
    (hc : Contribution.collect ((s.plan known bullets).map Part.contribution) = .ok c)
    {raw : Text} {id : QuizId} :
    OrderedMap.Brings c.raws raw id ↔ (raw, id) ∈ s.listings bullets := by
  rw [Part.raws_of_collect hc, OrderedMap.brings_singles, ← OrderedMap.mem_arrivalsAt,
    ← OrderedSet.mem_ofList, ofList_arrivalsAt_plan, OrderedSet.mem_ofList,
    OrderedMap.mem_arrivalsAt]

/-- A plan that is carried out alone lists what the sentence lists. -/
theorem rawIds?_add_plan
    (hc : Contribution.collect ((s.plan known bullets).map Part.contribution) = .ok c)
    (raw : Text) :
    (Graph.empty.add c).rawIds? raw =
      (OrderedSet.ofList (arrivalsAt raw (s.listings bullets))).members? := by
  rw [Graph.rawIds?, Graph.add, Part.raws_of_collect hc]
  exact (OrderedMap.members?_blendAll_singles _ raw).trans
    (congrArg OrderedSet.members? (ofList_arrivalsAt_plan known bullets raw))

theorem Reads.nodup_header {header : Line} {content : Text} {bullets' : List Bullet}
    (hs : s.Reads header content bullets') (bullets : List Bullet) :
    ((s.quizzes ++ s.matchings bullets).map Quiz.id).Nodup := by
  rw [List.map_append]
  refine List.nodup_append.2 ⟨hs.nodup_quizzes, ?_, ?_⟩
  · unfold matchings
    cases s.matching? (s.vocabularies (bullets.filter (·.kind = .vocabulary))) <;> simp
  · intro id hid id' hid' heq
    obtain ⟨quiz, hquiz, rfl⟩ := List.mem_map.1 hid
    obtain ⟨quiz', hquiz', rfl⟩ := List.mem_map.1 hid'
    obtain ⟨card, -, rfl⟩ := List.mem_map.1 hquiz
    obtain ⟨matching, -, rfl⟩ := List.mem_map.1 hquiz'
    cases Quiz.kind_eq_of_id_eq heq

theorem quizzes_ne_nil (s : Sentence) : s.quizzes ≠ [] := by
  simp [quizzes, Trio.toList, Trio.slots]

theorem rawIds?_add_plan_header {header : Line} {content : Text} {bullets' : List Bullet}
    (hs : s.Reads header content bullets')
    (hc : Contribution.collect ((s.plan known bullets).map Part.contribution) = .ok c) :
    (Graph.empty.add c).rawIds? s.header.text =
      some ((s.quizzes ++ s.matchings bullets).map Quiz.id) := by
  have hne : (s.quizzes ++ s.matchings bullets).map Quiz.id ≠ [] := by simp [s.quizzes_ne_nil]
  rw [rawIds?_add_plan hc, arrivalsAt_header,
    OrderedSet.members?_ofList_of_nodup (hs.nodup_header bullets), if_neg hne]

theorem rawIds?_add_plan_raw {lines : List Line}
    (hc : Contribution.collect ((s.plan known (Bullet.run lines)).map Part.contribution) = .ok c)
    {bullet : Bullet} (h : bullet ∈ Bullet.run lines) :
    (Graph.empty.add c).rawIds? (s.raw bullet) =
      if s.given bullet = [] then none else some ((s.given bullet).map Quiz.id) := by
  rw [rawIds?_add_plan hc, ofList_arrivalsAt_raw h,
    OrderedSet.members?_ofList_of_nodup (s.nodup_given bullet)]
  simp only [List.map_eq_nil_iff]

/-- There are no further raw texts. -/
theorem eq_raw_of_rawIds?_add_plan
    (hc : Contribution.collect ((s.plan known bullets).map Part.contribution) = .ok c)
    {raw : Text} {ids : List QuizId} (h : (Graph.empty.add c).rawIds? raw = some ids) :
    raw = s.header.text ∨ ∃ bullet ∈ bullets, raw = s.raw bullet := by
  rw [rawIds?_add_plan hc] at h
  obtain ⟨id, hid⟩ := OrderedSet.exists_mem_of_members? h
  rw [OrderedSet.mem_ofList, OrderedMap.mem_arrivalsAt, mem_listings] at hid
  rcases hid with ⟨hheader, -⟩ | ⟨bullet, hbullet, hraw, -⟩
  · exact Or.inl hheader
  · exact Or.inr ⟨bullet, hbullet, hraw⟩

/-- No node is without a raw text. -/
theorem exists_rawIds?_add_plan
    (hc : Contribution.collect ((s.plan known bullets).map Part.contribution) = .ok c)
    {id : QuizId} (h : id ∈ (Graph.empty.add c).nodes.keys) :
    ∃ raw ids, (Graph.empty.add c).rawIds? raw = some ids ∧ id ∈ ids := by
  rcases Graph.mem_nodes_add.1 h with h | h
  · cases h
  · obtain ⟨quiz, hquiz, rfl⟩ := List.mem_map.1 h
    obtain ⟨raw, hraw⟩ := ((mem_quizzes_iff_mentions hc).1 hquiz).lists
    have hmem := OrderedSet.mem_ofList.2 (OrderedMap.mem_arrivalsAt.2 hraw)
    exact ⟨raw, _, (rawIds?_add_plan hc raw).trans (OrderedSet.members?_of_mem hmem),
      OrderedSet.mem_toList.2 hmem⟩

end Sentence

namespace Graph

/-- Raw texts record where quizzes come from. A block that is compiled alone lists under its header
the cards of the sentence in order and then the matching, if there is one, and under a bullet
exactly what it gives : the cloze of a blank, or the cards and then the clozes of an item. Bullets
that repeat the sentence and those of other kinds have no raw text, there are no further raw texts,
and no node is without one. -/
theorem rawIds?_of_compileBlock {file : Nat} {block : Block} {g : Graph}
    (h : empty.compileBlock file block = .ok g) :
    (block.sentence? = none ∧ g = empty) ∨ ∃ s, block.sentence? = some (.ok s) ∧
      g.rawIds? s.header.text = some ((s.quizzes ++ s.matchings block.bullets).map Quiz.id) ∧
      (∀ bullet ∈ block.bullets, bullet.kind = .fill → ∃ cloze, s.fillCloze bullet = .ok cloze ∧
        g.rawIds? (s.raw bullet) = some [(Quiz.cloze cloze).id]) ∧
      (∀ bullet ∈ block.bullets, bullet.kind = .vocabulary → bullet.fields.item ≠ s.item →
        ∃ v, s.entry bullet = .ok (.vocabulary v) ∧ g.rawIds? (s.raw bullet) =
          some (((v.cardSlots ++ v.clozeSlots).filterMap id).map Quiz.id)) ∧
      (∀ bullet ∈ block.bullets, bullet.kind = .vocabulary → bullet.fields.item = s.item →
        g.rawIds? (s.raw bullet) = none) ∧
      (∀ bullet ∈ block.bullets, bullet.kind ≠ .fill → bullet.kind ≠ .vocabulary →
        g.rawIds? (s.raw bullet) = none) ∧
      (∀ raw ids, g.rawIds? raw = some ids → raw = s.header.text ∨
        ∃ bullet ∈ block.bullets, raw = s.raw bullet) ∧
      ∀ id ∈ g.nodes.keys, ∃ raw ids, g.rawIds? raw = some ids ∧ id ∈ ids := by
  rcases compileBlock_ok_cases h with hnone | ⟨s, c, hs, hc, rfl⟩
  · exact Or.inl hnone
  obtain ⟨header, content, -, -, hreads⟩ := Block.exists_reads_of_sentence? hs
  obtain ⟨hfills, hentries⟩ := Sentence.exists_of_collect_plan hc
  have hraw : ∀ bullet ∈ block.bullets, (empty.add c).rawIds? (s.raw bullet) =
      if s.given bullet = [] then none else some ((s.given bullet).map Quiz.id) :=
    fun bullet hbullet => Sentence.rawIds?_add_plan_raw hc hbullet
  refine Or.inr ⟨s, hs, Sentence.rawIds?_add_plan_header hreads hc, ?_, ?_, ?_, ?_,
    fun raw ids hids => Sentence.eq_raw_of_rawIds?_add_plan hc hids,
    fun id hid => Sentence.exists_rawIds?_add_plan hc hid⟩
  · intro bullet hbullet hkind
    obtain ⟨cloze, hcloze⟩ := hfills bullet hbullet hkind
    refine ⟨cloze, hcloze, ?_⟩
    rw [hraw bullet hbullet, Sentence.given_of_fillCloze hkind hcloze]
    rfl
  · intro bullet hbullet hkind hitem
    obtain ⟨entry, hentry⟩ := hentries bullet hbullet hkind
    rcases Sentence.entry_cases hentry with ⟨hrepeats, -⟩ | ⟨v, rfl, -⟩
    · exact absurd hrepeats hitem
    · refine ⟨v, hentry, ?_⟩
      have hne : v.quizzes ≠ [] := by simp [Vocabulary.quizzes_eq, Trio.toList, Trio.slots]
      rw [hraw bullet hbullet, Sentence.given_of_vocabulary hkind hentry, if_neg hne,
        Vocabulary.quizzes]
  · intro bullet hbullet hkind hitem
    obtain ⟨entry, hentry⟩ := hentries bullet hbullet hkind
    rcases Sentence.entry_cases hentry with ⟨-, partOfSpeech, rfl⟩ | ⟨v, -, hown⟩
    · rw [hraw bullet hbullet, Sentence.given_of_repeats hkind hentry, if_pos rfl]
    · exact absurd hitem hown.item_ne
  · intro bullet hbullet hfill hvocabulary
    rw [hraw bullet hbullet, Sentence.given_of_other hfill hvocabulary, if_pos rfl]

/-- A blank, an item that gives a matching on two equal lines, a bullet that repeats the sentence
and an unknown bullet. -/
theorem rawIds?_of_compileBlock_with_equal_lines :
    let word := "- @ b @ d @furigana e @t-en f".toList
    let block := Block.ofLines ["# @ ab @ c".toList, "- @fill a".toList, word,
      "- @ ab @ c @pos n".toList, "- @note".toList, word]
    ∃ g s, empty.compileBlock 0 block = .ok g ∧ block.sentence? = some (.ok s) ∧
      g.rawIds? s.header.text = some ((s.quizzes ++ s.matchings block.bullets).map Quiz.id) ∧
      (∀ raw ids, g.rawIds? raw = some ids → raw = s.header.text ∨
        ∃ bullet ∈ block.bullets, raw = s.raw bullet) ∧
      g.raws.entries.map (fun e => (e.1, e.2.size)) = [("# @ ab @ c".toList, 4),
        ("# @ ab @ c\n- @fill a".toList, 1), ("# @ ab @ c\n".toList ++ word, 6)] := by
  intro word block
  obtain ⟨g, hg⟩ : ∃ g, empty.compileBlock 0 block = .ok g :=
    exists_eq_ok_of_isSome (by decide +kernel)
  have hsentence : block.sentence?.isSome = true := by decide +kernel
  have hraws : (empty.compileBlock 0 block).toOption.map
      (fun g => g.raws.entries.map fun e => (e.1, e.2.size)) =
      some [("# @ ab @ c".toList, 4), ("# @ ab @ c\n- @fill a".toList, 1),
        ("# @ ab @ c\n".toList ++ word, 6)] := by
    decide +kernel
  rcases rawIds?_of_compileBlock hg with ⟨hnone, -⟩ | ⟨s, hs, hheader, -, -, -, -, hraw, -⟩
  · simp [hnone] at hsentence
  · rw [hg] at hraws
    exact ⟨g, s, hg, hs, hheader, hraw, Option.some.inj hraws⟩

end Graph

end StudyGraph
