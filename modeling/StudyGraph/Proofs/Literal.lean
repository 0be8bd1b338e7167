import StudyGraph.Proofs.Fault
import StudyGraph.Proofs.Given
import StudyGraph.Proofs.Locate

/-!
# Items that are blanked out as they stand

An item without a marker `@omit` is blanked if the sentence has its prompt as it stands
(`Fields.Unmarked.locatorIn?_eq`), and then the prompt is the locator. A prompt without a bracketed
part locates itself where it is found once, and is ambiguous otherwise (`Cut.locate_self_cases`). A
prompt with a bracketed part is read as a part with its context, so it never blanks itself
(`Cut.not_fill_of_hasBracket`).

What a block reports on the line of a bullet is what is wrong with this bullet
(`Block.cause?_of_failsOn`). So an item that has no bracketed part either blanks out itself or makes
the block fail as ambiguous (`Block.blank_of_unmarked`).
-/

namespace StudyGraph

/-! ## Locating a text in a sentence that has it -/

namespace Cut

variable {sentence part : Text}

/-- A text without a bracketed part is located in a sentence that has it where it is found once, and
it is ambiguous if it is found more than once. -/
theorem locate_self_cases (hne : part ≠ []) (hplain : ¬HasBracket part)
    (hstands : part <:+: sentence) :
    ((Text.occurrences part sentence).length = 1 ∧ ∃ left right,
      left ++ part ++ right = sentence ∧ locate sentence part = .ok ⟨left, part, right⟩) ∨
    2 ≤ (Text.occurrences part sentence).length ∧
      locate sentence part = .error (.ambiguous part) := by
  have hfinds : ∀ {positions}, Text.Finds ([] ++ part ++ []) sentence 0 positions →
      Text.occurrences part sentence = positions := by
    intro positions h
    rw [List.nil_append, List.append_nil] at h
    exact (Text.occurrences_eq_iff hne).2 h
  have hsought : Sought sentence [] part [] (.notFound part) (.ambiguous part)
      (locate sentence part) :=
    (atOnly_eq_iff hne).1 (locate_of_plain hne hplain).symm
  generalize hlocate : locate sentence part = outcome at hsought
  cases hsought with
  | missing h =>
    obtain ⟨before, after, rfl⟩ := hstands
    cases h with
    | none h =>
      refine absurd ?_ (h before.length (Nat.zero_le _))
      simp
  | @found before after happend h =>
    rw [List.nil_append, List.append_nil] at happend
    exact Or.inl ⟨by rw [hfinds h]; rfl, before, after, happend.symm, by simp⟩
  | «repeated» h => exact Or.inr ⟨by simp [hfinds h], rfl⟩

/-- A text with a bracketed part never locates itself, and it is not ambiguous either. -/
theorem not_fill_of_hasBracket (h : HasBracket part) :
    (∀ cut, locate sentence part = .ok cut → cut.fill part ≠ sentence) ∧
      ∀ t, locate sentence part ≠ .error (.ambiguous t) := by
  constructor
  · intro cut hcut hfill
    cases locate_eq_iff.1 hcut with
    | plain _ hplain _ => exact hplain h
    | @bracketed left inner right _ hfirst _ hsought =>
      -- The locator is longer than what it is read as.
      cases hsought with
      | found happend _ =>
        have hpart := congrArg List.length hfirst.1.1
        have hlength := congrArg List.length (hfill.trans happend)
        simp only [fill, List.length_append, List.length_cons] at hpart hlength
        omega
  · intro t ht
    cases locate_eq_iff.1 ht with
    | plain _ hplain _ => exact hplain h
    | bracketed _ _ hsought => cases hsought

end Cut

theorem Cloze.pieces_of_mem_trio {cut : Cut} {prompt : Text} {responses : List Text}
    {reading : Option Text} {trivial : Bool} {cloze : Cloze}
    (h : cloze ∈ (trio cut prompt responses reading trivial).toList) :
    cloze.pieces = cut.pieces := by
  cases trivial with
  | true =>
    obtain rfl := List.mem_singleton.1 h
    rfl
  | false =>
    have hone : cloze.pieces ∈ (trio cut prompt responses reading false).toList.map Cloze.pieces :=
      List.mem_map_of_mem h
    simpa [trio, Trio.toList, Trio.slots, ofCut, make] using hone

/-! ## Unmarked items -/

/-- The fields have no marker `@omit`, or an empty one. -/
def Fields.Unmarked (fields : Fields) : Prop :=
  ∀ marked, fields.marker "omit" = some marked → marked = []

instance (fields : Fields) : Decidable fields.Unmarked :=
  decidable_of_iff ((fields.marker "omit").all (·.isEmpty) = true) (by
    unfold Fields.Unmarked
    cases fields.marker "omit" <;> simp)

/-- An item without a marker is looked for by its prompt. -/
theorem Fields.Unmarked.locatorIn?_eq {fields : Fields} (h : fields.Unmarked) (sentence : Text) :
    fields.locatorIn? sentence =
      if Text.contains fields.first sentence then some fields.first else none := by
  have hnone : (fields.marker "omit").filter (!·.isEmpty) = none := by
    rw [Option.filter_eq_none_iff]
    intro marked hmarked
    simp [h marked hmarked]
  simp only [locatorIn?, hnone]

/-! ## What an item is located by -/

namespace Sentence

variable {s : Sentence} {bullet : Bullet} {locator : Text}

theorem vocabularyClozes_of_entry {v : Vocabulary} (h : s.entry bullet = .ok (.vocabulary v)) :
    ∃ trivial, s.vocabularyClozes bullet.fields trivial bullet.line = .ok v.clozes := by
  simp only [Sentence.entry, bind, Except.bind, pure, Except.pure] at h
  split at h
  · cases h
  · split at h
    · cases h
    · split at h
      · cases h
      · split at h
        · cases h
        · next clozes hclozes =>
          obtain rfl := Entry.vocabulary.inj (Except.ok.inj h)
          exact ⟨_, hclozes⟩

/-- An item that is looked for nowhere gives cards only. -/
theorem exists_card_of_not_located (hlocator : bullet.fields.locatorIn? s.item.prompt = none)
    (hkind : bullet.kind = .vocabulary) {quiz : Quiz} (h : quiz ∈ s.given bullet) :
    ∃ card, quiz = .card card := by
  rcases given_cases h with ⟨hfill, -⟩ | ⟨-, v, hentry, hquiz⟩
  · simp [hkind] at hfill
  · obtain ⟨trivial, hclozes⟩ := vocabularyClozes_of_entry hentry
    have hs : s.locator? bullet.fields = none := hlocator
    rw [vocabularyClozes, hs] at hclozes
    have hnone : v.clozes = none := (Except.ok.inj hclozes).symm
    rcases Vocabulary.mem_quizzes_iff.1 hquiz with ⟨card, -, rfl⟩ | ⟨clozes, hsome, -⟩
    · exact ⟨card, rfl⟩
    · simp [hnone] at hsome

/-- An item that is read has clozes if it is looked for, all of them cut at its locator. -/
theorem exists_clozes_of_located (hlocator : bullet.fields.locatorIn? s.item.prompt = some locator)
    {v : Vocabulary} (h : s.entry bullet = .ok (.vocabulary v)) :
    ∃ cut clozes, Cut.locate s.item.prompt locator = .ok cut ∧ v.clozes = some clozes ∧
      ∀ cloze ∈ clozes.toList, cloze.pieces = cut.pieces := by
  obtain ⟨trivial, hclozes⟩ := vocabularyClozes_of_entry h
  have hs : s.locator? bullet.fields = some locator := hlocator
  simp only [vocabularyClozes, hs, bind, Except.bind, pure, Except.pure] at hclozes
  split at hclozes
  · cases hclozes
  · next cut hcut =>
    refine ⟨cut, _, (s.cutAt_eq_ok_iff bullet.line).1 hcut, (Except.ok.inj hclozes).symm, ?_⟩
    intro cloze hcloze
    rw [Trio.toList_map] at hcloze
    obtain ⟨bare, hbare, rfl⟩ := List.mem_map.1 hcloze
    have hpieces : bare.pieces = cut.pieces := Cloze.pieces_of_mem_trio hbare
    exact hpieces

/-- The clozes that an item gives are cut at its locator. -/
theorem pieces_of_located (hlocator : bullet.fields.locatorIn? s.item.prompt = some locator)
    (hkind : bullet.kind = .vocabulary) {cloze : Cloze} (h : .cloze cloze ∈ s.given bullet) :
    ∃ cut : Cut, Cut.locate s.item.prompt locator = .ok cut ∧ cloze.pieces = cut.pieces := by
  rcases given_cases h with ⟨hfill, -⟩ | ⟨-, v, hentry, hquiz⟩
  · simp [hkind] at hfill
  · obtain ⟨cut, clozes, hcut, hclozes, hpieces⟩ := exists_clozes_of_located hlocator hentry
    rcases Vocabulary.mem_quizzes_iff.1 hquiz with ⟨card, -, hcard⟩ | ⟨own, hown, _, hcloze, heq⟩
    · cases hcard
    · obtain rfl := Option.some.inj (hclozes.symm.trans hown)
      obtain rfl := Quiz.cloze.inj heq
      exact ⟨cut, hcut, hpieces cloze hcloze⟩

/-- If an item that is looked for gives anything, it gives a cloze. -/
theorem exists_cloze_of_located (hlocator : bullet.fields.locatorIn? s.item.prompt = some locator)
    (hkind : bullet.kind = .vocabulary) (h : s.given bullet ≠ []) :
    ∃ cloze, .cloze cloze ∈ s.given bullet := by
  obtain ⟨quiz, hquiz⟩ := List.exists_mem_of_ne_nil _ h
  rcases given_cases hquiz with ⟨hfill, -⟩ | ⟨-, v, hentry, -⟩
  · simp [hkind] at hfill
  · obtain ⟨-, clozes, -, hclozes, -⟩ := exists_clozes_of_located hlocator hentry
    refine ⟨clozes.first, ?_⟩
    rw [given_of_vocabulary hkind hentry]
    exact Vocabulary.mem_quizzes_iff.2
      (Or.inr ⟨clozes, hclozes, clozes.first, by simp [Trio.toList, Trio.slots], rfl⟩)

end Sentence

/-! ## What a block reports -/

namespace Block

variable {block : Block} {s : Sentence} {bullet : Bullet} {cause : Cause}

/-- The block fails on the line of a bullet, for this cause. -/
def FailsOn (block : Block) (bullet : Bullet) (cause : Cause) : Prop :=
  ∃ (g : Graph) (file : Nat) (failure : Failure), g.compileBlock file block = .error failure ∧
    failure.line = bullet.line ∧ failure.cause = cause

theorem mem_of_mem_examined {bullets : List Bullet} (h : bullet ∈ examined bullets) :
    bullet ∈ bullets := by
  rcases List.mem_append.1 h with h | h
  · rcases List.mem_append.1 h with h | h
    · exact List.mem_of_find?_eq_some (Option.mem_toList.1 h)
    · exact (List.mem_filter.1 h).1
  · exact (List.mem_filter.1 h).1

/-- If a sentence can be read, what is wrong with the block is what is wrong with its bullets. -/
theorem faults_of_sentence? (hs : block.sentence? = some (.ok s)) :
    block.faults = (examined block.bullets).filterMap (Bullet.fault? s.item) := by
  obtain ⟨header, content, hheader, hcontent, hreads⟩ := exists_reads_of_sentence? hs
  have hfirst : (Fields.ofText content).first.isEmpty = false := by
    simpa using hreads.first_ne_nil
  simp only [faults, hheader, hcontent, faultsOf, hfirst, Bool.false_eq_true, if_false,
    List.nil_append, hreads.item_eq]

/-- A block fails on a line for what is wrong with the bullet there. -/
theorem cause?_of_failsOn (hs : block.sentence? = some (.ok s)) (hbullet : bullet ∈ block.bullets)
    (h : block.FailsOn bullet cause) : bullet.cause? s.item = some cause := by
  obtain ⟨g, file, failure, hfail, hline, rfl⟩ := h
  have hmem := List.mem_of_mem_head? (Graph.head?_faults_of_compileBlock hfail).2
  rw [faults_of_sentence? hs] at hmem
  obtain ⟨other, hother, hfault⟩ := List.mem_filterMap.1 hmem
  obtain ⟨cause, hcause, heq⟩ := Option.map_eq_some_iff.1 hfault
  obtain ⟨hcauses, hlines⟩ : cause = failure.cause ∧ other.line = failure.line :=
    Fault.mk.inj heq
  rw [hline] at hlines
  obtain ⟨hkind, hcontent⟩ := Bullet.eq_of_text_eq (mem_of_mem_examined hother) hbullet
    (congrArg Line.text hlines)
  obtain rfl : other = bullet := by
    cases other
    cases bullet
    simp_all
  rw [hcause, hcauses]

theorem mem_faults_of_cause? (hs : block.sentence? = some (.ok s))
    (hbullet : bullet ∈ block.bullets) (hkind : bullet.kind = .vocabulary)
    (h : bullet.cause? s.item = some cause) : ⟨cause, bullet.line⟩ ∈ block.faults := by
  rw [faults_of_sentence? hs]
  have hexamined : bullet ∈ examined block.bullets :=
    List.mem_append_right _ (List.mem_filter.2 ⟨hbullet, by simp [hkind]⟩)
  exact List.mem_filterMap.2 ⟨bullet, hexamined, by rw [Bullet.fault?, h]; rfl⟩

/-- A block with a fault fails in every graph. -/
theorem exists_failure_of_mem_faults {fault : Fault} (h : fault ∈ block.faults) (g : Graph)
    (file : Nat) : ∃ failure, g.compileBlock file block = .error failure := by
  obtain ⟨first, hfirst⟩ : ∃ first, block.faults.head? = some first :=
    Option.isSome_iff_exists.1 (by simp [List.ne_nil_of_mem h])
  exact ⟨⟨first, file⟩, Graph.compileBlock_eq_error_iff.2 (by rw [failure?_eq, hfirst]; rfl)⟩

/-! ## Unmarked items of a block -/

/-- A vocabulary bullet of the block without a marker `@omit`, whose item is not the sentence. -/
structure HasUnmarked (block : Block) (s : Sentence) (bullet : Bullet) : Prop where
  mem : bullet ∈ block.bullets
  kind_eq : bullet.kind = .vocabulary
  item_ne : bullet.fields.item ≠ s.item
  unmarked : bullet.fields.Unmarked

namespace HasUnmarked

variable (h : block.HasUnmarked s bullet)

include h

/-- What is wrong with an unmarked item is its reading, or its prompt as a locator. -/
theorem cause?_eq (hne : bullet.fields.first ≠ []) : bullet.cause? s.item =
    ((bullet.fields.marker "furigana").bind Furigana.cause?).or
      ((bullet.fields.locatorIn? s.item.prompt).bind (Cut.cause? s.item.prompt)) := by
  have hprompt : bullet.fields.first.isEmpty = false := by simpa using hne
  simp only [Bullet.cause?, h.kind_eq, Bullet.vocabularyCause?, hprompt, Bool.false_eq_true,
    if_false, if_neg h.item_ne]

theorem locatorIn?_of_stands (hstands : bullet.fields.first <:+: s.item.prompt) :
    bullet.fields.locatorIn? s.item.prompt = some bullet.fields.first := by
  rw [h.unmarked.locatorIn?_eq, if_pos (Text.contains_iff_isInfix.2 hstands)]

theorem locatorIn?_of_not_stands (hstands : ¬bullet.fields.first <:+: s.item.prompt) :
    bullet.fields.locatorIn? s.item.prompt = none := by
  rw [h.unmarked.locatorIn?_eq, if_neg (mt Text.contains_iff_isInfix.1 hstands)]

/-- If the block fails on an unmarked item for a locator, the sentence has the prompt of the item,
and it is not located there. -/
theorem locate_of_failsOn (hs : block.sentence? = some (.ok s)) {e : Cut.Error}
    (hfails : block.FailsOn bullet (.cut e)) : bullet.fields.first <:+: s.item.prompt ∧
      Cut.locate s.item.prompt bullet.fields.first = .error e := by
  have hcause := cause?_of_failsOn hs h.mem hfails
  have hne : bullet.fields.first ≠ [] := by
    intro hnil
    simp [Bullet.cause?, h.kind_eq, Bullet.vocabularyCause?, hnil] at hcause
  rw [h.cause?_eq hne, Option.or_eq_some_iff] at hcause
  rcases hcause with hreading | ⟨-, hlocator⟩
  · obtain ⟨t, -, ht⟩ := Option.bind_eq_some_iff.1 hreading
    obtain ⟨e', he'⟩ := Bullet.cause_of_furigana ht
    cases he'
  · by_cases hstands : bullet.fields.first <:+: s.item.prompt
    · rw [h.locatorIn?_of_stands hstands, Option.bind_some, Cut.cause?] at hlocator
      split at hlocator
      · cases hlocator
      · next e' hlocate =>
        cases hlocator
        exact ⟨hstands, hlocate⟩
    · rw [h.locatorIn?_of_not_stands hstands] at hlocator
      cases hlocator

/-- If the prompt of an unmarked item is located, the block does not fail on the item for a
locator. -/
theorem not_failsOn_of_located (hs : block.sentence? = some (.ok s)) {cut : Cut}
    (hlocate : Cut.locate s.item.prompt bullet.fields.first = .ok cut) (e : Cut.Error) :
    ¬block.FailsOn bullet (.cut e) := by
  intro hfails
  have hfailed := (h.locate_of_failsOn hs hfails).2
  rw [hlocate] at hfailed
  cases hfailed

/-- If the prompt of an unmarked item is not located, the item gives nothing. -/
theorem given_of_not_located (hstands : bullet.fields.first <:+: s.item.prompt) {e : Cut.Error}
    (hlocate : Cut.locate s.item.prompt bullet.fields.first = .error e) : s.given bullet = [] := by
  by_contra hne
  have hlocator := h.locatorIn?_of_stands hstands
  obtain ⟨cloze, hcloze⟩ := Sentence.exists_cloze_of_located hlocator h.kind_eq hne
  obtain ⟨cut, hcut, -⟩ := Sentence.pieces_of_located hlocator h.kind_eq hcloze
  rw [hlocate] at hcut
  cases hcut

/-- An item without a prompt gives nothing, and it has no locator to fail for. -/
theorem given_of_nil (hs : block.sentence? = some (.ok s)) (hnil : bullet.fields.first = []) :
    s.given bullet = [] ∧ ∀ e, ¬block.FailsOn bullet (.cut e) := by
  have hlocate : Cut.locate s.item.prompt bullet.fields.first = .error (.notFound []) := by
    rw [hnil]
    rfl
  refine ⟨h.given_of_not_located (hnil ▸ List.nil_infix) hlocate, fun e hfails => ?_⟩
  have hcause := cause?_of_failsOn hs h.mem hfails
  simp [Bullet.cause?, h.kind_eq, Bullet.vocabularyCause?, hnil] at hcause

/-- If the prompt of an unmarked item is ambiguous, this is what is wrong with the item, unless its
reading cannot be read. -/
theorem cause?_of_ambiguous (hne : bullet.fields.first ≠ [])
    (hstands : bullet.fields.first <:+: s.item.prompt)
    (hlocate : Cut.locate s.item.prompt bullet.fields.first =
      .error (.ambiguous bullet.fields.first)) :
    bullet.cause? s.item = some (((bullet.fields.marker "furigana").bind Furigana.cause?).getD
      (.cut (.ambiguous bullet.fields.first))) := by
  rw [h.cause?_eq hne, h.locatorIn?_of_stands hstands, Option.bind_some, Cut.cause?, hlocate]
  cases (bullet.fields.marker "furigana").bind Furigana.cause? <;> rfl

/-- If the prompt of an unmarked item is ambiguous, the block fails in every graph, and on the line
of the item for this or for its reading. -/
theorem fails_of_ambiguous (hs : block.sentence? = some (.ok s)) (hne : bullet.fields.first ≠ [])
    (hstands : bullet.fields.first <:+: s.item.prompt)
    (hlocate : Cut.locate s.item.prompt bullet.fields.first =
      .error (.ambiguous bullet.fields.first)) :
    (∀ (g : Graph) (file : Nat), ∃ failure, g.compileBlock file block = .error failure) ∧
      (∀ cause, block.FailsOn bullet cause →
        cause = .cut (.ambiguous bullet.fields.first) ∨ ∃ e, cause = .badFurigana e) ∧
      ((bullet.fields.marker "furigana").bind Furigana.cause? = none →
        ⟨.cut (.ambiguous bullet.fields.first), bullet.line⟩ ∈ block.faults) := by
  have hcause := h.cause?_of_ambiguous hne hstands hlocate
  have hfault := mem_faults_of_cause? hs h.mem h.kind_eq hcause
  refine ⟨exists_failure_of_mem_faults hfault, fun cause hfails => ?_, fun hreading => ?_⟩
  · have hown := cause?_of_failsOn hs h.mem hfails
    rw [hcause, Option.some.injEq] at hown
    cases hreading : (bullet.fields.marker "furigana").bind Furigana.cause? with
    | none =>
      rw [hreading] at hown
      exact Or.inl hown.symm
    | some unread =>
      rw [hreading] at hown
      obtain ⟨t, -, ht⟩ := Option.bind_eq_some_iff.1 hreading
      exact Or.inr (hown ▸ Bullet.cause_of_furigana ht)
  · rwa [hreading] at hfault

end HasUnmarked

/-- An unmarked item whose prompt is not in the sentence gives cards only. If its prompt has no
bracketed part and is in the sentence, the item is blanked out at the one place where the prompt
stands, or the prompt is found more than once and the block fails, with this among its faults. In
neither case does the block fail on the item for another reason that concerns its locator. But if
the prompt has a bracketed part and is in the sentence, it is never the blank, and it is not
reported as ambiguous. -/
theorem blank_of_unmarked (hs : block.sentence? = some (.ok s)) (h : block.HasUnmarked s bullet) :
    let part := bullet.fields.first
    let sentence := s.item.prompt
    (part = [] → s.given bullet = [] ∧ ∀ e, ¬block.FailsOn bullet (.cut e)) ∧
    (¬part <:+: sentence → (∀ quiz ∈ s.given bullet, ∃ card, quiz = .card card) ∧
      ∀ e, ¬block.FailsOn bullet (.cut e)) ∧
    (part ≠ [] → part <:+: sentence → ¬Cut.HasBracket part →
      ((Text.occurrences part sentence).length = 1 ∧ (∀ e, ¬block.FailsOn bullet (.cut e)) ∧
        (s.given bullet ≠ [] → ∃ cloze, .cloze cloze ∈ s.given bullet) ∧
        ∃ left right, left ++ part ++ right = sentence ∧ ∀ cloze, .cloze cloze ∈ s.given bullet →
          cloze.pieces = [.text left, .blank, .text right]) ∨
      2 ≤ (Text.occurrences part sentence).length ∧ s.given bullet = [] ∧
        (∀ (g : Graph) (file : Nat), ∃ failure, g.compileBlock file block = .error failure) ∧
        (∀ cause, block.FailsOn bullet cause →
          cause = .cut (.ambiguous part) ∨ ∃ e, cause = .badFurigana e) ∧
        ((bullet.fields.marker "furigana").bind Furigana.cause? = none →
          ⟨.cut (.ambiguous part), bullet.line⟩ ∈ block.faults)) ∧
    (part <:+: sentence → Cut.HasBracket part →
      (∀ t, ¬block.FailsOn bullet (.cut (.ambiguous t))) ∧
      ∀ cloze, .cloze cloze ∈ s.given bullet →
        ∃ cut : Cut, cloze.pieces = cut.pieces ∧ cut.fill part ≠ sentence) := by
  intro part sentence
  refine ⟨h.given_of_nil hs, fun hstands => ⟨fun quiz hquiz => ?_, fun e hfails => ?_⟩,
    fun hne hstands hplain => ?_,
    fun hstands hbracket => ⟨fun t hfails => ?_, fun cloze hcloze => ?_⟩⟩
  · exact Sentence.exists_card_of_not_located (h.locatorIn?_of_not_stands hstands) h.kind_eq hquiz
  · exact hstands (h.locate_of_failsOn hs hfails).1
  · have hlocator := h.locatorIn?_of_stands hstands
    rcases Cut.locate_self_cases hne hplain hstands with
      ⟨hone, left, right, happend, hlocate⟩ | ⟨hmany, hlocate⟩
    · refine Or.inl ⟨hone, h.not_failsOn_of_located hs hlocate,
        Sentence.exists_cloze_of_located hlocator h.kind_eq, left, right, happend,
        fun cloze hcloze => ?_⟩
      obtain ⟨cut, hcut, hpieces⟩ := Sentence.pieces_of_located hlocator h.kind_eq hcloze
      obtain rfl := Except.ok.inj (hlocate.symm.trans hcut)
      exact hpieces
    · exact Or.inr ⟨hmany, h.given_of_not_located hstands hlocate,
        h.fails_of_ambiguous hs hne hstands hlocate⟩
  · exact (Cut.not_fill_of_hasBracket hbracket).2 t (h.locate_of_failsOn hs hfails).2
  · obtain ⟨cut, hcut, hpieces⟩ :=
      Sentence.pieces_of_located (h.locatorIn?_of_stands hstands) h.kind_eq hcloze
    exact ⟨cut, hpieces, (Cut.not_fill_of_hasBracket hbracket).1 cut hcut⟩

/-- The first item stands once in the sentence and is blanked out. The second stands there twice, so
the block fails. -/
theorem blank_of_unmarked_beside_ambiguous :
    let block := ofLines ["# @ aba @ x".toList, "- @ b @ y".toList, "- @ a @ z".toList]
    let once : Bullet := ⟨.vocabulary, "b @ y".toList, ⟨"- @ b @ y".toList, 12⟩⟩
    let twice : Bullet := ⟨.vocabulary, "a @ z".toList, ⟨"- @ a @ z".toList, 22⟩⟩
    ∃ s, block.sentence? = some (.ok s) ∧
      (∃ cloze left right, .cloze cloze ∈ s.given once ∧
        left ++ "b".toList ++ right = "aba".toList ∧
        cloze.pieces = [.text left, .blank, .text right]) ∧
      s.given twice = [] ∧ ∃ failure, Graph.empty.compileBlock 0 block = .error failure := by
  intro block once twice
  obtain ⟨s, hs⟩ : ∃ s, block.sentence? = some (.ok s) :=
    exists_sentence?_of_isSome (by decide +kernel)
  have hitem : s.item = ⟨"aba".toList, ["x".toList]⟩ :=
    eq_of_sentence? hs Sentence.item (by decide +kernel)
  have hgiven : (s.given once).isEmpty = false :=
    eq_of_sentence? hs (fun s => (s.given once).isEmpty) (by decide +kernel)
  have honce : block.HasUnmarked s once :=
    ⟨by decide +kernel, rfl, by rw [hitem]; decide +kernel, by decide +kernel⟩
  have htwice : block.HasUnmarked s twice :=
    ⟨by decide +kernel, rfl, by rw [hitem]; decide +kernel, by decide +kernel⟩
  have hstands : once.fields.first <:+: s.item.prompt ∧ twice.fields.first <:+: s.item.prompt := by
    rw [hitem]
    exact ⟨Text.contains_iff_isInfix.1 (by decide +kernel),
      Text.contains_iff_isInfix.1 (by decide +kernel)⟩
  refine ⟨s, hs, ?_, ?_⟩
  · rcases (blank_of_unmarked hs honce).2.2.1 (by decide +kernel) hstands.1
      (Cut.bracketed?_eq_none_iff.1 (by decide +kernel)) with
      ⟨-, -, hcloze, left, right, happend, hpieces⟩ | ⟨hmany, -⟩
    · obtain ⟨cloze, hcloze⟩ := hcloze (by simpa using hgiven)
      rw [hitem] at happend
      exact ⟨cloze, left, right, hcloze, happend, hpieces cloze hcloze⟩
    · rw [hitem] at hmany
      exact absurd hmany (by decide +kernel)
  · rcases (blank_of_unmarked hs htwice).2.2.1 (by decide +kernel) hstands.2
      (Cut.bracketed?_eq_none_iff.1 (by decide +kernel)) with ⟨hone, -⟩ | ⟨-, hgiven, hfails, -⟩
    · rw [hitem] at hone
      exact absurd hone (by decide +kernel)
    · exact ⟨hgiven, hfails Graph.empty 0⟩

/-- The sentence has the prompt of the item as it stands. But as a locator the prompt means another
text, which the sentence does not have. -/
theorem failsOn_of_bracketed_prompt :
    let block := ofLines ["# @ a[b]c @ x".toList, "- @ a[b] @ y".toList]
    let bullet : Bullet := ⟨.vocabulary, "a[b] @ y".toList, ⟨"- @ a[b] @ y".toList, 14⟩⟩
    ∃ s, block.sentence? = some (.ok s) ∧ block.HasUnmarked s bullet ∧
      bullet.fields.first <:+: s.item.prompt ∧
      block.FailsOn bullet (.cut (.contextNotFound "a[b]".toList)) := by
  intro block bullet
  obtain ⟨s, hs⟩ : ∃ s, block.sentence? = some (.ok s) :=
    exists_sentence?_of_isSome (by decide +kernel)
  have hitem : s.item = ⟨"a[b]c".toList, ["x".toList]⟩ :=
    eq_of_sentence? hs Sentence.item (by decide +kernel)
  refine ⟨s, hs, ⟨by decide +kernel, rfl, by rw [hitem]; decide +kernel, by decide +kernel⟩, ?_, ?_⟩
  · rw [hitem]
    exact Text.contains_iff_isInfix.1 (by decide +kernel)
  · have hfault : failure? (0, block) =
        some ⟨⟨.cut (.contextNotFound "a[b]".toList), bullet.line⟩, 0⟩ := by
      decide +kernel
    exact ⟨Graph.empty, 0, _, Graph.compileBlock_eq_error_iff.2 hfault, rfl, rfl⟩

end Block

end StudyGraph
