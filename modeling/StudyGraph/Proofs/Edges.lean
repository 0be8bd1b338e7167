import StudyGraph.Proofs.Built
import StudyGraph.Proofs.Relation
import StudyGraph.Proofs.Sentence

/-!
# The edges of a block

`Sentence.Credits` says which quizzes of a block credit each other: the cards of the sentence by the
sentence policy, every group of a vocabulary item by the sentence policy, these groups with the
matching by the matching policy, and every cloze of a fill bullet with every card of the sentence in
both directions. A step of a plan asks for edges (`Step.Asks`) and contributes those that join two
different quizzes (`Step.brings_edges`), and a plan asks for what its sentence credits
(`Sentence.exists_part_asks_iff`). So a block that is compiled alone has exactly the edges of its
policies (`Graph.mem_children_of_compileBlock`), which are four among three cards or none if its
header stands alone.
-/

set_option linter.unusedSectionVars false

namespace StudyGraph

/-! ## What steps ask for -/

/-- A step asks for an edge. -/
def Step.Asks : Step → QuizId → QuizId → Prop
  | register _ _, _, _ => False
  | credit parent child, p, c => parent.id = p ∧ child.id = c
  | link policy group _, p, c => policy.Asks group p c

@[simp] theorem Step.not_register_asks {raw : Text} {quiz : Quiz} {p c : QuizId} :
    ¬(register raw quiz).Asks p c := id

@[simp] theorem Step.link_asks_iff {policy : Matrix} {group : List (Option Quiz)} {line : Line}
    {p c : QuizId} : (link policy group line).Asks p c ↔ policy.Asks group p c := Iff.rfl

/-- A part asks for an edge in one of its steps. -/
def Part.Asks (part : Part) (p c : QuizId) : Prop :=
  ∃ steps, part.steps = .ok steps ∧ ∃ step ∈ steps, step.Asks p c

theorem Contribution.brings_edge {parent child : Quiz} {p c : QuizId} :
    OrderedMap.Brings (edge parent child).edges p c ↔ p ≠ c ∧ parent.id = p ∧ child.id = c := by
  unfold edge OrderedMap.Brings
  dsimp only
  split
  · next h =>
    refine ⟨by simp, ?_⟩
    rintro ⟨hne, rfl, rfl⟩
    exact absurd h hne
  · next h =>
    simp only [List.mem_singleton, exists_eq_left, OrderedSet.mem_ofList]
    constructor
    · rintro ⟨rfl, rfl⟩
      exact ⟨h, rfl, rfl⟩
    · rintro ⟨-, rfl, rfl⟩
      exact ⟨rfl, rfl⟩

theorem Matrix.brings_links {m : Matrix} {group : List (Option Quiz)} {p c : QuizId} :
    OrderedMap.Brings
        (Contribution.join ((m.links group).map fun l => .edge l.parent l.child)).edges p c ↔
      p ≠ c ∧ m.Asks group p c := by
  have hmem : OrderedMap.Brings
      (Contribution.join ((m.links group).map fun l => .edge l.parent l.child)).edges p c ↔
      ∃ l ∈ m.links group, OrderedMap.Brings (Contribution.edge l.parent l.child).edges p c := by
    rw [Contribution.edges_join, List.flatMap_map]
    simp only [OrderedMap.Brings, List.mem_flatMap]
    constructor
    · rintro ⟨e, ⟨l, hl, he⟩, hpc⟩
      exact ⟨l, hl, e, he, hpc⟩
    · rintro ⟨l, hl, e, he, hpc⟩
      exact ⟨e, ⟨l, hl, he⟩, hpc⟩
  rw [hmem, asks_iff_exists_mem_links]
  simp only [Contribution.brings_edge]
  constructor
  · rintro ⟨l, hl, hne, hp, hc⟩
    exact ⟨hne, l, hl, hp, hc⟩
  · rintro ⟨hne, l, hl, hp, hc⟩
    exact ⟨l, hl, hne, hp, hc⟩

/-- A step contributes the edges that it asks for, those from a quiz to itself left out. -/
theorem Step.brings_edges {step : Step} {d : Contribution} (h : step.contribution = .ok d)
    {p c : QuizId} : OrderedMap.Brings d.edges p c ↔ p ≠ c ∧ step.Asks p c := by
  cases step with
  | register raw quiz =>
    obtain rfl := Except.ok.inj h
    simp [Contribution.raw, Contribution.quiz]
  | credit parent child =>
    obtain rfl := Except.ok.inj h
    exact Contribution.brings_edge
  | link policy group line =>
    rw [contribution] at h
    split at h
    · obtain rfl := Except.ok.inj h
      exact Matrix.brings_links
    · cases h

theorem Part.brings_edges {part : Part} {d : Contribution} (h : part.contribution = .ok d)
    {p c : QuizId} : OrderedMap.Brings d.edges p c ↔ p ≠ c ∧ part.Asks p c := by
  cases hsteps : part.steps with
  | error fault => simp [contribution, hsteps, Except.bind] at h
  | ok steps =>
    rw [contribution, hsteps] at h
    have hcollect : OrderedMap.Brings d.edges p c ↔ ∃ step ∈ steps, p ≠ c ∧ step.Asks p c :=
      Contribution.brings_edges_collect (fun ha => Step.brings_edges ha) h
    rw [hcollect]
    simp only [Asks, hsteps, Except.ok.injEq, exists_eq_left']
    constructor
    · rintro ⟨step, hstep, hne, hasks⟩
      exact ⟨hne, step, hstep, hasks⟩
    · rintro ⟨hne, step, hstep, hasks⟩
      exact ⟨step, hstep, hne, hasks⟩

/-! ## What a sentence credits -/

namespace Sentence

/-- A vocabulary item of the sentence: what a vocabulary bullet gives that does not repeat the
sentence. -/
def HasItem (s : Sentence) (bullets : List Bullet) (v : Vocabulary) : Prop :=
  ∃ bullet ∈ bullets, bullet.kind = .vocabulary ∧ s.entry bullet = .ok (.vocabulary v)

/-- The cloze of a fill bullet of the sentence. -/
def HasFill (s : Sentence) (bullets : List Bullet) (cloze : Cloze) : Prop :=
  ∃ bullet ∈ bullets, bullet.kind = .fill ∧ s.fillCloze bullet = .ok cloze

/-- The matching of the sentence is that of its vocabulary bullets. -/
def HasMatching (s : Sentence) (bullets : List Bullet) (m : Matching) : Prop :=
  s.matching? (s.vocabularies (bullets.filter (·.kind = .vocabulary))) = some m

/-- Which quizzes of a sentence with these bullets credit which. -/
inductive Credits (s : Sentence) (bullets : List Bullet) : QuizId → QuizId → Prop where
  /-- Among the cards of the sentence. -/
  | header {p c : QuizId} :
    sentencePolicy.Asks (s.slots ++ Trio.noSlots ++ Trio.noSlots) p c → Credits s bullets p c
  /-- Among the cards of the sentence and the quizzes of a vocabulary item. -/
  | item {v : Vocabulary} {p c : QuizId} : s.HasItem bullets v →
    sentencePolicy.Asks (s.slots ++ v.cardSlots ++ v.clozeSlots) p c → Credits s bullets p c
  /-- Among these and the matching. -/
  | matching {m : Matching} {v : Vocabulary} {p c : QuizId} : s.HasMatching bullets m →
    s.HasItem bullets v →
    matchingPolicy.Asks (s.slots ++ v.cardSlots ++ v.clozeSlots ++ [some (.matching m)]) p c →
    Credits s bullets p c
  /-- A card of the sentence credits the cloze of a fill bullet. -/
  | toFill {cloze : Cloze} {card : Quiz} : s.HasFill bullets cloze → card ∈ s.quizzes →
    Credits s bullets card.id (Quiz.cloze cloze).id
  /-- The cloze of a fill bullet credits a card of the sentence. -/
  | fromFill {cloze : Cloze} {card : Quiz} : s.HasFill bullets cloze → card ∈ s.quizzes →
    Credits s bullets (Quiz.cloze cloze).id card.id

variable {s : Sentence} {bullets : List Bullet} {p c : QuizId}

theorem exists_headerStep_asks_iff : (∃ step ∈ s.headerSteps, step.Asks p c) ↔
    sentencePolicy.Asks (s.slots ++ Trio.noSlots ++ Trio.noSlots) p c := by
  simp [headerSteps, or_and_right, exists_or]

theorem fillPart_asks_iff {bullet : Bullet} :
    Part.Asks ⟨some bullet, s.fillSteps bullet⟩ p c ↔
      ∃ cloze, s.fillCloze bullet = .ok cloze ∧ ∃ card ∈ s.quizzes,
        card.id = p ∧ (Quiz.cloze cloze).id = c ∨ (Quiz.cloze cloze).id = p ∧ card.id = c := by
  constructor
  · rintro ⟨steps, hsteps, step, hstep, hasks⟩
    obtain ⟨cloze, hcloze, rfl | ⟨card, hcard, rfl | rfl⟩⟩ := cases_of_mem_fillSteps hsteps hstep
    · exact absurd hasks Step.not_register_asks
    · exact ⟨cloze, hcloze, card, hcard, Or.inl hasks⟩
    · exact ⟨cloze, hcloze, card, hcard, Or.inr hasks⟩
  · rintro ⟨cloze, hcloze, card, hcard, hasks⟩
    refine ⟨_, fillSteps_eq_ok_iff.2 ⟨cloze, hcloze, rfl⟩, ?_⟩
    rcases hasks with hasks | hasks
    · exact ⟨.credit card (.cloze cloze), List.mem_cons_of_mem _
        (List.mem_flatMap.2 ⟨card, hcard, by simp⟩), hasks⟩
    · exact ⟨.credit (.cloze cloze) card, List.mem_cons_of_mem _
        (List.mem_flatMap.2 ⟨card, hcard, by simp⟩), hasks⟩

theorem vocabularySteps_asks_iff {v : Vocabulary} :
    (∃ step ∈ s.vocabularySteps v, step.Asks p c) ↔
      sentencePolicy.Asks (s.slots ++ v.cardSlots ++ v.clozeSlots) p c := by
  constructor
  · rintro ⟨step, hstep, hasks⟩
    rcases cases_of_mem_vocabularySteps hstep with ⟨quiz, -, rfl⟩ | rfl
    · exact absurd hasks Step.not_register_asks
    · exact hasks
  · intro hasks
    exact ⟨_, List.mem_append_right _ (List.mem_singleton.2 rfl), hasks⟩

/-- Bullets that repeat the sentence ask for nothing. -/
theorem entrySteps_asks_iff {known : Bool} {entry : Entry} :
    (∃ step ∈ s.entrySteps known entry, step.Asks p c) ↔ ∃ v, entry = .vocabulary v ∧
      sentencePolicy.Asks (s.slots ++ v.cardSlots ++ v.clozeSlots) p c := by
  cases entry with
  | vocabulary v => simpa [entrySteps] using vocabularySteps_asks_iff
  | «repeats» partOfSpeech =>
    constructor
    · rintro ⟨step, hstep, hasks⟩
      obtain ⟨card, rfl⟩ := exists_card_of_mem_repeats hstep
      exact absurd hasks Step.not_register_asks
    · rintro ⟨v, hv, -⟩
      cases hv

theorem vocabularyParts_asks_iff : ∀ {known : Bool} {bullets : List Bullet},
    (∃ part ∈ s.vocabularyParts known bullets, part.Asks p c) ↔
      ∃ bullet ∈ bullets, ∃ v, s.entry bullet = .ok (.vocabulary v) ∧
        sentencePolicy.Asks (s.slots ++ v.cardSlots ++ v.clozeSlots) p c
  | _, [] => by simp [vocabularyParts]
  | known, bullet :: bullets => by
    rw [vocabularyParts, List.exists_mem_cons_iff]
    cases hentry : s.entry bullet with
    | error fault =>
      have hpart : ¬Part.Asks ⟨some bullet, .error fault⟩ p c := by
        rintro ⟨steps, hsteps, -⟩
        cases hsteps
      rw [List.exists_mem_cons_iff, vocabularyParts_asks_iff]
      simp [hpart]
    | ok entry =>
      have hpart : Part.Asks ⟨some bullet, .ok (s.entrySteps known entry)⟩ p c ↔
          ∃ step ∈ s.entrySteps known entry, step.Asks p c := by
        simp [Part.Asks]
      rw [List.exists_mem_cons_iff, vocabularyParts_asks_iff, hpart, entrySteps_asks_iff]
      simp

theorem mem_vocabularies_iff {v : Vocabulary} :
    v ∈ s.vocabularies (bullets.filter (·.kind = .vocabulary)) ↔ s.HasItem bullets v := by
  unfold vocabularies HasItem
  simp only [List.mem_filterMap, List.mem_filter, decide_eq_true_eq, and_assoc]
  refine exists_congr fun bullet => and_congr_right fun _ => and_congr_right fun _ => ?_
  cases s.entry bullet with
  | error fault => simp [Except.toOption]
  | ok entry => cases entry <;> simp [Except.toOption, Entry.vocabulary?]

theorem matchingSteps_asks_iff :
    (∃ step ∈ s.matchingSteps (s.vocabularies (bullets.filter (·.kind = .vocabulary))),
      step.Asks p c) ↔ ∃ m v, s.HasMatching bullets m ∧ s.HasItem bullets v ∧ matchingPolicy.Asks
        (s.slots ++ v.cardSlots ++ v.clozeSlots ++ [some (.matching m)]) p c := by
  unfold matchingSteps HasMatching
  cases s.matching? (s.vocabularies (bullets.filter (·.kind = .vocabulary))) with
  | none => simp
  | some m =>
    simp only [List.exists_mem_cons_iff, Step.not_register_asks, false_or, List.mem_map,
      exists_exists_and_eq_and, mem_vocabularies_iff, Step.link_asks_iff, group]
    constructor
    · rintro ⟨v, hv, hasks⟩
      exact ⟨m, v, rfl, hv, hasks⟩
    · rintro ⟨m', v, hm, hv, hasks⟩
      obtain rfl := Option.some.inj hm
      exact ⟨v, hv, hasks⟩

/-- A plan asks for what its sentence credits. -/
theorem exists_part_asks_iff {known : Bool} :
    (∃ part ∈ s.plan known bullets, part.Asks p c) ↔ s.Credits bullets p c := by
  have hfills : (∃ part ∈ (bullets.filter (·.kind = .fill)).map
      (fun bullet => ⟨some bullet, s.fillSteps bullet⟩), Part.Asks part p c) ↔
      ∃ cloze, s.HasFill bullets cloze ∧ ∃ card ∈ s.quizzes,
        card.id = p ∧ (Quiz.cloze cloze).id = c ∨ (Quiz.cloze cloze).id = p ∧ card.id = c := by
    simp only [List.mem_map, exists_exists_and_eq_and, fillPart_asks_iff, HasFill, List.mem_filter,
      decide_eq_true_eq]
    constructor
    · rintro ⟨bullet, ⟨hbullet, hkind⟩, cloze, hcloze, hasks⟩
      exact ⟨cloze, ⟨bullet, hbullet, hkind, hcloze⟩, hasks⟩
    · rintro ⟨cloze, ⟨bullet, hbullet, hkind, hcloze⟩, hasks⟩
      exact ⟨bullet, ⟨hbullet, hkind⟩, cloze, hcloze, hasks⟩
  have hitems : (∃ part ∈ s.vocabularyParts known (bullets.filter (·.kind = .vocabulary)),
      part.Asks p c) ↔ ∃ v, s.HasItem bullets v ∧
        sentencePolicy.Asks (s.slots ++ v.cardSlots ++ v.clozeSlots) p c := by
    simp only [vocabularyParts_asks_iff, HasItem, List.mem_filter, decide_eq_true_eq]
    constructor
    · rintro ⟨bullet, ⟨hbullet, hkind⟩, v, hv, hasks⟩
      exact ⟨v, ⟨bullet, hbullet, hkind, hv⟩, hasks⟩
    · rintro ⟨v, ⟨bullet, hbullet, hkind, hv⟩, hasks⟩
      exact ⟨bullet, ⟨hbullet, hkind⟩, v, hv, hasks⟩
  have hok : ∀ steps : List Step, Part.Asks ⟨none, .ok steps⟩ p c ↔
      ∃ step ∈ steps, step.Asks p c := fun steps => by simp [Part.Asks]
  rw [plan]
  simp only [List.mem_append, or_and_right, exists_or, List.exists_mem_cons_iff, hfills, hitems,
    List.mem_singleton, exists_eq_left, hok, exists_headerStep_asks_iff, matchingSteps_asks_iff]
  constructor
  · rintro (((h | ⟨cloze, hcloze, card, hcard, ⟨rfl, rfl⟩ | ⟨rfl, rfl⟩⟩) | ⟨v, hv, h⟩) |
      ⟨m, v, hm, hv, h⟩)
    · exact .header h
    · exact .toFill hcloze hcard
    · exact .fromFill hcloze hcard
    · exact .item hv h
    · exact .matching hm hv h
  · intro h
    cases h with
    | header h => exact Or.inl (Or.inl (Or.inl h))
    | item hv h => exact Or.inl (Or.inr ⟨_, hv, h⟩)
    | matching hm hv h => exact Or.inr ⟨_, _, hm, hv, h⟩
    | toFill hcloze hcard =>
      exact Or.inl (Or.inl (Or.inr ⟨_, hcloze, _, hcard, Or.inl ⟨rfl, rfl⟩⟩))
    | fromFill hcloze hcard =>
      exact Or.inl (Or.inl (Or.inr ⟨_, hcloze, _, hcard, Or.inr ⟨rfl, rfl⟩⟩))

/-- The edges of a plan that is carried out are those that its sentence credits. -/
theorem brings_edges_plan {known : Bool} {d : Contribution}
    (hd : Contribution.collect ((s.plan known bullets).map Part.contribution) = .ok d) :
    OrderedMap.Brings d.edges p c ↔ p ≠ c ∧ s.Credits bullets p c := by
  have hparts : OrderedMap.Brings d.edges p c ↔
      ∃ part ∈ s.plan known bullets, p ≠ c ∧ part.Asks p c :=
    Contribution.brings_edges_collect (fun ha => Part.brings_edges ha) hd
  rw [hparts, ← exists_part_asks_iff]
  constructor
  · rintro ⟨part, hpart, hne, hasks⟩
    exact ⟨hne, part, hpart, hasks⟩
  · rintro ⟨hne, part, hpart, hasks⟩
    exact ⟨part, hpart, hne, hasks⟩

end Sentence

/-! ## A header that stands alone -/

section Alone

variable {s : Sentence} {p c : QuizId}

/-- Among the cards of a sentence, each of the first two is credited by the other two. -/
theorem get_sentencePolicy_header :
    ∀ i < 3, ∀ j < 3, sentencePolicy.get j i = decide (j < 2 ∧ i ≠ j) := by
  decide

theorem Sentence.getElem?_headerGroup {i : Nat} {quiz : Quiz} :
    (s.slots ++ Trio.noSlots ++ Trio.noSlots)[i]? = some (some quiz) ↔
      i < 3 ∧ s.slots[i]? = some (some quiz) := by
  have hlength : s.slots.length = 3 := by simp [slots]
  rw [List.append_assoc]
  by_cases hi : i < 3
  · rw [List.getElem?_append_left (by omega)]
    simp [hi]
  · rw [List.getElem?_append_right (by omega), hlength]
    have hnone : ∀ k : Nat,
        (Trio.noSlots ++ Trio.noSlots : List (Option Quiz))[k]? ≠ some (some quiz) := by
      intro k hk
      have hmem := List.mem_of_getElem? hk
      simp [Trio.noSlots] at hmem
    simp [hi, hnone]

theorem Sentence.header_asks_iff :
    sentencePolicy.Asks (s.slots ++ Trio.noSlots ++ Trio.noSlots) p c ↔
      ∃ i j parent child, j < 2 ∧ i ≠ j ∧ s.slots[i]? = some (some parent) ∧
        s.slots[j]? = some (some child) ∧ parent.id = p ∧ child.id = c := by
  have hlength : s.slots.length = 3 := by simp [slots]
  unfold Matrix.Asks
  simp only [getElem?_headerGroup]
  constructor
  · rintro ⟨i, j, parent, child, hcell, ⟨hi, hparent⟩, ⟨hj, hchild⟩, hids⟩
    rw [get_sentencePolicy_header i hi j hj, decide_eq_true_eq] at hcell
    exact ⟨i, j, parent, child, hcell.1, hcell.2, hparent, hchild, hids⟩
  · rintro ⟨i, j, parent, child, hj, hij, hparent, hchild, hids⟩
    have hi : i < s.slots.length := (List.getElem?_eq_some_iff.1 hparent).1
    have hcell : sentencePolicy.get j i = true := by
      rw [get_sentencePolicy_header i (by omega) j (by omega), decide_eq_true_eq]
      exact ⟨hj, hij⟩
    exact ⟨i, j, parent, child, hcell, ⟨by omega, hparent⟩, ⟨by omega, hchild⟩, hids⟩

theorem Sentence.credits_iff_of_alone {bullets : List Bullet}
    (h : ∀ bullet ∈ bullets, bullet.kind ≠ .fill ∧ bullet.kind ≠ .vocabulary) :
    s.Credits bullets p c ↔ sentencePolicy.Asks (s.slots ++ Trio.noSlots ++ Trio.noSlots) p c := by
  constructor
  · intro hcredits
    cases hcredits with
    | header h => exact h
    | item hv _ =>
      obtain ⟨bullet, hbullet, hkind, -⟩ := hv
      exact absurd hkind (h bullet hbullet).2
    | matching _ hv _ =>
      obtain ⟨bullet, hbullet, hkind, -⟩ := hv
      exact absurd hkind (h bullet hbullet).2
    | toFill hcloze _ =>
      obtain ⟨bullet, hbullet, hkind, -⟩ := hcloze
      exact absurd hkind (h bullet hbullet).1
    | fromFill hcloze _ =>
      obtain ⟨bullet, hbullet, hkind, -⟩ := hcloze
      exact absurd hkind (h bullet hbullet).1
  · exact .header

/-- The edges among three cards of the sentence. -/
theorem Sentence.header_asks_iff_of_three {first prompted answered : Quiz}
    (h : s.slots = [some first, some prompted, some answered]) :
    sentencePolicy.Asks (s.slots ++ Trio.noSlots ++ Trio.noSlots) p c ↔
      (p, c) ∈ [(prompted.id, first.id), (answered.id, first.id), (first.id, prompted.id),
        (answered.id, prompted.id)] := by
  rw [header_asks_iff, h]
  simp only [List.mem_cons, Prod.mk.injEq, List.not_mem_nil, or_false]
  constructor
  · rintro ⟨i, j, parent, child, hj, hij, hparent, hchild, rfl, rfl⟩
    have hi : i < 3 := (List.getElem?_eq_some_iff.1 hparent).1
    interval_cases i <;> interval_cases j <;> simp_all
  · rintro (⟨rfl, rfl⟩ | ⟨rfl, rfl⟩ | ⟨rfl, rfl⟩ | ⟨rfl, rfl⟩)
    · exact ⟨1, 0, prompted, first, by simp⟩
    · exact ⟨2, 0, answered, first, by simp⟩
    · exact ⟨0, 1, first, prompted, by simp⟩
    · exact ⟨2, 1, answered, prompted, by simp⟩

theorem Sentence.not_header_asks_of_one {first : Quiz} (h : s.slots = [some first, none, none]) :
    ¬sentencePolicy.Asks (s.slots ++ Trio.noSlots ++ Trio.noSlots) p c := by
  rw [header_asks_iff, h]
  rintro ⟨i, j, parent, child, hj, hij, hparent, hchild, -⟩
  have hi : i < 3 := (List.getElem?_eq_some_iff.1 hparent).1
  interval_cases i <;> interval_cases j <;> simp_all

end Alone

/-! ## Counting -/

namespace Graph

variable {g : Graph}

theorem nodup_edgeList (g : Graph) : g.edgeList.Nodup := by
  refine List.nodup_flatMap.2 ⟨fun e _ => ?_, ?_⟩
  · exact e.2.nodup.map fun a b hab => (Prod.mk.inj hab).2
  · refine (List.pairwise_map.1 g.edges.nodup_keys).imp fun {e f} hef pair he hf => ?_
    obtain ⟨a, -, rfl⟩ := List.mem_map.1 he
    obtain ⟨b, -, hb⟩ := List.mem_map.1 hf
    exact hef (Prod.mk.inj hb).1.symm

theorem perm_edgeList {pairs : List (QuizId × QuizId)} (hpairs : pairs.Nodup)
    (h : ∀ p c, c ∈ g.children p ↔ (p, c) ∈ pairs) : g.edgeList.Perm pairs := by
  refine (List.perm_ext_iff_of_nodup g.nodup_edgeList hpairs).2 fun pair => ?_
  obtain ⟨p, c⟩ := pair
  rw [mem_edgeList_iff, ← mem_children_iff]
  exact h p c

theorem WellFormed.perm_parents (hg : g.WellFormed) {parents : List QuizId}
    (hparents : parents.Nodup) (h : ∀ p, (∃ c, c ∈ g.children p) ↔ p ∈ parents) :
    g.edges.keys.Perm parents := by
  refine (List.perm_ext_iff_of_nodup g.edges.nodup_keys' hparents).2 fun p => ?_
  rw [OrderedMap.mem_keys_iff_exists_relates fun e he => (hg.edge e he).2.2.1, ← h p]
  simp only [mem_children_iff]

/-- Each of three nodes is a parent, and the first two are children of the other two. -/
theorem WellFormed.counts_of_three (hg : g.WellFormed) {x y z : QuizId}
    (hnodup : [x, y, z].Nodup)
    (h : ∀ p c, c ∈ g.children p ↔ (p, c) ∈ [(y, x), (z, x), (x, y), (z, y)]) :
    g.edgeCount = 4 ∧ g.parentCount = 3 ∧
      ∀ p c, c ∈ g.children p → p ∈ [x, y, z] ∧ c ∈ [x, y, z] := by
  have hpairs : [(y, x), (z, x), (x, y), (z, y)].Nodup := by
    simp only [List.nodup_cons, List.mem_cons, List.not_mem_nil, or_false, not_or] at hnodup
    obtain ⟨⟨hxy, hxz⟩, hyz, -⟩ := hnodup
    simp [hxy, hxz, hyz, Ne.symm hxy, Ne.symm hxz]
  have hparents : ∀ p, (∃ c, c ∈ g.children p) ↔ p ∈ [x, y, z] := by
    intro p
    simp only [h, List.mem_cons, Prod.mk.injEq, List.not_mem_nil, or_false]
    constructor
    · rintro ⟨c, ⟨rfl, -⟩ | ⟨rfl, -⟩ | ⟨rfl, -⟩ | ⟨rfl, -⟩⟩ <;> simp
    · rintro (rfl | rfl | rfl)
      · exact ⟨y, by simp⟩
      · exact ⟨x, by simp⟩
      · exact ⟨x, by simp⟩
  have hkeys := (hg.perm_parents hnodup hparents).length_eq
  rw [OrderedMap.keys, List.length_map] at hkeys
  refine ⟨(perm_edgeList hpairs h).length_eq, hkeys, fun p c hc => ?_⟩
  rw [h] at hc
  simp only [List.mem_cons, Prod.mk.injEq, List.not_mem_nil, or_false] at hc ⊢
  rcases hc with ⟨rfl, rfl⟩ | ⟨rfl, rfl⟩ | ⟨rfl, rfl⟩ | ⟨rfl, rfl⟩ <;> simp

/-- A block that is compiled alone has a sentence, and exactly the edges that the sentence
credits, or no sentence and nothing at all. -/
theorem compileBlock_empty_cases {file : Nat} {block : Block}
    (h : empty.compileBlock file block = .ok g) :
    (block.sentence? = none ∧ g = empty) ∨ ∃ s, block.sentence? = some (.ok s) ∧
      ∀ p c, c ∈ g.children p ↔ p ≠ c ∧ s.Credits block.bullets p c := by
  rcases compileBlock_ok_cases h with hnone | ⟨s, d, hs, hd, rfl⟩
  · exact Or.inl hnone
  · refine Or.inr ⟨s, hs, fun p c => ?_⟩
    have hempty : ¬empty.edges.Relates p c := OrderedMap.not_relates_empty
    rw [mem_children_iff, relates_edges_add, Sentence.brings_edges_plan hd]
    simp only [hempty, false_or]

/-- The edges of a block that is compiled alone are exactly those of its policies, those from a quiz
to itself left out. Without fill and vocabulary bullets there are none if the item of the header is
its own response, and else four edges from three parents among three different cards. -/
theorem mem_children_of_compileBlock {file : Nat} {block : Block}
    (h : empty.compileBlock file block = .ok g) :
    (block.sentence? = none ∧ g = empty) ∨ ∃ s, block.sentence? = some (.ok s) ∧
      (∀ p c, c ∈ g.children p ↔ p ≠ c ∧ s.Credits block.bullets p c) ∧
      ((∀ bullet ∈ block.bullets, bullet.kind ≠ .fill ∧ bullet.kind ≠ .vocabulary) →
        (s.item.responses = [s.item.prompt] → g.edgeCount = 0) ∧
        (s.item.responses ≠ [s.item.prompt] → g.edgeCount = 4 ∧ g.parentCount = 3 ∧
          ∃ first prompted answered : Card,
            s.slots = [some (.card first), some (.card prompted), some (.card answered)] ∧
            [(Quiz.card first).id, (Quiz.card prompted).id, (Quiz.card answered).id].Nodup ∧
            ∀ p c, c ∈ g.children p →
              p ∈ [(Quiz.card first).id, (Quiz.card prompted).id, (Quiz.card answered).id] ∧
              c ∈ [(Quiz.card first).id, (Quiz.card prompted).id, (Quiz.card answered).id])) := by
  rcases compileBlock_empty_cases h with hnone | ⟨s, hs, hchildren⟩
  · exact Or.inl hnone
  refine Or.inr ⟨s, hs, hchildren, fun halone => ?_⟩
  obtain ⟨header, content, -, -, hreads⟩ := Block.exists_reads_of_sentence? hs
  have hasks : ∀ p c, c ∈ g.children p ↔ p ≠ c ∧
      sentencePolicy.Asks (s.slots ++ Trio.noSlots ++ Trio.noSlots) p c := by
    intro p c
    rw [hchildren, Sentence.credits_iff_of_alone halone]
  refine ⟨fun htrivial => ?_, fun htrivial => ?_⟩
  · obtain ⟨card, hslots⟩ := hreads.slots_of_trivial htrivial
    have hnone : ∀ p c, c ∈ g.children p ↔ (p, c) ∈ ([] : List (QuizId × QuizId)) := by
      intro p c
      rw [hasks]
      have hnot := Sentence.not_header_asks_of_one hslots (p := p) (c := c)
      exact iff_of_false (fun hpc => hnot hpc.2) List.not_mem_nil
    exact (perm_edgeList List.nodup_nil hnone).length_eq
  · obtain ⟨first, prompted, answered, hslots, hnodup⟩ := hreads.slots_of_not_trivial htrivial
    have hpairs : ∀ p c, c ∈ g.children p ↔
        (p, c) ∈ [((Quiz.card prompted).id, (Quiz.card first).id),
          ((Quiz.card answered).id, (Quiz.card first).id),
          ((Quiz.card first).id, (Quiz.card prompted).id),
          ((Quiz.card answered).id, (Quiz.card prompted).id)] := by
      intro p c
      rw [hasks, Sentence.header_asks_iff_of_three hslots, and_iff_right_iff_imp]
      simp only [List.nodup_cons, List.mem_cons, List.not_mem_nil, or_false, not_or] at hnodup
      obtain ⟨⟨hxy, hxz⟩, hyz, -⟩ := hnodup
      simp only [List.mem_cons, Prod.mk.injEq, List.not_mem_nil, or_false]
      rintro (⟨rfl, rfl⟩ | ⟨rfl, rfl⟩ | ⟨rfl, rfl⟩ | ⟨rfl, rfl⟩)
      · exact Ne.symm hxy
      · exact Ne.symm hxz
      · exact hxy
      · exact Ne.symm hyz
    obtain ⟨hedges, hparents, hends⟩ :=
      (wellFormed_empty.compileBlock h).counts_of_three hnodup hpairs
    exact ⟨hedges, hparents, first, prompted, answered, hslots, hnodup, hends⟩

/-- A header that stands alone, and a header with a blank and an item that gives a matching. -/
theorem mem_children_of_compileBlock_with_matching :
    let alone := Block.ofLines ["# @ a @ b".toList]
    let block := Block.ofLines ["# @ ab @ c".toList, "- @fill a".toList,
      "- @ b @ d @furigana e @t-en f".toList]
    (∃ g, empty.compileBlock 0 alone = .ok g ∧ g.edgeCount = 4 ∧ g.parentCount = 3) ∧
    ∃ g s, empty.compileBlock 0 block = .ok g ∧ block.sentence? = some (.ok s) ∧
      g.countKind .matching = 1 ∧
      ∀ p c, c ∈ g.children p ↔ p ≠ c ∧ s.Credits block.bullets p c := by
  intro alone block
  obtain ⟨g, hg⟩ : ∃ g, empty.compileBlock 0 alone = .ok g :=
    exists_eq_ok_of_isSome (by decide +kernel)
  obtain ⟨g', hg'⟩ : ∃ g, empty.compileBlock 0 block = .ok g :=
    exists_eq_ok_of_isSome (by decide +kernel)
  have hitem : (alone.sentence?.bind Except.toOption).map Sentence.item =
      some ⟨"a", ["b".toList]⟩ := by decide +kernel
  have hbullets : alone.bullets = [] := by decide +kernel
  have hsentence : block.sentence?.isSome = true := by decide +kernel
  have hcount : ((empty.compileBlock 0 block).toOption.map (·.countKind .matching)) = some 1 := by
    decide +kernel
  constructor
  · rcases mem_children_of_compileBlock hg with ⟨hnone, -⟩ | ⟨s, hs, -, halone⟩
    · simp [hnone] at hitem
    · have hs' : s.item = ⟨"a", ["b".toList]⟩ := by simpa [hs, Except.toOption] using hitem
      have hfour := (halone (by simp [hbullets])).2 (by rw [hs']; decide)
      exact ⟨g, hg, hfour.1, hfour.2.1⟩
  · rcases mem_children_of_compileBlock hg' with ⟨hnone, -⟩ | ⟨s, hs, hchildren, -⟩
    · simp [hnone] at hsentence
    · rw [hg'] at hcount
      exact ⟨g', s, hg', hs, Option.some.inj hcount, hchildren⟩

end Graph

end StudyGraph
