import Mathlib.Data.List.Basic
import StudyGraph.Proofs.Line
import StudyGraph.Proofs.Run
import StudyGraph.Proofs.Sentence
import StudyGraph.Readers.Markdown.Heading

/-!
# The faults of a block

What is wrong with a bullet depends on the item of the sentence and on the bullet alone
(`Bullet.cause?`). A block looks at its header first, then at the first bullet for the reading, at
the fill bullets and at the vocabulary bullets (`Block.examined`), and `Block.faults` lists the
faults it meets. Contributions are collected up to the first fault (`Contribution.fault_collect`),
and a policy fits every group it links (`Step.Fits`), so a block fails with the first of its
faults in every graph (`Block.fault_contribution`, `Block.failure?_eq`). Each fault names a line
of the block that can have it (`Block.blames_of_mem_faults`), and this line stands in the source
(`Graph.line_of_failure`).
-/

set_option linter.unusedSectionVars false

namespace StudyGraph

/-- The fault that an outcome ends in. -/
def Fault.of? {α : Type} : Except Fault α → Option Fault
  | .ok _ => none
  | .error fault => some fault

@[simp] theorem Fault.of?_ok {α : Type} (a : α) : of? (.ok a : Except Fault α) = none := rfl

@[simp] theorem Fault.of?_error {α : Type} (fault : Fault) :
    of? (.error fault : Except Fault α) = some fault := rfl

@[simp] theorem Fault.of?_map {α β : Type} (f : α → β) (x : Except Fault α) :
    of? (x.map f) = of? x := by
  cases x <;> rfl

/-! ## What is wrong with a bullet -/

/-- What is wrong with a reading. -/
def Furigana.cause? (t : Text) : Option Cause :=
  match parse t with
  | .ok _ => none
  | .error e => some (.badFurigana e)

/-- What is wrong with a locator in a sentence. -/
def Cut.cause? (sentence locator : Text) : Option Cause :=
  match locate sentence locator with
  | .ok _ => none
  | .error e => some (.cut e)

/-- Where a vocabulary item is blanked out of a sentence : at its marker `@omit`, or at its prompt
if the sentence has it. -/
def Fields.locatorIn? (fields : Fields) (sentence : Text) : Option Text :=
  match (fields.marker "omit").filter (!·.isEmpty) with
  | some marked => some marked
  | none => if Text.contains fields.first sentence then some fields.first else none

namespace Bullet

/-- What is wrong with a fill bullet. -/
def fillCause? (item : Item) (bullet : Bullet) : Option Cause :=
  if bullet.fields.first.isEmpty then some .noBlank
  else Cut.cause? item.prompt bullet.fields.first

/-- What is wrong with a vocabulary bullet. A bullet that repeats the item is not blanked. -/
def vocabularyCause? (item : Item) (bullet : Bullet) : Option Cause :=
  if bullet.fields.first.isEmpty then some .noPrompt
  else ((bullet.fields.marker "furigana").bind Furigana.cause?).or <|
    if bullet.fields.item = item then none
    else (bullet.fields.locatorIn? item.prompt).bind (Cut.cause? item.prompt)

/-- What is wrong with a bullet of a sentence with this item. -/
def cause? (item : Item) (bullet : Bullet) : Option Cause :=
  match bullet.kind with
  | .furigana => Furigana.cause? bullet.content.trim
  | .fill => bullet.fillCause? item
  | .vocabulary => bullet.vocabularyCause? item
  | .translation => none
  | .unknown => none

/-- What is wrong with a bullet, on its line. -/
def fault? (item : Item) (bullet : Bullet) : Option Fault :=
  (bullet.cause? item).map (⟨·, bullet.line⟩)

variable {item : Item} {bullet : Bullet} {cause : Cause}

theorem cause_of_furigana {t : Text} (h : Furigana.cause? t = some cause) :
    ∃ e, cause = .badFurigana e := by
  unfold Furigana.cause? at h
  split at h
  · cases h
  · exact ⟨_, (Option.some.inj h).symm⟩

theorem cause_of_cut {sentence locator : Text} (h : Cut.cause? sentence locator = some cause) :
    ∃ e, cause = .cut e := by
  unfold Cut.cause? at h
  split at h
  · cases h
  · exact ⟨_, (Option.some.inj h).symm⟩

theorem cause_of_fill (h : bullet.fillCause? item = some cause) :
    cause = .noBlank ∨ ∃ e, cause = .cut e := by
  unfold fillCause? at h
  split at h
  · exact Or.inl (Option.some.inj h).symm
  · exact Or.inr (cause_of_cut h)

theorem cause_of_vocabulary (h : bullet.vocabularyCause? item = some cause) :
    cause = .noPrompt ∨ (∃ e, cause = .badFurigana e) ∨ ∃ e, cause = .cut e := by
  unfold vocabularyCause? at h
  split at h
  · exact Or.inl (Option.some.inj h).symm
  · rcases Option.or_eq_some_iff.1 h with h | ⟨-, h⟩
    · obtain ⟨t, -, ht⟩ := Option.bind_eq_some_iff.1 h
      exact Or.inr (Or.inl (cause_of_furigana ht))
    · split at h
      · cases h
      · obtain ⟨locator, -, hlocator⟩ := Option.bind_eq_some_iff.1 h
        exact Or.inr (Or.inr (cause_of_cut hlocator))

end Bullet

/-! ## What is wrong with a block -/

namespace Block

/-- The bullets that can be at fault, in the order in which they are looked at : the first for the
reading, those for blanks, and the vocabulary. -/
def examined (bullets : List Bullet) : List Bullet :=
  (bullets.find? (·.kind = .furigana)).toList ++ bullets.filter (·.kind = .fill) ++
    bullets.filter (·.kind = .vocabulary)

/-- The faults of a header with this content and of its bullets. -/
def faultsOf (header : Line) (content : Text) (bullets : List Bullet) : List Fault :=
  let fields := Fields.ofText content
  (if fields.first.isEmpty then [⟨.missingPrompt, header⟩] else []) ++
    (examined bullets).filterMap (Bullet.fault? fields.item)

/-- The faults of the block, in the order in which it is looked at. -/
def faults (block : Block) : List Fault :=
  match block.header? with
  | none => []
  | some header =>
    match headerContent? header.text with
    | none => []
    | some content => faultsOf header content block.bullets

end Block

/-! ## Sentences -/

namespace Sentence

variable {s : Sentence} {bullet : Bullet} {bullets : List Bullet}

theorem fault_readFurigana (line : Line) (t : Text) :
    Fault.of? (readFurigana line t) = (Furigana.cause? t).map (⟨·, line⟩) := by
  unfold readFurigana Furigana.cause?
  cases Furigana.parse t <;> rfl

theorem fault_cutAt (locator : Text) (line : Line) :
    Fault.of? (s.cutAt locator line) = (Cut.cause? s.item.prompt locator).map (⟨·, line⟩) := by
  unfold cutAt Cut.cause?
  cases Cut.locate s.item.prompt locator <;> rfl

theorem fault_ledeOf (item : Item) (bullets : List Bullet) :
    Fault.of? (ledeOf bullets) =
      (bullets.find? (·.kind = .furigana)).bind (Bullet.fault? item) := by
  unfold ledeOf
  cases hfind : bullets.find? (·.kind = .furigana) with
  | none => rfl
  | some bullet =>
    have hkind : bullet.kind = .furigana := by simpa using List.find?_some hfind
    simp only [Fault.of?_map, fault_readFurigana, Option.bind_some, Bullet.fault?, Bullet.cause?,
      hkind]

/-- A sentence that cannot be read lacks its prompt, or its reading is at fault. -/
theorem fault_read (header : Line) (content : Text) (bullets : List Bullet) :
    Fault.of? (read header content bullets) =
      if (Fields.ofText content).first.isEmpty then some ⟨.missingPrompt, header⟩
      else (bullets.find? (·.kind = .furigana)).bind
        (Bullet.fault? (Fields.ofText content).item) := by
  rw [← fault_ledeOf]
  simp only [read, bind, Except.bind, pure, Except.pure]
  split
  · rfl
  · cases ledeOf bullets <;> rfl

theorem fault_fillSteps (h : bullet.kind = .fill) :
    Fault.of? (s.fillSteps bullet) = bullet.fault? s.item := by
  have hcloze : Fault.of? (s.fillSteps bullet) = Fault.of? (s.fillCloze bullet) := by
    unfold fillSteps
    cases s.fillCloze bullet <;> rfl
  rw [hcloze]
  simp only [fillCloze, Bullet.fault?, Bullet.cause?, h, Bullet.fillCause?, bind, Except.bind, pure,
    Except.pure]
  split
  · rfl
  · have hcut := fault_cutAt (s := s) bullet.fields.first bullet.line
    rw [← hcut]
    cases s.cutAt bullet.fields.first bullet.line <;> rfl

theorem fault_markedFurigana (fields : Fields) (line : Line) :
    Fault.of? (markedFurigana fields line) =
      ((fields.marker "furigana").bind Furigana.cause?).map (⟨·, line⟩) := by
  unfold markedFurigana
  cases fields.marker "furigana" with
  | none => rfl
  | some t => simp only [Fault.of?_map, fault_readFurigana, Option.bind_some]

theorem fault_vocabularyClozes (fields : Fields) (trivial : Bool) (line : Line) :
    Fault.of? (s.vocabularyClozes fields trivial line) =
      ((fields.locatorIn? s.item.prompt).bind (Cut.cause? s.item.prompt)).map (⟨·, line⟩) := by
  have hlocator : s.locator? fields = fields.locatorIn? s.item.prompt := rfl
  unfold vocabularyClozes
  rw [hlocator]
  cases fields.locatorIn? s.item.prompt with
  | none => rfl
  | some locator =>
    rw [Option.bind_some, ← fault_cutAt]
    cases hcut : s.cutAt locator line <;> simp [hcut, bind, Except.bind, pure, Except.pure]

theorem fault_entry (h : bullet.kind = .vocabulary) :
    Fault.of? (s.entry bullet) = bullet.fault? s.item := by
  simp only [entry, Bullet.fault?, Bullet.cause?, h, Bullet.vocabularyCause?, bind, Except.bind,
    pure, Except.pure]
  split
  · rfl
  · rw [Option.map_or, ← fault_markedFurigana]
    cases markedFurigana bullet.fields bullet.line with
    | error fault => rfl
    | ok lede =>
      dsimp only
      rw [Fault.of?_ok, Option.none_or]
      split
      · rfl
      · split
        · next fault hclozes =>
          exact (congrArg Fault.of? hclozes).symm.trans (fault_vocabularyClozes ..)
        · next clozes hclozes =>
          exact (congrArg Fault.of? hclozes).symm.trans (fault_vocabularyClozes ..)

end Sentence

/-! ## Steps that fit -/

/-- If the step links a group, the policy fits the group. -/
def Step.Fits : Step → Prop
  | register _ _ => True
  | credit _ _ => True
  | link policy group _ => policy.Fits group

theorem Step.exists_contribution_of_fits {step : Step} (h : step.Fits) :
    ∃ c, step.contribution = .ok c := by
  cases step with
  | register raw quiz => exact ⟨_, rfl⟩
  | credit parent child => exact ⟨_, rfl⟩
  | link policy group line => exact ⟨_, if_pos h⟩

/-- What is collected fails with the first fault. -/
theorem Contribution.fault_collect : ∀ xs : List (Except Fault Contribution),
    Fault.of? (collect xs) = (xs.filterMap Fault.of?).head?
  | [] => rfl
  | .error fault :: xs => rfl
  | .ok c :: xs => by
    rw [collect, Fault.of?_map, fault_collect xs]
    rfl

/-- A part whose steps fit fails only if its bullet is at fault. -/
theorem Part.fault_contribution {part : Part}
    (h : ∀ steps, part.steps = .ok steps → ∀ step ∈ steps, step.Fits) :
    Fault.of? part.contribution = Fault.of? part.steps := by
  unfold contribution
  cases hsteps : part.steps with
  | error fault => rfl
  | ok steps =>
    simp only [Except.bind]
    rw [Contribution.fault_collect, Fault.of?_ok, List.head?_eq_none_iff, List.filterMap_eq_nil_iff]
    intro x hx
    obtain ⟨step, hstep, rfl⟩ := List.mem_map.1 hx
    obtain ⟨c, hc⟩ := Step.exists_contribution_of_fits (h steps hsteps step hstep)
    rw [hc, Fault.of?_ok]

theorem Vocabulary.length_clozeSlots (v : Vocabulary) : v.clozeSlots.length = 3 := by
  unfold clozeSlots
  split <;> simp [Trio.noSlots]

namespace Sentence

variable {s : Sentence} {bullets : List Bullet}

@[simp] theorem length_slots : s.slots.length = 3 := by
  simp [slots]

theorem length_group (v : Vocabulary) : (s.group v).length = sentenceSlots := by
  simp [group, Vocabulary.cardSlots, v.length_clozeSlots, sentenceSlots]

theorem fits_of_mem_headerSteps {step : Step} (h : step ∈ s.headerSteps) : step.Fits := by
  rcases cases_of_mem_headerSteps h with ⟨quiz, -, rfl⟩ | rfl
  · trivial
  · have hlength : (s.slots ++ Trio.noSlots ++ Trio.noSlots).length = sentenceSlots := by
      simp [Trio.noSlots, sentenceSlots]
    exact ⟨height_sentencePolicy.trans hlength.symm, width_sentencePolicy.trans hlength.symm⟩

theorem fits_of_mem_fillSteps {bullet : Bullet} {steps : List Step}
    (h : s.fillSteps bullet = .ok steps) {step : Step} (hstep : step ∈ steps) : step.Fits := by
  obtain ⟨cloze, -, rfl | ⟨card, -, rfl | rfl⟩⟩ := cases_of_mem_fillSteps h hstep
  all_goals trivial

theorem fits_of_mem_entrySteps {known : Bool} {entry : Entry} {step : Step}
    (h : step ∈ s.entrySteps known entry) : step.Fits := by
  cases entry with
  | «repeats» partOfSpeech =>
    obtain ⟨card, rfl⟩ := exists_card_of_mem_repeats h
    trivial
  | vocabulary v =>
    rcases cases_of_mem_vocabularySteps h with ⟨quiz, -, rfl⟩ | rfl
    · trivial
    · have hlength := s.length_group v
      exact ⟨height_sentencePolicy.trans hlength.symm, width_sentencePolicy.trans hlength.symm⟩

theorem fits_of_mem_matchingSteps {vocabularies : List Vocabulary} {step : Step}
    (h : step ∈ s.matchingSteps vocabularies) : step.Fits := by
  obtain ⟨matching, -, rfl | ⟨v, -, rfl⟩⟩ := cases_of_mem_matchingSteps h
  · trivial
  · have hlength : (s.group v ++ [some (Quiz.matching matching)]).length = matchingSlots := by
      rw [List.length_append, length_group]
      rfl
    exact ⟨height_matchingPolicy.trans hlength.symm, width_matchingPolicy.trans hlength.symm⟩

/-! ## Plans -/

theorem fault_steps {bullet : Option Bullet} {steps : List Step}
    (h : ∀ step ∈ steps, step.Fits) : Fault.of? (Part.contribution ⟨bullet, .ok steps⟩) = none := by
  refine Part.fault_contribution fun steps' hsteps => ?_
  obtain rfl := Except.ok.inj hsteps
  exact h

theorem faults_fillParts {fills : List Bullet} (h : ∀ bullet ∈ fills, bullet.kind = .fill) :
    (fills.map fun bullet => Part.contribution ⟨some bullet, s.fillSteps bullet⟩).filterMap
      Fault.of? = fills.filterMap (Bullet.fault? s.item) := by
  rw [List.filterMap_map]
  refine List.filterMap_congr fun bullet hbullet => ?_
  rw [Function.comp_apply, Part.fault_contribution fun _ hsteps _ => fits_of_mem_fillSteps hsteps]
  exact fault_fillSteps (h bullet hbullet)

theorem faults_vocabularyParts : ∀ (known : Bool) {items : List Bullet},
    (∀ bullet ∈ items, bullet.kind = .vocabulary) →
    ((s.vocabularyParts known items).map Part.contribution).filterMap Fault.of? =
      items.filterMap (Bullet.fault? s.item)
  | _, [], _ => rfl
  | known, bullet :: items, h => by
    obtain ⟨hbullet, hitems⟩ := List.forall_mem_cons.1 h
    have hentry := fault_entry (s := s) hbullet
    rw [vocabularyParts, List.filterMap_cons, ← hentry]
    cases s.entry bullet with
    | error fault =>
      rw [List.map_cons, List.filterMap_cons, faults_vocabularyParts known hitems]
      rfl
    | ok entry =>
      rw [List.map_cons, List.filterMap_cons, fault_steps fun _ => fits_of_mem_entrySteps,
        faults_vocabularyParts _ hitems]
      rfl

/-- A plan fails with the first fault of its fill bullets and its vocabulary bullets. -/
theorem fault_plan (known : Bool) (bullets : List Bullet) :
    Fault.of? (Contribution.collect ((s.plan known bullets).map Part.contribution)) =
      ((bullets.filter (·.kind = .fill) ++ bullets.filter (·.kind = .vocabulary)).filterMap
        (Bullet.fault? s.item)).head? := by
  have hfills : ∀ bullet ∈ bullets.filter (·.kind = .fill), bullet.kind = .fill := by simp
  have hitems : ∀ bullet ∈ bullets.filter (·.kind = .vocabulary), bullet.kind = .vocabulary := by
    simp
  have hheader : Fault.of? (Part.contribution ⟨none, .ok s.headerSteps⟩) = none :=
    fault_steps fun _ => fits_of_mem_headerSteps
  have hmatching : ∀ vocabularies,
      Fault.of? (Part.contribution ⟨none, .ok (s.matchingSteps vocabularies)⟩) = none :=
    fun _ => fault_steps fun _ => fits_of_mem_matchingSteps
  rw [Contribution.fault_collect, plan]
  simp only [List.map_append, List.map_cons, List.map_nil, List.map_map, List.filterMap_append,
    List.filterMap_cons, List.filterMap_nil, hheader, hmatching, List.append_nil]
  rw [← faults_fillParts hfills, ← faults_vocabularyParts known hitems]
  rfl

end Sentence

/-! ## Blocks -/

namespace Block

variable {block : Block}

/-- The first fault is that of reading the sentence, or else that of the other bullets. -/
theorem head?_faultsOf (header : Line) (content : Text) (bullets : List Bullet) :
    (faultsOf header content bullets).head? =
      (Fault.of? (Sentence.read header content bullets)).or
        ((bullets.filter (·.kind = .fill) ++ bullets.filter (·.kind = .vocabulary)).filterMap
          (Bullet.fault? (Fields.ofText content).item)).head? := by
  rw [Sentence.fault_read]
  unfold faultsOf examined
  dsimp only
  split
  · rfl
  · rw [List.nil_append, List.append_assoc, List.filterMap_append, List.head?_append]
    cases bullets.find? (·.kind = .furigana) with
    | none => rfl
    | some bullet =>
      rw [Option.toList_some, Option.bind_some]
      cases hfault : Bullet.fault? (Fields.ofText content).item bullet with
      | none => rw [List.filterMap_cons_none hfault, List.filterMap_nil, List.head?_nil]
      | some fault => rw [List.filterMap_cons_some hfault, List.head?_cons]

/-- A block fails with the first of its faults, in every graph. -/
theorem fault_contribution (g : Graph) (block : Block) :
    Fault.of? (block.contribution g) = block.faults.head? := by
  unfold contribution plan? faults
  cases block.header? with
  | none => rfl
  | some header =>
    cases hcontent : headerContent? header.text with
    | none => simp [hcontent]
    | some content =>
      simp only [hcontent, Option.bind_eq_bind, Option.bind_some, Option.pure_def]
      rw [head?_faultsOf]
      cases hread : Sentence.read header content block.bullets with
      | error fault => rfl
      | ok s =>
        have hitem := (Sentence.reads_of_read hread).item_eq
        rw [Fault.of?_ok, Option.none_or, ← hitem]
        exact Sentence.fault_plan _ _

theorem failure?_eq (file : Nat) (block : Block) :
    failure? (file, block) = block.faults.head?.map (⟨·, file⟩) := by
  rw [← fault_contribution Graph.empty, failure?, Graph.compileBlock_eq]
  cases block.contribution Graph.empty <;> rfl

/-! ## Lines at fault -/

/-- A bullet of the block that is looked at stands on the line. -/
def HasBullet (block : Block) (kind : Bullet.Kind) (line : Line) : Prop :=
  ∃ bullet ∈ block.bullets, bullet.kind = kind ∧ bullet.line = line

/-- The line is one of those of the block that a cause can be about. -/
def Blames (block : Block) : Cause → Line → Prop
  | .missingPrompt, line => block.header? = some line
  | .badFurigana _, line =>
    (∃ bullet, block.bullets.find? (·.kind = .furigana) = some bullet ∧ bullet.line = line) ∨
      block.HasBullet .vocabulary line
  | .noBlank, line => block.HasBullet .fill line
  | .noPrompt, line => block.HasBullet .vocabulary line
  | .cut _, line => block.HasBullet .fill line ∨ block.HasBullet .vocabulary line
  | .size _, _ => False

theorem HasBullet.line_mem {kind : Bullet.Kind} {line : Line} (h : block.HasBullet kind line) :
    line ∈ block.lines := by
  obtain ⟨bullet, hbullet, -, rfl⟩ := h
  exact List.mem_of_mem_tail (Bullet.line_mem_of_mem_run hbullet)

theorem Blames.line_mem {cause : Cause} {line : Line} (h : block.Blames cause line) :
    line ∈ block.lines := by
  cases cause with
  | missingPrompt => exact mem_lines_of_header? h
  | badFurigana e =>
    rcases h with ⟨bullet, hfind, rfl⟩ | h
    · exact List.mem_of_mem_tail (Bullet.line_mem_of_mem_run (List.mem_of_find?_eq_some hfind))
    · exact h.line_mem
  | noBlank => exact HasBullet.line_mem h
  | noPrompt => exact HasBullet.line_mem h
  | cut e => exact h.elim HasBullet.line_mem HasBullet.line_mem
  | size e => exact h.elim

/-- What is wrong with a bullet that is looked at can be wrong with its line. -/
theorem blames_of_mem_examined {item : Item} {bullet : Bullet} {cause : Cause}
    (h : bullet ∈ examined block.bullets) (hcause : bullet.cause? item = some cause) :
    block.Blames cause bullet.line := by
  rcases List.mem_append.1 h with h | h
  · rcases List.mem_append.1 h with h | h
    · have hfind := Option.mem_toList.1 h
      have hkind : bullet.kind = .furigana := by simpa using List.find?_some hfind
      rw [Bullet.cause?, hkind] at hcause
      obtain ⟨e, rfl⟩ := Bullet.cause_of_furigana hcause
      exact Or.inl ⟨bullet, hfind, rfl⟩
    · obtain ⟨hbullet, hfill⟩ := List.mem_filter.1 h
      have hkind : bullet.kind = .fill := by simpa using hfill
      have hline : block.HasBullet .fill bullet.line := ⟨bullet, hbullet, hkind, rfl⟩
      rw [Bullet.cause?, hkind] at hcause
      rcases Bullet.cause_of_fill hcause with rfl | ⟨e, rfl⟩
      · exact hline
      · exact Or.inl hline
  · obtain ⟨hbullet, hvocabulary⟩ := List.mem_filter.1 h
    have hkind : bullet.kind = .vocabulary := by simpa using hvocabulary
    have hline : block.HasBullet .vocabulary bullet.line := ⟨bullet, hbullet, hkind, rfl⟩
    rw [Bullet.cause?, hkind] at hcause
    rcases Bullet.cause_of_vocabulary hcause with rfl | ⟨e, rfl⟩ | ⟨e, rfl⟩
    · exact hline
    · exact Or.inr hline
    · exact Or.inr hline

/-- A fault is on a line that its cause can be about. -/
theorem blames_of_mem_faults {fault : Fault} (h : fault ∈ block.faults) :
    block.Blames fault.cause fault.line := by
  unfold faults at h
  split at h
  · cases h
  · next header hheader =>
    split at h
    · cases h
    · rcases List.mem_append.1 h with h | h
      · split at h
        · obtain rfl := List.mem_singleton.1 h
          exact hheader
        · cases h
      · obtain ⟨bullet, hbullet, hfault⟩ := List.mem_filterMap.1 h
        obtain ⟨cause, hcause, rfl⟩ := Option.map_eq_some_iff.1 hfault
        exact blames_of_mem_examined hbullet hcause

end Block

namespace Graph

variable {g : Graph} {file : Nat} {failure : Failure}

/-! ## Sources -/

/-- A block fails in every graph with the first of its faults. -/
theorem head?_faults_of_compileBlock {block : Block}
    (h : g.compileBlock file block = .error failure) :
    failure.file = file ∧ block.faults.head? = some failure.toFault := by
  rw [compileBlock_eq_error_iff, Block.failure?_eq] at h
  obtain ⟨fault, hfault, rfl⟩ := Option.map_eq_some_iff.1 h
  exact ⟨rfl, hfault⟩

/-- A run stops at the first block that fails. -/
theorem exists_of_compileUntil {blocks : List Block}
    (h : (g.compileUntil file blocks).2 = some failure) :
    ∃ earlier block later, blocks = earlier ++ block :: later ∧
      (∀ b ∈ earlier, Block.failure? (file, b) = none) ∧
      Block.failure? (file, block) = some failure := by
  rw [(compileUntil_eq file g blocks).1, List.filterMap_map] at h
  obtain ⟨failures, hfailures⟩ := List.head?_eq_some_iff.1 h
  obtain ⟨earlier, block, later, hblocks, hearlier, hblock, -⟩ :=
    List.filterMap_eq_cons_iff.1 hfailures
  exact ⟨earlier, block, later, hblocks, hearlier, hblock⟩

/-- Every failure points at the line that caused it. A run over the blocks of a source stops at the
first block that fails, with the first fault of that block. The failure names the file and a line of
the block, which stands in the source and is one that the cause can be about. No block fails because
a policy does not fit its group. -/
theorem line_of_failure (headings : Text → List Nat) (g : Graph) (file : Nat) :
    (∀ source failure, (g.compileUntil file (Block.ofSource headings source)).2 = some failure →
      failure.file = file ∧
      failure.line.StandsIn source ∧ failure.line.stop ≤ source.byteSize ∧
      ∃ earlier block later, Block.ofSource headings source = earlier ++ block :: later ∧
        (∀ b ∈ earlier, Block.failure? (file, b) = none) ∧
        Block.failure? (file, block) = some failure ∧
        failure.line ∈ block.lines ∧ block.Blames failure.cause failure.line ∧
        block.faults.head? = some failure.toFault) ∧
    ∀ block failure, g.compileBlock file block = .error failure → ∀ e, failure.cause ≠ .size e := by
  constructor
  · intro source failure h
    obtain ⟨earlier, block, later, hblocks, hearlier, hblock⟩ := exists_of_compileUntil h
    have hfail : g.compileBlock file block = .error failure := compileBlock_eq_error_iff.2 hblock
    obtain ⟨hfile, hfault⟩ := head?_faults_of_compileBlock hfail
    have hblames := Block.blames_of_mem_faults (List.mem_of_mem_head? hfault)
    have hmem : block ∈ Block.ofSource headings source := by
      rw [hblocks]
      exact List.mem_append_right _ List.mem_cons_self
    have hline := Block.standsIn_of_mem_ofSource hmem hblames.line_mem
    exact ⟨hfile, hline, hline.stop_le, earlier, block, later, hblocks, hearlier, hblock,
      hblames.line_mem, hblames, hfault⟩
  · intro block failure h e hcause
    obtain ⟨-, hfault⟩ := head?_faults_of_compileBlock h
    have hblames := Block.blames_of_mem_faults (List.mem_of_mem_head? hfault)
    rw [hcause] at hblames
    exact hblames

/-- Behind a block that compiles, a blank that is not in its sentence is reported before a reading
that is at fault on an earlier line. -/
theorem line_of_failure_behind_reading :
    let source : Text := "# @ 私\r\n# @ 本\r\n- @ 机 @furigana \x7b\r\n- @fill 木"
    let blocks := Block.ofSource Markdown.headingStarts source
    let run := empty.compileUntil 3 blocks
    let failure : Failure := ⟨⟨.cut (.notFound "木"), ⟨"- @fill 木", 39⟩⟩, 3⟩
    run.2 = some failure ∧ run.1.size = 1 ∧ failure.line.StandsIn source ∧
      ∃ earlier block later, blocks = earlier ++ block :: later ∧
        block.Blames failure.cause failure.line ∧ block.faults.head? = some failure.toFault := by
  intro source blocks run failure
  have hrun : run.2 = some failure := by decide +kernel
  obtain ⟨-, hline, -, earlier, block, later, hblocks, -, -, -, hblames, hfault⟩ :=
    (line_of_failure Markdown.headingStarts empty 3).1 source failure hrun
  exact ⟨hrun, by decide +kernel, hline, earlier, block, later, hblocks, hblames, hfault⟩

end Graph

end StudyGraph
