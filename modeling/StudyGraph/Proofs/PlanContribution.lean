import StudyGraph.Compile
import StudyGraph.Proofs.WellFormed

/-!
# What a block contributes

The steps of a plan are additions, so what they do to a graph is a contribution that does not
depend on the graph, or a fault (`Step.run_eq`). A list of steps or parts collects its
contributions up to the first fault (`Contribution.collect`), and to run the parts is to add what
they collect (`Part.runAll_eq`). Since staging is unobservable, to compile a block into a graph is
to add the contribution of the block to it (`compileBlock_eq`).

What a step of a sentence can be is said once for each list of steps
(`Sentence.cases_of_mem_headerSteps`, `Sentence.cases_of_mem_fillSteps`,
`Sentence.cases_of_mem_vocabularySteps`, `Sentence.cases_of_mem_matchingSteps`). So the quizzes of
every step are made in one of the ways a quiz can be made (`Sentence.made_of_mem_plan`), and the
contribution of a block is complete (`Block.complete_of_contribution`).
-/

namespace StudyGraph

theorem exists_eq_ok_of_isSome {ε α : Type} {x : Except ε α}
    (h : x.toOption.isSome = true) : ∃ a, x = .ok a := by
  cases x with
  | error e => cases h
  | ok a => exact ⟨a, rfl⟩

/-! ## Collecting -/

namespace Contribution

/-- All contributions one after the other, or the first fault. -/
def collect : List (Except Fault Contribution) → Except Fault Contribution
  | [] => .ok nil
  | .error fault :: _ => .error fault
  | .ok c :: rest => (collect rest).map (c ++ ·)

/-- What is collected is the first member with what is collected from the others. -/
theorem collect_cons_eq_ok_iff {x : Except Fault Contribution}
    {xs : List (Except Fault Contribution)} {c : Contribution} :
    collect (x :: xs) = .ok c ↔ ∃ d e, x = .ok d ∧ collect xs = .ok e ∧ c = d ++ e := by
  cases x with
  | error fault => simp [collect]
  | ok d => cases hrest : collect xs <;> simp [collect, hrest, Except.map, eq_comm]

theorem complete_of_collect : ∀ {xs : List (Except Fault Contribution)} {c : Contribution},
    collect xs = .ok c → (∀ d, .ok d ∈ xs → d.Complete) → c.Complete
  | [], c, h, _ => by
    obtain rfl : nil = c := Except.ok.inj h
    exact complete_nil
  | x :: xs, c, h, hxs => by
    obtain ⟨d, e, rfl, hrest, rfl⟩ := collect_cons_eq_ok_iff.1 h
    exact (hxs d (by simp)).append
      (complete_of_collect hrest fun d' hd' => hxs d' (by simp [hd']))

/-- What is collected has each of its members in it. -/
theorem exists_of_mem_collect : ∀ {xs : List (Except Fault Contribution)} {c d : Contribution},
    collect xs = .ok c → .ok d ∈ xs → ∃ a b, c = a ++ d ++ b
  | [], _, _, _, hd => by simp at hd
  | x :: xs, c, d, h, hd => by
    obtain ⟨x, e, rfl, hrest, rfl⟩ := collect_cons_eq_ok_iff.1 h
    rcases List.mem_cons.1 hd with hd | hd
    · obtain rfl := Except.ok.inj hd
      exact ⟨nil, e, rfl⟩
    · obtain ⟨a, b, rfl⟩ := exists_of_mem_collect hrest hd
      exact ⟨x ++ a, b, by simp only [append_assoc]⟩

end Contribution

/-- Carrying out actions that each add a contribution, or fail, adds what they collect. -/
theorem Graph.foldlM_eq_map_add {α : Type} {act : Graph → α → Except Fault Graph}
    {contribution : α → Except Fault Contribution}
    (h : ∀ g a, act g a = (contribution a).map g.add) (g : Graph) (as : List α) :
    as.foldlM act g = (Contribution.collect (as.map contribution)).map g.add := by
  induction as generalizing g with
  | nil => rfl
  | cons a as ih =>
    rw [List.foldlM_cons, List.map_cons, h]
    cases contribution a with
    | error fault => rfl
    | ok c =>
      have hnext : as.foldlM act (g.add c) =
          (Contribution.collect (as.map contribution)).map (g.add c).add := ih (g.add c)
      simp only [Except.map, bind, Except.bind, Contribution.collect] at hnext ⊢
      rw [hnext]
      cases Contribution.collect (as.map contribution) with
      | error fault => rfl
      | ok d => simp [Graph.add_append]

/-! ## Steps and parts -/

/-- What a step contributes. -/
def Step.contribution : Step → Except Fault Contribution
  | register raw quiz => .ok (.raw raw quiz.id ++ .quiz quiz)
  | credit parent child => .ok (.edge parent child)
  | link policy group line =>
    if policy.Fits group then
      .ok (.join ((policy.links group).map fun l => .edge l.parent l.child))
    else .error ⟨.size ⟨policy.height, group.length⟩, line⟩

theorem Graph.link_eq (g : Graph) (policy : Matrix) (group : List (Option Quiz)) :
    g.link policy group =
      if policy.Fits group then
        .ok (g.add (.join ((policy.links group).map fun l => .edge l.parent l.child)))
      else .error ⟨policy.height, group.length⟩ := by
  have hedge : (fun (g : Graph) (l : Link) => g.addEdge l.parent l.child) =
      fun g l => g.add (.edge l.parent l.child) :=
    funext fun g => funext fun l => addEdge_eq_add g l.parent l.child
  rw [link, hedge, ← foldl_add, List.foldl_map]

theorem Step.run_eq (g : Graph) (step : Step) : step.run g = step.contribution.map g.add := by
  cases step with
  | register raw quiz => exact congrArg Except.ok (g.insertWithRaw_eq_add raw quiz)
  | credit parent child => exact congrArg Except.ok (g.addEdge_eq_add parent child)
  | link policy group line =>
    rw [run, contribution, Graph.link_eq]
    split <;> rfl

/-- What a part contributes. -/
def Part.contribution (part : Part) : Except Fault Contribution :=
  part.steps.bind fun steps => Contribution.collect (steps.map Step.contribution)

theorem Part.runAll_eq (g : Graph) (parts : List Part) :
    runAll g parts = (Contribution.collect (parts.map contribution)).map g.add := by
  refine Graph.foldlM_eq_map_add (fun g part => ?_) g parts
  cases hsteps : part.steps with
  | error fault => simp [contribution, hsteps, bind, Except.bind, Except.map]
  | ok steps =>
    simp only [contribution, hsteps, bind, Except.bind]
    exact Graph.foldlM_eq_map_add Step.run_eq g steps

/-! ## Blocks -/

/-- The sentence of a block with an annotated header, or what is wrong with it. -/
def Block.sentence? (block : Block) : Option (Except Fault Sentence) := do
  let header ← block.header?
  let content ← headerContent? header.text
  return Sentence.read header content block.bullets

theorem Block.plan?_eq (g : Graph) (block : Block) :
    block.plan? g = block.sentence?.map fun
      | .error fault => [⟨none, .error fault⟩]
      | .ok s => s.plan (s.isKnown g) block.bullets := by
  unfold plan? sentence?
  cases block.header? with
  | none => rfl
  | some header =>
    cases hcontent : headerContent? header.text with
    | none => simp [hcontent]
    | some content =>
      simp only [hcontent, Option.bind_eq_bind, Option.bind_some, Option.pure_def, Option.map_some]
      cases Sentence.read header content block.bullets <;> rfl

/-- What a block contributes when it is compiled into a graph. -/
def Block.contribution (g : Graph) (block : Block) : Except Fault Contribution :=
  match block.plan? g with
  | none => .ok .nil
  | some parts => Contribution.collect (parts.map Part.contribution)

theorem Block.stage_eq (g : Graph) (block : Block) :
    block.stage g = (block.contribution g).map Graph.empty.add := by
  unfold stage contribution
  cases block.plan? g with
  | none => rfl
  | some parts => exact Part.runAll_eq .empty parts

theorem Block.contribution_of_sentence? {block : Block} {s : Sentence}
    (h : block.sentence? = some (.ok s)) (g : Graph) :
    block.contribution g =
      Contribution.collect ((s.plan (s.isKnown g) block.bullets).map Part.contribution) := by
  rw [contribution, plan?_eq, h]
  rfl

/-- To compile a block is to add its contribution. -/
theorem Graph.compileBlock_eq (file : Nat) (g : Graph) (block : Block) :
    g.compileBlock file block =
      match block.contribution g with
      | .ok c => .ok (g.add c)
      | .error fault => .error ⟨fault, file⟩ := by
  rw [compileBlock, Block.stage_eq]
  cases block.contribution g with
  | error fault => rfl
  | ok c => exact congrArg Except.ok (g.merge_empty_add c)

/-- A block that is compiled has no sentence and adds nothing, or it adds what the plan of its
sentence collects. -/
theorem Graph.compileBlock_ok_cases {file : Nat} {g g' : Graph} {block : Block}
    (h : g.compileBlock file block = .ok g') :
    (block.sentence? = none ∧ g' = g) ∨ ∃ s c, block.sentence? = some (.ok s) ∧
      Contribution.collect ((s.plan (s.isKnown g) block.bullets).map Part.contribution) = .ok c ∧
      g' = g.add c := by
  rw [compileBlock_eq, Block.contribution, Block.plan?_eq] at h
  cases hsentence : block.sentence? with
  | none =>
    rw [hsentence] at h
    exact Or.inl ⟨rfl, (Except.ok.inj h).symm⟩
  | some sentence =>
    rw [hsentence] at h
    cases sentence with
    | error fault => simp [Part.contribution, Contribution.collect, Except.bind] at h
    | ok s =>
      simp only [Option.map_some] at h
      split at h
      · next c hc => exact Or.inr ⟨s, c, rfl, hc, (Except.ok.inj h).symm⟩
      · cases h

/-! ## The quizzes of a plan -/

/-- Every quiz of the step is made. -/
def Step.Made : Step → Prop
  | register _ quiz => quiz.Made
  | credit parent child => parent.Made ∧ child.Made
  | link _ group _ => ∀ quiz, some quiz ∈ group → quiz.Made

/-- The links are the set cells whose two slots have a quiz. -/
theorem Matrix.mem_links_iff {m : Matrix} {group : List (Option Quiz)} {l : Link} :
    l ∈ m.links group ↔ m.get l.childSlot l.parentSlot = true ∧
      group[l.parentSlot]? = some (some l.parent) ∧ group[l.childSlot]? = some (some l.child) := by
  obtain ⟨i, j, parent, child⟩ := l
  simp only [links, List.mem_flatMap, List.mem_filterMap, Prod.exists, List.mem_zipIdx_iff_getElem?]
  constructor
  · rintro ⟨x, i', hx, y, j', hy, hlink⟩
    split at hlink
    · next hcell =>
      cases x with
      | none => simp at hlink
      | some x =>
        cases y with
        | none => simp at hlink
        | some y =>
          obtain ⟨rfl, rfl, rfl, rfl⟩ : i' = i ∧ j' = j ∧ x = parent ∧ y = child := by
            simpa using hlink
          exact ⟨hcell, hx, hy⟩
    · simp at hlink
  · rintro ⟨hcell, hparent, hchild⟩
    refine ⟨some parent, i, hparent, some child, j, hchild, ?_⟩
    rw [if_pos hcell]
    rfl

theorem Matrix.mem_group_of_mem_links {m : Matrix} {group : List (Option Quiz)} {l : Link}
    (h : l ∈ m.links group) : some l.parent ∈ group ∧ some l.child ∈ group := by
  obtain ⟨-, hparent, hchild⟩ := mem_links_iff.1 h
  exact ⟨List.mem_of_getElem? hparent, List.mem_of_getElem? hchild⟩

theorem Matrix.complete_links {m : Matrix} {group : List (Option Quiz)}
    (h : ∀ quiz, some quiz ∈ group → quiz.Made) :
    (Contribution.join ((m.links group).map fun l => .edge l.parent l.child)).Complete := by
  refine Contribution.complete_join fun c hc => ?_
  obtain ⟨l, hl, rfl⟩ := List.mem_map.1 hc
  obtain ⟨hparent, hchild⟩ := mem_group_of_mem_links hl
  exact Contribution.complete_edge (h _ hparent) (h _ hchild)

theorem Step.complete_of_contribution {step : Step} (h : step.Made) {c : Contribution}
    (hc : step.contribution = .ok c) : c.Complete := by
  cases step with
  | register raw quiz =>
    obtain rfl := Except.ok.inj hc
    exact Contribution.complete_register h raw
  | credit parent child =>
    obtain rfl := Except.ok.inj hc
    exact Contribution.complete_edge h.1 h.2
  | link policy group line =>
    rw [contribution] at hc
    split at hc
    · obtain rfl := Except.ok.inj hc
      exact Matrix.complete_links h
    · cases hc

/-- Every quiz of the part is made. -/
def Part.Made (part : Part) : Prop :=
  ∀ steps, part.steps = .ok steps → ∀ step ∈ steps, step.Made

theorem Part.made_ok {bullet : Option Bullet} {steps : List Step} (h : ∀ step ∈ steps, step.Made) :
    Part.Made ⟨bullet, .ok steps⟩ := by
  intro steps' hsteps
  obtain rfl := Except.ok.inj hsteps
  exact h

theorem Part.made_error {bullet : Option Bullet} {fault : Fault} :
    Part.Made ⟨bullet, .error fault⟩ := by
  intro steps hsteps
  cases hsteps

theorem Part.complete_of_contribution {part : Part} (h : part.Made) {c : Contribution}
    (hc : part.contribution = .ok c) : c.Complete := by
  cases hsteps : part.steps with
  | error fault => simp [contribution, hsteps, Except.bind] at hc
  | ok steps =>
    rw [contribution, hsteps] at hc
    refine Contribution.complete_of_collect hc fun d hd => ?_
    obtain ⟨step, hstep, hd⟩ := List.mem_map.1 hd
    exact Step.complete_of_contribution (h steps hsteps step hstep) hd

theorem Quiz.made_of_mem_map_card {cards : List (Option Card)} {quiz : Quiz}
    (h : some quiz ∈ cards.map (Option.map .card)) : quiz.Made := by
  obtain ⟨slot, -, hslot⟩ := List.mem_map.1 h
  obtain ⟨card, -, rfl⟩ := Option.map_eq_some_iff.1 hslot
  trivial

theorem Quiz.made_of_mem_map_cloze {clozes : List (Option Cloze)} {quiz : Quiz}
    (h : some quiz ∈ clozes.map (Option.map .cloze)) : quiz.Made := by
  obtain ⟨slot, -, hslot⟩ := List.mem_map.1 h
  obtain ⟨cloze, -, rfl⟩ := Option.map_eq_some_iff.1 hslot
  trivial

theorem Trio.notMem_noSlots {α : Type} {a : α} : some a ∉ (noSlots : List (Option α)) := by
  simp [noSlots]

namespace Sentence

variable {s : Sentence}

theorem made_of_mem_quizzes {quiz : Quiz} (h : quiz ∈ s.quizzes) : quiz.Made := by
  obtain ⟨card, -, rfl⟩ := List.mem_map.1 h
  trivial

theorem made_of_mem_itemSlots {v : Vocabulary} {quiz : Quiz}
    (h : some quiz ∈ v.cardSlots ++ v.clozeSlots) : quiz.Made := by
  rcases List.mem_append.1 h with h | h
  · exact Quiz.made_of_mem_map_card h
  · rw [Vocabulary.clozeSlots] at h
    split at h
    · exact absurd h Trio.notMem_noSlots
    · exact Quiz.made_of_mem_map_cloze h

theorem made_of_mem_group {v : Vocabulary} {quiz : Quiz} (h : some quiz ∈ s.group v) :
    quiz.Made := by
  rw [group, List.append_assoc] at h
  rcases List.mem_append.1 h with h | h
  · exact Quiz.made_of_mem_map_card h
  · exact made_of_mem_itemSlots h

/-- A step for the header registers a card of the sentence, or links the cards. -/
theorem cases_of_mem_headerSteps {step : Step} (h : step ∈ s.headerSteps) :
    (∃ quiz ∈ s.quizzes, step = .register s.header.text quiz) ∨
      step = .link sentencePolicy (s.slots ++ Trio.noSlots ++ Trio.noSlots) s.header := by
  rcases List.mem_append.1 h with h | h
  · obtain ⟨quiz, hquiz, rfl⟩ := List.mem_map.1 h
    exact Or.inl ⟨quiz, hquiz, rfl⟩
  · exact Or.inr (List.mem_singleton.1 h)

/-- The steps of a fill bullet : its cloze is registered, and credits and is credited by every
card. -/
theorem fillSteps_eq_ok_iff {bullet : Bullet} {steps : List Step} :
    s.fillSteps bullet = .ok steps ↔ ∃ cloze, s.fillCloze bullet = .ok cloze ∧
      steps = .register (s.raw bullet) (.cloze cloze) ::
        s.quizzes.flatMap fun card =>
          [.credit card (.cloze cloze), .credit (.cloze cloze) card] := by
  unfold fillSteps
  cases s.fillCloze bullet with
  | error fault => simp [bind, Except.bind]
  | ok cloze => simp [bind, Except.bind, pure, Except.pure, eq_comm]

/-- A step for a fill bullet registers its cloze, or lets it credit a card or a card credit it. -/
theorem cases_of_mem_fillSteps {bullet : Bullet} {steps : List Step}
    (h : s.fillSteps bullet = .ok steps) {step : Step} (hstep : step ∈ steps) :
    ∃ cloze, s.fillCloze bullet = .ok cloze ∧ (step = .register (s.raw bullet) (.cloze cloze) ∨
      ∃ card ∈ s.quizzes,
        step = .credit card (.cloze cloze) ∨ step = .credit (.cloze cloze) card) := by
  obtain ⟨cloze, hcloze, rfl⟩ := fillSteps_eq_ok_iff.1 h
  refine ⟨cloze, hcloze, ?_⟩
  simpa using hstep

/-- A step for a vocabulary item registers a quiz of the item, or links its group. -/
theorem cases_of_mem_vocabularySteps {v : Vocabulary} {step : Step}
    (h : step ∈ s.vocabularySteps v) :
    (∃ quiz, some quiz ∈ v.cardSlots ++ v.clozeSlots ∧
      step = .register (s.raw v.bullet) quiz) ∨
      step = .link sentencePolicy (s.group v) v.bullet.line := by
  rcases List.mem_append.1 h with h | h
  · obtain ⟨slot, hslot, hstep⟩ := List.mem_filterMap.1 h
    obtain ⟨quiz, rfl, rfl⟩ := Option.map_eq_some_iff.1 hstep
    exact Or.inl ⟨quiz, hslot, rfl⟩
  · exact Or.inr (List.mem_singleton.1 h)

/-- A step for a bullet that repeats the sentence registers a card of the sentence. -/
theorem exists_card_of_mem_repeats {known : Bool} {partOfSpeech : Option (List Text)} {step : Step}
    (h : step ∈ s.entrySteps known (.repeats partOfSpeech)) :
    ∃ card, step = .register s.header.text (.card card) := by
  cases partOfSpeech with
  | none => simp [entrySteps] at h
  | some partOfSpeech =>
    rw [entrySteps] at h
    split at h
    · simp at h
    · obtain ⟨card, -, rfl⟩ := List.mem_map.1 h
      exact ⟨_, rfl⟩

/-- A step for the matching registers it, or links it with the group of an item. -/
theorem cases_of_mem_matchingSteps {vocabularies : List Vocabulary} {step : Step}
    (h : step ∈ s.matchingSteps vocabularies) :
    ∃ matching, s.matching? vocabularies = some matching ∧
      (step = .register s.header.text (.matching matching) ∨ ∃ v ∈ vocabularies,
        step = .link matchingPolicy (s.group v ++ [some (.matching matching)]) s.header) := by
  unfold matchingSteps at h
  split at h
  · simp at h
  · next matching hmatching =>
    refine ⟨matching, hmatching, ?_⟩
    rcases List.mem_cons.1 h with rfl | h
    · exact Or.inl rfl
    · obtain ⟨v, hv, rfl⟩ := List.mem_map.1 h
      exact Or.inr ⟨v, hv, rfl⟩

theorem made_of_matching? {vocabularies : List Vocabulary} {matching : Matching}
    (h : s.matching? vocabularies = some matching) : (Quiz.matching matching).Made := by
  simp only [matching?] at h
  split at h
  · cases h
  · obtain rfl := Option.some.inj h
    exact Quiz.made_make _ _

theorem made_of_mem_headerSteps {step : Step} (h : step ∈ s.headerSteps) : step.Made := by
  rcases cases_of_mem_headerSteps h with ⟨quiz, hquiz, rfl⟩ | rfl
  · exact made_of_mem_quizzes hquiz
  · intro quiz hquiz
    rcases List.mem_append.1 hquiz with hquiz | hquiz
    · rcases List.mem_append.1 hquiz with hquiz | hquiz
      · exact Quiz.made_of_mem_map_card hquiz
      · exact absurd hquiz Trio.notMem_noSlots
    · exact absurd hquiz Trio.notMem_noSlots

theorem made_of_mem_fillSteps {bullet : Bullet} {steps : List Step}
    (h : s.fillSteps bullet = .ok steps) {step : Step} (hstep : step ∈ steps) : step.Made := by
  obtain ⟨cloze, -, rfl | ⟨card, hcard, rfl | rfl⟩⟩ := cases_of_mem_fillSteps h hstep
  · trivial
  · exact ⟨made_of_mem_quizzes hcard, trivial⟩
  · exact ⟨trivial, made_of_mem_quizzes hcard⟩

theorem made_of_mem_entrySteps {known : Bool} {entry : Entry} {step : Step}
    (h : step ∈ s.entrySteps known entry) : step.Made := by
  cases entry with
  | «repeats» partOfSpeech =>
    obtain ⟨card, rfl⟩ := exists_card_of_mem_repeats h
    trivial
  | vocabulary v =>
    rcases cases_of_mem_vocabularySteps h with ⟨quiz, hquiz, rfl⟩ | rfl
    · exact made_of_mem_itemSlots hquiz
    · exact fun quiz hquiz => made_of_mem_group hquiz

theorem made_of_mem_matchingSteps {vocabularies : List Vocabulary} {step : Step}
    (h : step ∈ s.matchingSteps vocabularies) : step.Made := by
  obtain ⟨matching, hmatching, rfl | ⟨v, -, rfl⟩⟩ := cases_of_mem_matchingSteps h
  · exact made_of_matching? hmatching
  · intro quiz hquiz
    rcases List.mem_append.1 hquiz with hquiz | hquiz
    · exact made_of_mem_group hquiz
    · obtain rfl : quiz = .matching matching := by simpa using hquiz
      exact made_of_matching? hmatching

theorem made_of_mem_vocabularyParts : ∀ {known : Bool} {bullets : List Bullet} {part : Part},
    part ∈ s.vocabularyParts known bullets → part.Made
  | _, [], _, h => by simp [vocabularyParts] at h
  | known, bullet :: bullets, part, h => by
    rw [vocabularyParts] at h
    split at h
    · rcases List.mem_cons.1 h with rfl | h
      · exact Part.made_error
      · exact made_of_mem_vocabularyParts h
    · rcases List.mem_cons.1 h with rfl | h
      · exact Part.made_ok fun step => made_of_mem_entrySteps
      · exact made_of_mem_vocabularyParts h

/-- The quizzes of a plan are made. -/
theorem made_of_mem_plan {known : Bool} {bullets : List Bullet} {part : Part}
    (h : part ∈ s.plan known bullets) : part.Made := by
  rcases List.mem_append.1 h with h | h
  · rcases List.mem_append.1 h with h | h
    · rcases List.mem_cons.1 h with rfl | h
      · exact Part.made_ok fun step => made_of_mem_headerSteps
      · obtain ⟨bullet, -, rfl⟩ := List.mem_map.1 h
        intro steps hsteps step hstep
        exact made_of_mem_fillSteps hsteps hstep
    · exact made_of_mem_vocabularyParts h
  · obtain rfl := List.mem_singleton.1 h
    exact Part.made_ok fun step => made_of_mem_matchingSteps

end Sentence

theorem Block.made_of_mem_plan? {g : Graph} {block : Block} {parts : List Part}
    (h : block.plan? g = some parts) {part : Part} (hpart : part ∈ parts) : part.Made := by
  rw [plan?_eq, Option.map_eq_some_iff] at h
  obtain ⟨fault | s, -, rfl⟩ := h
  · obtain rfl := List.mem_singleton.1 hpart
    exact Part.made_error
  · exact Sentence.made_of_mem_plan hpart

/-- What a block contributes is complete. -/
theorem Block.complete_of_contribution {g : Graph} {block : Block} {c : Contribution}
    (h : block.contribution g = .ok c) : c.Complete := by
  unfold contribution at h
  cases hplan : block.plan? g with
  | none =>
    rw [hplan] at h
    obtain rfl := Except.ok.inj h
    exact Contribution.complete_nil
  | some parts =>
    rw [hplan] at h
    refine Contribution.complete_of_collect h fun d hd => ?_
    obtain ⟨part, hpart, hd⟩ := List.mem_map.1 hd
    exact Part.complete_of_contribution (made_of_mem_plan? hplan hpart) hd

end StudyGraph
