import StudyGraph.Proofs.Relation
import StudyGraph.Proofs.Sentence

/-!
# Blocks do not depend on the graph around them

The plan of a block looks at the graph in one respect : a bullet that repeats the sentence gives it
a part of speech only if none is known. Such a bullet registers the cards of the sentence once more.
Their identities do not mention a part of speech, and the header has registered them before, so
nothing but the fields of these nodes changes. `Graph.SameShape` compares graphs up to the fields of
their nodes, and `Contribution.Agree` compares what lists of steps collect when they are carried out
on graphs of one shape. One step after the other agrees (`Agree.collect_cons`), so plans agree
whether a part of speech is known or not (`Sentence.agree_plan`), and a block comes to the same in
every graph (`Graph.compileBlock_eq_merge`).
-/

set_option linter.unusedSectionVars false

namespace StudyGraph

/-! ## Shapes -/

namespace Graph

/-- Graphs that differ at most in the fields of their nodes. -/
structure SameShape (g h : Graph) : Prop where
  /-- The same nodes, in the same order. -/
  keys : g.nodes.keys = h.nodes.keys
  /-- The same edges. -/
  edges : g.edges = h.edges
  /-- The same raw texts with the same nodes. -/
  raws : g.raws = h.raws

namespace SameShape

variable {g h k : Graph}

theorem refl (g : Graph) : g.SameShape g :=
  ⟨rfl, rfl, rfl⟩

theorem symm (hgh : g.SameShape h) : h.SameShape g :=
  ⟨hgh.keys.symm, hgh.edges.symm, hgh.raws.symm⟩

theorem trans (hgh : g.SameShape h) (hhk : h.SameShape k) : g.SameShape k :=
  ⟨hgh.keys.trans hhk.keys, hgh.edges.trans hhk.edges, hgh.raws.trans hhk.raws⟩

/-- A contribution changes the shapes of two graphs alike. -/
theorem add (hgh : g.SameShape h) (c : Contribution) : (g.add c).SameShape (h.add c) := by
  have hkeys := OrderedMap.keySet_inj.2 hgh.keys
  refine ⟨OrderedMap.keySet_inj.1 ?_, ?_, ?_⟩
  · simp only [Graph.add, OrderedMap.keySet_blendAll, hkeys]
  · simp only [Graph.add, hgh.edges]
  · simp only [Graph.add, hgh.raws]

end SameShape

/-! ## What is registered -/

/-- A node that is listed under a raw text. -/
def Lists (g : Graph) (raw : Text) (id : QuizId) : Prop :=
  id ∈ g.nodes.keys ∧ ∃ ids, g.raws.get? raw = some ids ∧ id ∈ ids

variable {g : Graph} {raw : Text} {id : QuizId}

/-- Nothing is taken out. -/
theorem Lists.add (h : g.Lists raw id) (c : Contribution) : (g.add c).Lists raw id :=
  ⟨mem_nodes_add.2 (Or.inl h.1), relates_raws_add.2 (Or.inl h.2)⟩

theorem lists_add_register (g : Graph) (raw : Text) (quiz : Quiz) :
    (g.add (.raw raw quiz.id ++ .quiz quiz)).Lists raw quiz.id := by
  refine ⟨mem_nodes_add.2 (Or.inr ?_), relates_raws_add.2 (Or.inr ?_)⟩
  · simp [Contribution.raw, Contribution.quiz, Contribution.ids]
  · exact ⟨(raw, .ofList [quiz.id]), List.mem_singleton.2 rfl, rfl, by simp⟩

/-- A quiz that is registered once more leaves the shape. -/
theorem Lists.sameShape_add_register {quiz : Quiz} (h : g.Lists raw quiz.id) :
    (g.add (.raw raw quiz.id ++ .quiz quiz)).SameShape g := by
  obtain ⟨hnode, ids, hget, hid⟩ := h
  have hunion : ids.union (.ofList [quiz.id]) = ids := by
    rw [OrderedSet.union_ofList]
    exact OrderedSet.insertAll_of_mem (by simpa using hid)
  refine ⟨OrderedMap.keySet_inj.1 ?_, rfl, OrderedMap.blend_of_absorbed hget hunion⟩
  have hkeys : (g.nodes.blend Quiz.absorb quiz.id quiz).keySet = g.nodes.keySet := by
    rw [OrderedMap.keySet_blend]
    exact OrderedSet.insert_of_mem hnode
  exact hkeys

end Graph

/-! ## Agreement -/

namespace Contribution

/-- What lists of steps collect : the same fault, or contributions that keep good graphs of one
shape at one shape. -/
inductive Agree (Good : Graph → Prop) : Except Fault Contribution → Except Fault Contribution → Prop
  | fault (fault : Fault) : Agree Good (.error fault) (.error fault)
  | shape {c d : Contribution} :
    (∀ {g h : Graph}, Good g → Good h → g.SameShape h → (g.add c).SameShape (h.add d)) →
      Agree Good (.ok c) (.ok d)

namespace Agree

variable {Good : Graph → Prop} {x y z : Except Fault Contribution}
  {xs ys : List (Except Fault Contribution)}

theorem refl (x : Except Fault Contribution) : Agree Good x x := by
  cases x with
  | error e => exact fault e
  | ok c => exact shape fun _ _ hgh => hgh.add c

theorem symm (h : Agree Good x y) : Agree Good y x := by
  cases h with
  | fault e => exact fault e
  | shape h => exact shape fun hg hh hgh => (h hh hg hgh.symm).symm

theorem trans (hxy : Agree Good x y) (hyz : Agree Good y z) : Agree Good x z := by
  cases hxy with
  | fault e => exact hyz
  | shape hxy =>
    cases hyz with
    | shape hyz =>
      exact shape fun hg hh hgh => (hxy hg hg (.refl _)).trans (hyz hg hh hgh)

/-- One after the other agrees, if what comes first takes graphs to good ones. -/
theorem collect_cons {Good' : Graph → Prop}
    (hx : ∀ c, x = .ok c → ∀ {g : Graph}, Good g → Good' (g.add c))
    (hy : ∀ d, y = .ok d → ∀ {g : Graph}, Good g → Good' (g.add d)) (hxy : Agree Good x y)
    (hrest : Agree Good' (collect xs) (collect ys)) :
    Agree Good (collect (x :: xs)) (collect (y :: ys)) := by
  cases hxy with
  | fault e => exact fault e
  | @shape c d hcd =>
    simp only [collect]
    generalize collect xs = u, collect ys = v at hrest ⊢
    cases hrest with
    | fault e => exact fault e
    | shape hrest =>
      refine shape fun {g h} hg hh hgh => ?_
      rw [Graph.add_append, Graph.add_append]
      exact hrest (hx c rfl hg) (hy d rfl hh) (hcd hg hh hgh)

theorem collect_append (hGood : ∀ {g : Graph} (c : Contribution), Good g → Good (g.add c))
    (zs : List (Except Fault Contribution)) (hrest : Agree Good (collect xs) (collect ys)) :
    Agree Good (collect (zs ++ xs)) (collect (zs ++ ys)) := by
  induction zs with
  | nil => exact hrest
  | cons z zs ih => exact collect_cons (fun c _ => hGood c) (fun c _ => hGood c) (.refl z) ih

end Agree

end Contribution

/-! ## Plans -/

namespace Sentence

variable {s : Sentence}

/-- A graph that has the cards of the sentence under its header. -/
def Registered (s : Sentence) (g : Graph) : Prop :=
  ∀ card ∈ s.cards.toList, g.Lists s.header.text (Quiz.card card).id

theorem Registered.add {g : Graph} (c : Contribution) (h : s.Registered g) :
    s.Registered (g.add c) := fun card hcard => (h card hcard).add c

/-- The header registers the cards of the sentence. -/
theorem registered_add_header {c : Contribution}
    (hc : Part.contribution ⟨none, .ok s.headerSteps⟩ = .ok c) (g : Graph) :
    s.Registered (g.add c) := by
  intro card hcard
  have hcollect : Contribution.collect (s.headerSteps.map Step.contribution) = .ok c := hc
  have hstep : Step.register s.header.text (.card card) ∈ s.headerSteps :=
    List.mem_append_left _ (List.mem_map_of_mem (List.mem_map_of_mem hcard))
  obtain ⟨a, b, rfl⟩ := Contribution.exists_of_mem_collect hcollect (List.mem_map.2 ⟨_, hstep, rfl⟩)
  rw [Graph.add_append, Graph.add_append]
  exact (Graph.lists_add_register _ _ _).add b

/-- Cards of the sentence that are registered once more with a part of speech leave the shape. -/
theorem agree_register_again (partOfSpeech : List Text) : ∀ {cards : List Card},
    (∀ card ∈ cards, card ∈ s.cards.toList) →
    Contribution.Agree s.Registered
      (Contribution.collect ((cards.map fun card => Step.register s.header.text
        (.card { card with partOfSpeech := some partOfSpeech })).map Step.contribution))
      (.ok .nil)
  | [], _ => .refl _
  | card :: cards, h => by
    obtain ⟨hcard, hrest⟩ := List.forall_mem_cons.1 h
    have hagain : Contribution.Agree s.Registered (Step.contribution (.register s.header.text
        (.card { card with partOfSpeech := some partOfSpeech }))) (.ok .nil) := by
      refine .shape fun {g h} hg _ hgh => ?_
      have hlists : g.Lists s.header.text
          (Quiz.card { card with partOfSpeech := some partOfSpeech }).id := hg card hcard
      exact hlists.sameShape_add_register.trans hgh
    have hnil : Contribution.collect [.ok .nil] = .ok .nil := rfl
    rw [← hnil]
    exact .collect_cons (fun c _ => Registered.add c) (fun c _ => Registered.add c) hagain
      (agree_register_again partOfSpeech hrest)

/-- Once the sentence is registered, a bullet that repeats it leaves the shape. -/
theorem agree_repeats (known : Bool) (partOfSpeech : Option (List Text)) :
    Contribution.Agree s.Registered
      (Contribution.collect ((s.entrySteps known (.repeats partOfSpeech)).map Step.contribution))
      (.ok .nil) := by
  cases partOfSpeech with
  | none => exact .refl _
  | some partOfSpeech =>
    cases known with
    | true => exact .refl _
    | false => exact agree_register_again partOfSpeech fun _ h => h

/-- Once the sentence is registered, a known part of speech makes no difference to the shape. -/
theorem agree_entrySteps (known known' : Bool) (entry : Entry) :
    Contribution.Agree s.Registered
      (Contribution.collect ((s.entrySteps known entry).map Step.contribution))
      (Contribution.collect ((s.entrySteps known' entry).map Step.contribution)) := by
  cases entry with
  | vocabulary v => exact .refl _
  | «repeats» partOfSpeech =>
    exact (agree_repeats known partOfSpeech).trans (agree_repeats known' partOfSpeech).symm

theorem agree_vocabularyParts (rest : List (Except Fault Contribution)) :
    ∀ (known known' : Bool) (bullets : List Bullet),
      Contribution.Agree s.Registered
        (Contribution.collect ((s.vocabularyParts known bullets).map Part.contribution ++ rest))
        (Contribution.collect ((s.vocabularyParts known' bullets).map Part.contribution ++ rest))
  | _, _, [] => .refl _
  | known, known', bullet :: bullets => by
    simp only [vocabularyParts]
    cases s.entry bullet with
    | error fault => exact .fault fault
    | ok entry =>
      exact .collect_cons (fun c _ => Registered.add c) (fun c _ => Registered.add c)
        (agree_entrySteps known known' entry) (agree_vocabularyParts rest _ _ bullets)

/-- Plans agree if they agree behind the header, in graphs that have the cards of the sentence. -/
theorem agree_header {xs ys : List (Except Fault Contribution)}
    (h : Contribution.Agree s.Registered (Contribution.collect xs) (Contribution.collect ys)) :
    Contribution.Agree (fun _ => True)
      (Contribution.collect (Part.contribution ⟨none, .ok s.headerSteps⟩ :: xs))
      (Contribution.collect (Part.contribution ⟨none, .ok s.headerSteps⟩ :: ys)) := by
  have hheader : ∀ c, Part.contribution ⟨none, .ok s.headerSteps⟩ = .ok c →
      ∀ {g : Graph}, True → s.Registered (g.add c) := fun c hc g _ => registered_add_header hc g
  exact .collect_cons hheader hheader (.refl _) h

/-- The plans of a sentence agree, whether its part of speech is known or not. -/
theorem agree_plan (known known' : Bool) (bullets : List Bullet) :
    Contribution.Agree (fun _ => True)
      (Contribution.collect ((s.plan known bullets).map Part.contribution))
      (Contribution.collect ((s.plan known' bullets).map Part.contribution)) := by
  simp only [plan, List.cons_append, List.append_assoc, List.map_cons, List.map_append]
  exact agree_header (.collect_append Registered.add _ (agree_vocabularyParts _ known known' _))

/-- Without a bullet that gives the sentence a part of speech, the parts are the same. -/
theorem vocabularyParts_eq : ∀ {bullets : List Bullet} (known known' : Bool),
    (∀ bullet ∈ bullets, ∀ entry, s.entry bullet = .ok entry → entry.givesPartOfSpeech = false) →
    s.vocabularyParts known bullets = s.vocabularyParts known' bullets
  | [], _, _, _ => rfl
  | bullet :: bullets, known, known', h => by
    obtain ⟨hbullet, hrest⟩ := List.forall_mem_cons.1 h
    simp only [vocabularyParts]
    cases hentry : s.entry bullet with
    | error fault => simp only [vocabularyParts_eq known known' hrest]
    | ok entry =>
      have hgives := hbullet entry hentry
      have hsteps : s.entrySteps known entry = s.entrySteps known' entry := by
        cases entry with
        | vocabulary v => rfl
        | «repeats» partOfSpeech =>
          cases partOfSpeech with
          | none => rfl
          | some partOfSpeech => simp [Entry.givesPartOfSpeech] at hgives
      simp only [hgives, hsteps, vocabularyParts_eq (known || false) (known' || false) hrest]

/-- A bullet gives a part of speech only if it repeats the sentence and carries the marker. -/
theorem item_eq_of_givesPartOfSpeech {bullet : Bullet} {entry : Entry}
    (h : s.entry bullet = .ok entry) (hgives : entry.givesPartOfSpeech = true) :
    bullet.fields.item = s.item ∧ (bullet.fields.marker "pos").isSome := by
  simp only [Sentence.entry, bind, Except.bind, pure, Except.pure] at h
  split at h
  · cases h
  · split at h
    · cases h
    · split at h
      · next hitem =>
        obtain rfl := Except.ok.inj h
        simpa [Entry.givesPartOfSpeech, partOfSpeech?, hitem] using hgives
      · split at h
        · cases h
        · obtain rfl := Except.ok.inj h
          cases hgives

end Sentence

/-! ## Blocks -/

namespace Block

/-- A vocabulary bullet of the block repeats the sentence of the header and carries a part of
speech. -/
def RepeatsWithPartOfSpeech (block : Block) : Prop :=
  ∃ header content, block.header? = some header ∧ headerContent? header.text = some content ∧
    ∃ bullet ∈ block.bullets, bullet.kind = .vocabulary ∧
      bullet.fields.item = (Fields.ofText content).item ∧ (bullet.fields.marker "pos").isSome

theorem agree_contribution (g h : Graph) (block : Block) :
    Contribution.Agree (fun _ => True) (block.contribution g) (block.contribution h) := by
  unfold contribution
  rw [plan?_eq, plan?_eq]
  cases block.sentence? with
  | none => exact .refl _
  | some sentence =>
    cases sentence with
    | error fault => exact .refl _
    | ok s => exact Sentence.agree_plan (s.isKnown g) (s.isKnown h) block.bullets

theorem contribution_eq {block : Block} (hblock : ¬ block.RepeatsWithPartOfSpeech) (g h : Graph) :
    block.contribution g = block.contribution h := by
  unfold contribution
  rw [plan?_eq, plan?_eq]
  cases hsentence : block.sentence? with
  | none => rfl
  | some sentence =>
    cases sentence with
    | error fault => rfl
    | ok s =>
      obtain ⟨header, content, hheader, hcontent, hreads⟩ := exists_reads_of_sentence? hsentence
      have hgives : ∀ bullet ∈ block.bullets.filter (·.kind = .vocabulary), ∀ entry,
          s.entry bullet = .ok entry → entry.givesPartOfSpeech = false := by
        intro bullet hbullet entry hentry
        rw [Bool.eq_false_iff]
        intro hgives
        obtain ⟨hrepeats, hpos⟩ := Sentence.item_eq_of_givesPartOfSpeech hentry hgives
        obtain ⟨hmem, hkind⟩ := List.mem_filter.1 hbullet
        exact hblock ⟨header, content, hheader, hcontent, bullet, hmem, by simpa using hkind,
          hrepeats.trans hreads.item_eq, hpos⟩
      have hparts := Sentence.vocabularyParts_eq (s.isKnown g) (s.isKnown h) hgives
      simp only [Option.map_some, Sentence.plan, hparts]

end Block

namespace Graph

/-- The outcome of a block does not depend on the graph around it. It fails in every graph in the
same way, and leaves the graph, or it comes to what it comes to alone, merged into the graph, up to
the fields of the nodes. The fields too are the same unless a bullet that repeats the sentence gives
it a part of speech. -/
theorem compileBlock_eq_merge (file : Nat) (g : Graph) (block : Block) :
    (∀ failure, g.compileBlock file block = .error failure ↔
      empty.compileBlock file block = .error failure) ∧
    (∀ failure, g.compileBlock file block = .error failure →
      g.compileUntil file [block] = (g, some failure) ∧
      g.compileAll file [block] = (g, [failure])) ∧
    (∀ g', g.compileBlock file block = .ok g' → ∃ alone, empty.compileBlock file block = .ok alone ∧
      g'.SameShape (g.merge alone) ∧ (¬ block.RepeatsWithPartOfSpeech → g' = g.merge alone)) := by
  have hagree := block.agree_contribution g empty
  have heq : ¬ block.RepeatsWithPartOfSpeech →
      block.contribution g = block.contribution empty := fun hblock =>
    Block.contribution_eq hblock g empty
  refine ⟨fun failure => ?_, fun failure h => ?_, fun g' h => ?_⟩
  · rw [compileBlock_eq, compileBlock_eq]
    generalize block.contribution g = x, block.contribution empty = y at hagree
    cases hagree with
    | fault e => rfl
    | shape _ => simp
  · simp only [compileUntil, compileAll, h, and_self]
  · rw [compileBlock_eq] at h ⊢
    generalize block.contribution g = x, block.contribution empty = y at hagree heq h ⊢
    cases hagree with
    | fault e => cases h
    | @shape c d hshape =>
      obtain rfl := Except.ok.inj h
      refine ⟨empty.add d, rfl, ?_, fun hblock => ?_⟩
      · rw [merge_empty_add]
        exact hshape trivial trivial (.refl g)
      · rw [merge_empty_add, Except.ok.inj (heq hblock)]

/-- Next to another card, a header comes to what it comes to alone, and a blank that is not in the
sentence is refused. -/
theorem compileBlock_eq_merge_beside_card :
    let g := empty.insert (.card (.make "b" ["a".toList] true false))
    let header := Block.ofLines ["# @ a @ b".toList]
    let astray := Block.ofLines ["# @ a @ b".toList, "- @fill c".toList]
    (∃ alone, empty.compileBlock 0 header = .ok alone ∧
      g.compileBlock 0 header = .ok (g.merge alone)) ∧
    ∃ failure, g.compileUntil 0 [astray] = (g, some failure) := by
  intro g header astray
  have hheader : (g.compileBlock 0 header).toOption.isSome = true := by decide +kernel
  have hastray : (g.compileBlock 0 astray).toOption.isSome = false := by decide +kernel
  constructor
  · cases hcompile : g.compileBlock 0 header with
    | error failure =>
      rw [hcompile] at hheader
      simp [Except.toOption] at hheader
    | ok g' =>
      obtain ⟨alone, halone, -, heq⟩ := (compileBlock_eq_merge 0 g header).2.2 g' hcompile
      refine ⟨alone, halone, congrArg Except.ok (heq ?_)⟩
      rintro ⟨-, -, -, -, bullet, hbullet, -⟩
      have hnone : header.bullets = [] := by decide +kernel
      simp [hnone] at hbullet
  · cases hcompile : g.compileBlock 0 astray with
    | error failure =>
      exact ⟨failure, ((compileBlock_eq_merge 0 g astray).2.1 failure hcompile).1⟩
    | ok g' =>
      rw [hcompile] at hastray
      simp [Except.toOption] at hastray

/-- A part of speech that is known already stays, although the sentence alone would be given the
other. -/
example :
    let noun := Block.ofLines ["# @ a @ b".toList, "- @ a @ b @pos n".toList]
    let verb := Block.ofLines ["# @ a @ b".toList, "- @ a @ b @pos v".toList]
    let g := (empty.compileBlock 0 noun).toOption.getD empty
    (g.compileBlock 0 verb).toOption ≠ (empty.compileBlock 0 verb).toOption.map g.merge := by
  decide +kernel

end Graph

end StudyGraph
