import StudyGraph.Proofs.Built

/-!
# Graphs only grow

Nothing is taken out of a graph and nothing changes its place. A map grows if its keys come first in
the same order and every known value is followed by one that it is related to (`OrderedMap.Grows`),
and blending in arrivals is growth if joining a newcomer is (`OrderedMap.grows_blendAll`). Sets grow
at their ends, and a quiz that absorbs another of its identity keeps its kind, its identity and its
question, and has every note that it had (`Quiz.Keeps`, `Quiz.keeps_absorb`).

`Graph.Operation` lists what can be done to a graph. Every operation adds made quizzes with edges
and raw entries, or nothing where it fails (`Graph.Operation.addsMade_run`), so a graph grows under
each (`Graph.Settled.grows_run`) and under any run of them (`Graph.grows_of_operations`).
-/

set_option linter.unusedSectionVars false

namespace StudyGraph

/-! ## Sets -/

namespace OrderedSet

variable {α : Type} [DecidableEq α]

theorem prefix_insert (s : OrderedSet α) (a : α) : s.toList <+: (s.insert a).toList := by
  rw [toList_insert]
  split
  · exact List.prefix_refl _
  · exact List.prefix_append _ _

theorem prefix_insertAll (s : OrderedSet α) (as : List α) :
    s.toList <+: (s.insertAll as).toList := by
  induction as generalizing s with
  | nil => exact List.prefix_refl _
  | cons a as ih => exact (s.prefix_insert a).trans (ih (s.insert a))

theorem prefix_union (s t : OrderedSet α) : s.toList <+: (s.union t).toList :=
  s.prefix_insertAll t.toList

/-- The second set has the members of the first in front. -/
def Leads (s t : OrderedSet α) : Prop :=
  s.toList <+: t.toList

theorem leads_refl (s : OrderedSet α) : s.Leads s :=
  List.prefix_refl s.toList

theorem leads_trans (s t u : OrderedSet α) (hst : s.Leads t) (htu : t.Leads u) : s.Leads u :=
  List.IsPrefix.trans hst htu

end OrderedSet

/-! ## Maps -/

namespace OrderedMap

variable {κ ν : Type} [DecidableEq κ] {R : ν → ν → Prop}

/-- The second map has the keys of the first in front, and at each of them a value to which the
old one is related. -/
structure Grows (R : ν → ν → Prop) (m n : OrderedMap κ ν) : Prop where
  keys : m.keys <+: n.keys
  value : ∀ {k v}, m.get? k = some v → ∃ w, n.get? k = some w ∧ R v w

theorem Grows.refl (hR : ∀ v, R v v) (m : OrderedMap κ ν) : Grows R m m :=
  ⟨List.prefix_refl _, fun hv => ⟨_, hv, hR _⟩⟩

theorem Grows.trans (hR : ∀ u v w, R u v → R v w → R u w) {l m n : OrderedMap κ ν}
    (hlm : Grows R l m) (hmn : Grows R m n) : Grows R l n := by
  refine ⟨hlm.keys.trans hmn.keys, fun {k u} hu => ?_⟩
  obtain ⟨v, hv, huv⟩ := hlm.value hu
  obtain ⟨w, hw, hvw⟩ := hmn.value hv
  exact ⟨w, hw, hR u v w huv hvw⟩

variable {op : ν → ν → ν}

theorem grows_blend (hrefl : ∀ v, R v v) {m : OrderedMap κ ν} {k : κ} {v : ν}
    (hop : ∀ u, m.get? k = some u → R u (op u v)) : Grows R m (m.blend op k v) := by
  constructor
  · have hkeys : (m.blend op k v).keySet = m.keySet.insert k := keySet_blend op m k v
    have hprefix := m.keySet.prefix_insert k
    rw [← hkeys] at hprefix
    exact hprefix
  · intro k' u hu
    rw [get?_blend]
    split
    · next hk =>
      subst hk
      rw [hu]
      exact ⟨op u v, rfl, hop u hu⟩
    · exact ⟨u, hu, hrefl u⟩

/-- Arrivals let a map grow, if values that are joined are related to what comes of it. -/
theorem grows_blendAll {P : κ → ν → Prop} (hrefl : ∀ v, R v v)
    (htrans : ∀ u v w, R u v → R v w → R u w)
    (hclosed : ∀ {k u v}, P k u → P k v → P k (op u v))
    (hop : ∀ {k u v}, P k u → P k v → R u (op u v)) {m : OrderedMap κ ν} (hm : m.All P)
    {es : List (κ × ν)} (hes : ∀ e ∈ es, P e.1 e.2) : Grows R m (m.blendAll op es) := by
  induction es generalizing m with
  | nil => exact .refl hrefl m
  | cons e es ih =>
    obtain ⟨he, hes⟩ := List.forall_mem_cons.1 hes
    have hfirst : Grows R m (m.blend op e.1 e.2) :=
      grows_blend hrefl fun u hu => hop (all_iff_get?.1 hm e.1 u hu) he
    exact hfirst.trans htrans (ih (hm.blend hclosed he) hes)

/-- Sets that are united grow at their ends. -/
theorem grows_blendAll_union {α : Type} [DecidableEq α] (m : OrderedMap κ (OrderedSet α))
    (es : List (κ × OrderedSet α)) :
    Grows OrderedSet.Leads m (m.blendAll OrderedSet.union es) := by
  have hm : m.All fun _ _ => True := fun _ _ => trivial
  exact grows_blendAll OrderedSet.leads_refl OrderedSet.leads_trans (fun _ _ => trivial)
    (fun {_ s t} _ _ => s.prefix_union t) hm fun _ _ => trivial

/-- What a key lists when the map has grown. -/
theorem Grows.prefix_getD {α : Type} [DecidableEq α] {m n : OrderedMap κ (OrderedSet α)}
    (h : Grows OrderedSet.Leads m n) (k : κ) :
    ((m.get? k).map OrderedSet.toList).getD [] <+: ((n.get? k).map OrderedSet.toList).getD [] := by
  cases hs : m.get? k with
  | none => exact List.nil_prefix
  | some s =>
    obtain ⟨t, ht, hst⟩ := h.value hs
    rw [ht]
    exact hst

end OrderedMap

/-! ## Quizzes -/

namespace Quiz

/-- The part of speech, if the quiz is a card that has one. -/
def partOfSpeech? (quiz : Quiz) : Option (List Text) :=
  quiz.asCard?.bind Card.partOfSpeech

/-- What a quiz keeps under its identity: its kind and the question that it shows, and that there is
a translation, a lede or a part of speech. -/
structure Keeps (old new : Quiz) : Prop where
  kind : new.kind = old.kind
  id : new.id = old.id
  shown : new.shown = old.shown
  translation : old.notes.translation.isSome → new.notes.translation.isSome
  lede : old.notes.lede.isSome → new.notes.lede.isSome
  partOfSpeech : old.partOfSpeech?.isSome → new.partOfSpeech?.isSome

theorem Keeps.refl (quiz : Quiz) : quiz.Keeps quiz :=
  ⟨rfl, rfl, rfl, fun h => h, fun h => h, fun h => h⟩

theorem Keeps.trans {a b c : Quiz} (hab : a.Keeps b) (hbc : b.Keeps c) : a.Keeps c where
  kind := hbc.kind.trans hab.kind
  id := hbc.id.trans hab.id
  shown := hbc.shown.trans hab.shown
  translation h := hbc.translation (hab.translation h)
  lede h := hbc.lede (hab.lede h)
  partOfSpeech h := hbc.partOfSpeech (hab.partOfSpeech h)

theorem kind_absorb {old new : Quiz} (h : old.kind = new.kind) :
    (old.absorb new).kind = old.kind := by
  cases old <;> cases new <;> simp_all [kind, absorb]

/-- Between quizzes of one kind, notes are joined. -/
theorem notes_absorb {old new : Quiz} (h : old.kind = new.kind) :
    (old.absorb new).notes = old.notes.absorb new.notes := by
  cases old <;> cases new <;> simp_all [kind, absorb, notes]

theorem partOfSpeech?_absorb {old new : Quiz} (h : old.kind = new.kind) :
    (old.absorb new).partOfSpeech? = new.partOfSpeech?.or old.partOfSpeech? := by
  cases old <;> cases new <;> simp_all [kind, absorb, partOfSpeech?, asCard?]

/-- A quiz that absorbs one of its identity keeps what a quiz keeps. Quizzes of one identity are of
one kind, so none is replaced. -/
theorem keeps_absorb {old new : Quiz} (hid : old.id = new.id) (hold : old.Made) (hnew : new.Made) :
    old.Keeps (old.absorb new) := by
  have hkind := kind_eq_of_id_eq hid
  refine ⟨kind_absorb hkind, id_absorb hid, ?_, ?_, ?_, ?_⟩
  · rw [(made_absorb hid hold hnew).shown_eq_question, hold.shown_eq_question,
      question_absorb_of_id_eq hid]
  · intro h
    simp [notes_absorb hkind, Notes.absorb, h]
  · intro h
    simp [notes_absorb hkind, Notes.absorb, h]
  · intro h
    simp [partOfSpeech?_absorb hkind, h]

end Quiz

namespace Graph

/-! ## Graphs -/

/-- What a graph keeps when it grows into another: the order of its keys in all three maps, the
members of its sets at their places, and what the quizzes keep. -/
structure Grows (g h : Graph) : Prop where
  nodes : g.nodes.Grows Quiz.Keeps h.nodes
  edges : g.edges.Grows OrderedSet.Leads h.edges
  raws : g.raws.Grows OrderedSet.Leads h.raws

theorem Grows.refl (g : Graph) : g.Grows g where
  nodes := .refl Quiz.Keeps.refl g.nodes
  edges := .refl OrderedSet.leads_refl g.edges
  raws := .refl OrderedSet.leads_refl g.raws

theorem Grows.trans {g h k : Graph} (hgh : g.Grows h) (hhk : h.Grows k) : g.Grows k where
  nodes := hgh.nodes.trans (fun _ _ _ => .trans) hhk.nodes
  edges := hgh.edges.trans OrderedSet.leads_trans hhk.edges
  raws := hgh.raws.trans OrderedSet.leads_trans hhk.raws

/-- A settled graph grows by a contribution of made quizzes, and is settled then. -/
theorem Settled.grows_add {g : Graph} (hg : g.Settled) {c : Contribution}
    (hc : ∀ quiz ∈ c.quizzes, quiz.Made) : g.Grows (g.add c) ∧ (g.add c).Settled := by
  refine ⟨⟨?_, ?_, ?_⟩, hg.add hc⟩
  · refine OrderedMap.grows_blendAll Quiz.Keeps.refl (fun _ _ _ => .trans)
      Quiz.SettlesAt.absorb ?_ hg (Contribution.settlesAt_of_mem_arrivals hc)
    rintro id old new ⟨rfl, hold⟩ ⟨hid, hnew⟩
    exact Quiz.keeps_absorb hid.symm hold hnew
  · exact OrderedMap.grows_blendAll_union g.edges c.edges
  · exact OrderedMap.grows_blendAll_union g.raws c.raws

/-! ## Operations -/

/-- What can be done to a graph. A source is cut into blocks with any reader of headings. -/
inductive Operation where
  | edit (edit : Edit)
  | link (policy : Matrix) (group : List (Option Quiz))
  | compileBlock (file : Nat) (block : Block)
  | compileInto (headings : Text → List Nat) (file : Nat) (source : Text)

/-- Carry out an operation. One that fails leaves the graph as it was, or, when it compiles a
source, with the blocks before the one that fails. -/
def Operation.run (g : Graph) : Operation → Graph
  | edit e => g.apply e
  | link policy group => (g.link policy group).toOption.getD g
  | compileBlock file block => (g.compileBlock file block).toOption.getD g
  | compileInto headings file source => (g.compileUntil file (Block.ofSource headings source)).1

/-- The quizzes that an operation is given are made, and a graph that it is given is well-formed. -/
def Operation.Sound : Operation → Prop
  | edit (.insert quiz) => quiz.Made
  | edit (.insertRaw _ _) => True
  | edit (.insertWithRaw _ quiz) => quiz.Made
  | edit (.addEdge parent child) => parent.Made ∧ child.Made
  | edit (.merge other) => other.WellFormed
  | link _ group => ∀ quiz, some quiz ∈ group → quiz.Made
  | compileBlock _ _ => True
  | compileInto _ _ _ => True

/-- The graph after an outcome adds made quizzes to the graph before. -/
def AddsMade (g h : Graph) : Prop :=
  ∃ c : Contribution, (∀ quiz ∈ c.quizzes, quiz.Made) ∧ h = g.add c

theorem addsMade_self (g : Graph) : g.AddsMade g :=
  ⟨.nil, by simp [Contribution.nil], rfl⟩

theorem AddsMade.trans {g h k : Graph} (hgh : g.AddsMade h) (hhk : h.AddsMade k) :
    g.AddsMade k := by
  obtain ⟨c, hc, rfl⟩ := hgh
  obtain ⟨d, hd, rfl⟩ := hhk
  refine ⟨c ++ d, fun quiz hquiz => ?_, (add_append g c d).symm⟩
  exact (List.mem_append.1 hquiz).elim (hc quiz) (hd quiz)

theorem addsMade_compileBlock {g g' : Graph} {file : Nat} {block : Block}
    (h : g.compileBlock file block = .ok g') : g.AddsMade g' := by
  rw [compileBlock_eq] at h
  split at h
  · next c hc =>
    obtain rfl := Except.ok.inj h
    exact ⟨c, (Block.complete_of_contribution hc).made, rfl⟩
  · cases h

theorem addsMade_compileUntil (g : Graph) (file : Nat) (blocks : List Block) :
    g.AddsMade (g.compileUntil file blocks).1 := by
  induction blocks generalizing g with
  | nil => exact g.addsMade_self
  | cons block blocks ih =>
    rw [Graph.compileUntil]
    split
    · next g' h => exact (addsMade_compileBlock h).trans (ih g')
    · exact g.addsMade_self

theorem addsMade_apply (g : Graph) {edit : Edit} (h : (Operation.edit edit).Sound) :
    g.AddsMade (g.apply edit) := by
  refine ⟨edit.contribution, ?_, apply_eq_add g edit⟩
  cases edit with
  | insert quiz => exact (Contribution.complete_quiz h).made
  | insertRaw raw id => simp [Edit.contribution, Contribution.raw]
  | insertWithRaw raw quiz => exact (Contribution.complete_register h raw).made
  | addEdge parent child => exact (Contribution.complete_edge h.1 h.2).made
  | merge other => exact WellFormed.complete h |>.made

/-- Every operation adds to the graph, or leaves it. -/
theorem Operation.addsMade_run (g : Graph) {operation : Operation} (h : operation.Sound) :
    g.AddsMade (operation.run g) := by
  cases operation with
  | edit edit => exact addsMade_apply g h
  | link policy group =>
    rw [run, link_eq]
    split
    · exact ⟨_, (Matrix.complete_links h).made, rfl⟩
    · exact g.addsMade_self
  | compileBlock file block =>
    rw [run]
    cases hcompile : g.compileBlock file block with
    | error failure => exact g.addsMade_self
    | ok g' => exact addsMade_compileBlock hcompile
  | compileInto headings file source =>
    exact g.addsMade_compileUntil file (Block.ofSource headings source)

/-- A settled graph grows under every operation. -/
theorem Settled.grows_run {g : Graph} (hg : g.Settled) {operation : Operation}
    (h : operation.Sound) : g.Grows (operation.run g) ∧ (operation.run g).Settled := by
  obtain ⟨c, hc, hrun⟩ := operation.addsMade_run g h
  rw [hrun]
  exact hg.grows_add hc

theorem Settled.grows_runAll {g : Graph} (hg : g.Settled) {operations : List Operation}
    (h : ∀ operation ∈ operations, operation.Sound) :
    g.Grows (operations.foldl Operation.run g) := by
  induction operations generalizing g with
  | nil => exact .refl g
  | cons operation operations ih =>
    obtain ⟨hfirst, hrest⟩ := List.forall_mem_cons.1 h
    obtain ⟨hgrows, hsettled⟩ := hg.grows_run hfirst
    exact hgrows.trans (ih hsettled hrest)

/-- The graph only grows. Whatever operations are carried out on a well-formed graph, one or many,
and whether they succeed or fail : the old nodes, parents and raw texts come first in the same
order, and so do the children of each parent and the identities of each raw text. Under every old
identity there is a quiz of the same kind that shows the same question, and that has a translation,
a lede and a part of speech if the old one had them. -/
theorem grows_of_operations {g : Graph} (hg : g.WellFormed) {operations : List Operation}
    (h : ∀ operation ∈ operations, operation.Sound) :
    let g' := operations.foldl Operation.run g
    g.nodes.keys <+: g'.nodes.keys ∧ g.edges.keys <+: g'.edges.keys ∧
    g.raws.keys <+: g'.raws.keys ∧ (∀ parent, g.children parent <+: g'.children parent) ∧
    (∀ raw ids, g.rawIds? raw = some ids → ∃ ids', g'.rawIds? raw = some ids' ∧ ids <+: ids') ∧
    ∀ id old, g.get? id = some old → ∃ new, g'.get? id = some new ∧
      new.kind = old.kind ∧ old.id = id ∧ new.id = id ∧ new.shown = old.shown ∧
      (old.notes.translation.isSome → new.notes.translation.isSome) ∧
      (old.notes.lede.isSome → new.notes.lede.isSome) ∧
      (old.partOfSpeech?.isSome → new.partOfSpeech?.isSome) := by
  intro g'
  have hgrows : g.Grows g' := hg.settled.grows_runAll h
  refine ⟨hgrows.nodes.keys, hgrows.edges.keys, hgrows.raws.keys, hgrows.edges.prefix_getD, ?_, ?_⟩
  · intro raw ids hids
    obtain ⟨set, hset, rfl⟩ := Option.map_eq_some_iff.1 hids
    obtain ⟨set', hset', hleads⟩ := hgrows.raws.value hset
    exact ⟨set'.toList, congrArg (Option.map OrderedSet.toList) hset', hleads⟩
  · intro id old hold
    have hid : old.id = id := hg.keyed _ (OrderedMap.mem_entries_iff.2 hold)
    obtain ⟨new, hnew, hkeeps⟩ := hgrows.nodes.value hold
    exact ⟨new, hnew, hkeeps.kind, hid, hkeeps.id.trans hid, hkeeps.shown, hkeeps.translation,
      hkeeps.lede, hkeeps.partOfSpeech⟩

/-- A card that has a part of speech, through a source whose second block fails, a group that does
not fit its policy, and a quiz that asks the same without a part of speech. -/
theorem grows_of_operations_past_failures :
    let noun : Quiz := .card { Card.make "a" ["b"] true false with partOfSpeech := some ["n"] }
    let g := empty.insert noun
    let operations : List Operation :=
      [.compileInto Markdown.headingStarts 0 "# @ a @ b\n\n# @ c\n- @fill d",
        .link sentencePolicy [none], .edit (.insert (.card (.make "a" ["b"] true true)))]
    let g' := operations.foldl Operation.run g
    g'.size = 3 ∧ g.nodes.keys <+: g'.nodes.keys ∧
      ∃ new, g'.get? noun.id = some new ∧ new ≠ noun ∧ new.shown = noun.shown ∧
        new.partOfSpeech?.isSome := by
  intro noun g operations g'
  have hg : g.WellFormed := Built.wellFormed (.insert .empty trivial)
  have hsound : ∀ operation ∈ operations, operation.Sound := by
    simp [operations, Operation.Sound, Quiz.Made]
  obtain ⟨hnodes, -, -, -, -, hquizzes⟩ := grows_of_operations hg hsound
  have hnoun : g.get? noun.id = some noun := by decide +kernel
  obtain ⟨new, hnew, -, -, -, hshown, -, -, hpart⟩ := hquizzes noun.id noun hnoun
  have hdiffers : g'.get? noun.id ≠ some noun := by decide +kernel
  exact ⟨by decide +kernel, hnodes, new, hnew, fun h => hdiffers (h ▸ hnew), hshown,
    hpart (by decide +kernel)⟩

end Graph

end StudyGraph
