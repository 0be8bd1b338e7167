import StudyGraph.Proofs.Annotation
import StudyGraph.Proofs.Merging

/-!
# The matching of a block

A vocabulary bullet with an item of its own gives a pair if it has a marker for the reading and one
for a translation (`Sentence.GivesPair`), and the pair is what these markers say (`Bullet.Tells`).
The cards on which the pair is read are those that the bullet gave, not the nodes into which they
are merged, so neither the graph nor another bullet has a say (`Sentence.tells_of_pairOf?`). Hence
the pairs of the matching go with the bullets that give one, in order
(`Sentence.forall₂_tells_pairs`), and there is a matching if there is such a bullet.

The plan mentions no other matching, so what is staged has this one alone
(`Sentence.ofKind_matching_add_plan`). It is linked by the matching policy, with the group of every
item and with nothing else (`Sentence.credits_matching_iff`). `Graph.matching_of_compileBlock` puts
this together.
-/

set_option linter.unusedSectionVars false

namespace StudyGraph

section Lists

variable {α β : Type}

theorem eq_toList_of_nodup {as : List α} {o : Option α} (has : as.Nodup)
    (h : ∀ a, a ∈ as ↔ o = some a) : as = o.toList := by
  have hmem : ∀ a, a ∈ as ↔ a ∈ o.toList := by simpa using h
  cases o with
  | none => simpa [List.eq_nil_iff_forall_not_mem] using hmem
  | some a =>
    exact List.perm_singleton.1
      ((List.perm_ext_iff_of_nodup has (List.nodup_singleton a)).2 hmem)

/-- What is read off a list goes with the members off which something is read. -/
theorem forall₂_filter_filterMap {R : α → β → Prop} {p : α → Prop} [DecidablePred p]
    {f : α → Option β} : ∀ {as : List α}, (∀ a ∈ as, (f a).isSome ↔ p a) →
    (∀ a ∈ as, ∀ b, f a = some b → R a b) → List.Forall₂ R (as.filter p) (as.filterMap f)
  | [], _, _ => .nil
  | a :: as, hp, hR => by
    obtain ⟨hpa, hpas⟩ := List.forall_mem_cons.1 hp
    obtain ⟨hRa, hRas⟩ := List.forall_mem_cons.1 hR
    have ih := forall₂_filter_filterMap hpas hRas
    cases hf : f a with
    | none =>
      have hnot : ¬p a := fun h => by simp [hf] at hpa; exact hpa h
      simpa [hf, hnot] using ih
    | some b =>
      have hyes : p a := hpa.1 (by simp [hf])
      simpa [hf, hyes] using ⟨hRa b hf, ih⟩

end Lists

/-! ## The pair of a bullet -/

/-- A pair is what the markers of a bullet say: the reading that `@furigana` spells out, and the
translation. -/
def Bullet.Tells (bullet : Bullet) (pair : Pair) : Prop :=
  (∃ t, bullet.fields.marker "furigana" = some t ∧ Furigana.parse t = .ok pair.text) ∧
    bullet.fields.translation? = some pair.translation

/-- There is a translation if one of the markers is for a language. -/
theorem Fields.isSome_translation?_iff {fields : Fields} :
    fields.translation?.isSome ↔ ∃ name ∈ fields.markers.keys, (language? name).isSome := by
  have htexts : ∀ texts : List (Text × Text), (translationOf? texts).isSome ↔ ∃ e, e ∈ texts := by
    intro texts
    cases texts with
    | nil => simp [translationOf?]
    | cons e texts => exact iff_of_true rfl ⟨e, List.mem_cons_self⟩
  rw [translation?, htexts, OrderedMap.keys]
  simp only [List.mem_filterMap, Option.map_eq_some_iff, Option.isSome_iff_exists, List.mem_map]
  constructor
  · rintro ⟨-, ⟨name, text⟩, hmem, language, hlanguage, -⟩
    exact ⟨name, ⟨(name, text), hmem, rfl⟩, language, hlanguage⟩
  · rintro ⟨-, ⟨⟨name, text⟩, hmem, rfl⟩, language, hlanguage⟩
    exact ⟨(language, text), (name, text), hmem, language, hlanguage, rfl⟩

theorem Fields.lede?_eq_some_iff {fields : Fields} {units : Furigana} :
    fields.lede? = some units ↔
      ∃ t, fields.marker "furigana" = some t ∧ Furigana.parse t = .ok units := by
  have hparse : ∀ t, (Furigana.parse t).toOption = some units ↔ Furigana.parse t = .ok units := by
    intro t
    cases Furigana.parse t <;> simp [Except.toOption]
  simp only [lede?, Option.bind_eq_some_iff, hparse]

namespace Sentence

variable {s : Sentence} {known : Bool} {bullet : Bullet} {bullets : List Bullet} {v : Vocabulary}
  {m : Matching} {c : Contribution} {entry : Entry} {pair : Pair}

/-- The bullet is for an item that is not the sentence, and has a marker `@furigana` and a marker
`@t-language`. -/
def GivesPair (s : Sentence) (bullet : Bullet) : Prop :=
  bullet.kind = .vocabulary ∧ bullet.fields.item ≠ s.item ∧
    (bullet.fields.marker "furigana").isSome ∧
    ∃ name ∈ bullet.fields.markers.keys, (language? name).isSome

instance (s : Sentence) (bullet : Bullet) : Decidable (s.GivesPair bullet) :=
  inferInstanceAs (Decidable (_ ∧ _ ∧ _ ∧ _))

/-- The pair that is read on the cards of a bullet. -/
def pairOf? (s : Sentence) (bullet : Bullet) : Option Pair :=
  ((s.entry bullet).toOption.bind Entry.vocabulary?).bind Vocabulary.pair?

theorem pairOf?_of_repeats {partOfSpeech : Option (List Text)}
    (h : s.entry bullet = .ok (.repeats partOfSpeech)) : s.pairOf? bullet = none := by
  simp [pairOf?, h, Except.toOption, Entry.vocabulary?]

/-- The cards of a bullet carry what its own markers say. -/
theorem pairOf?_of_vocabulary (h : s.entry bullet = .ok (.vocabulary v)) :
    s.pairOf? bullet = do
      let text ← bullet.fields.lede?
      let translation ← bullet.fields.translation?
      return { text, translation } := by
  have hlede : v.cards.first.notes.lede = bullet.fields.lede? := Quiz.tells_lede.first h
  have htranslation : v.cards.first.notes.translation = bullet.fields.translation? :=
    Quiz.tells_translation.first h
  have hpair : s.pairOf? bullet = v.pair? := by
    simp [pairOf?, h, Except.toOption, Entry.vocabulary?]
  rw [hpair, Vocabulary.pair?, hlede, htranslation]

theorem tells_of_pairOf? (hentry : s.entry bullet = .ok entry) (h : s.pairOf? bullet = some pair) :
    bullet.Tells pair := by
  cases entry with
  | «repeats» partOfSpeech =>
    rw [pairOf?_of_repeats hentry] at h
    cases h
  | vocabulary v =>
    rw [pairOf?_of_vocabulary hentry] at h
    simp only [Option.bind_eq_bind, Option.bind_eq_some_iff, Option.pure_def,
      Option.some.injEq] at h
    obtain ⟨text, htext, translation, htranslation, rfl⟩ := h
    exact ⟨Fields.lede?_eq_some_iff.1 htext, htranslation⟩

/-- A marker whose furigana can be read gives a lede. -/
theorem isSome_lede?_iff {fields : Fields} {line : Line} {lede : Option Furigana}
    (h : markedFurigana fields line = .ok lede) :
    fields.lede?.isSome ↔ (fields.marker "furigana").isSome := by
  rw [lede?_of_markedFurigana h]
  unfold markedFurigana at h
  split at h
  · next hnone =>
    obtain rfl := Except.ok.inj h
    rw [hnone]
    rfl
  · next t hsome =>
    cases hread : readFurigana line t with
    | error fault => simp [hread, Except.map] at h
    | ok units =>
      rw [hread] at h
      obtain rfl := Except.ok.inj h
      rw [hsome]
      rfl

/-- A bullet that can be read gives a pair exactly if it has the markers for it. -/
theorem isSome_pairOf?_iff (hkind : bullet.kind = .vocabulary)
    (hentry : s.entry bullet = .ok entry) :
    (s.pairOf? bullet).isSome ↔ s.GivesPair bullet := by
  rcases outcome_of_entry hentry with ⟨hitem, rfl⟩ | ⟨v, lede, rfl, hv, hlede, -⟩
  · rw [pairOf?_of_repeats hentry]
    exact iff_of_false nofun fun h => h.2.1 hitem
  · rw [pairOf?_of_vocabulary hentry, GivesPair, ← isSome_lede?_iff hlede,
      ← Fields.isSome_translation?_iff]
    simp only [hkind, hv.item_ne, ne_eq, not_false_eq_true, true_and]
    cases bullet.fields.lede? <;> cases bullet.fields.translation? <;> simp

/-! ## The matching of a sentence -/

theorem pairs_vocabularies (s : Sentence) (items : List Bullet) :
    (s.vocabularies items).filterMap Vocabulary.pair? = items.filterMap s.pairOf? :=
  List.filterMap_filterMap ..

theorem matching?_eq_some_iff {vocabularies : List Vocabulary} :
    s.matching? vocabularies = some m ↔ vocabularies.filterMap Vocabulary.pair? ≠ [] ∧
      m = .make (vocabularies.filterMap Vocabulary.pair?) s.notes := by
  unfold matching?
  dsimp only
  split
  · next h =>
    rw [List.isEmpty_iff] at h
    simp [h]
  · next h =>
    rw [List.isEmpty_iff] at h
    simp [h, eq_comm]

section Read

variable (hentries : ∀ bullet ∈ bullets, bullet.kind = .vocabulary →
  ∃ entry, s.entry bullet = .ok entry)

include hentries

/-- The pairs go with the bullets that give one, in order. -/
theorem forall₂_tells_pairs : List.Forall₂ Bullet.Tells (bullets.filter s.GivesPair)
    ((s.vocabularies (bullets.filter (·.kind = .vocabulary))).filterMap Vocabulary.pair?) := by
  have hfilter : bullets.filter s.GivesPair =
      (bullets.filter (·.kind = .vocabulary)).filter s.GivesPair := by
    rw [List.filter_filter]
    refine List.filter_congr fun bullet _ => ?_
    simp only [← Bool.decide_and, decide_eq_decide]
    exact ⟨fun h => ⟨h, h.1⟩, And.left⟩
  rw [hfilter, pairs_vocabularies]
  refine forall₂_filter_filterMap (fun bullet hbullet => ?_) fun bullet hbullet pair hpair => ?_
  · obtain ⟨entry, hentry⟩ := exists_entry_of_filter hentries bullet hbullet
    exact isSome_pairOf?_iff (by simpa using (List.mem_filter.1 hbullet).2) hentry
  · obtain ⟨entry, hentry⟩ := exists_entry_of_filter hentries bullet hbullet
    exact tells_of_pairOf? hentry hpair

theorem exists_hasMatching_iff :
    (∃ m, s.HasMatching bullets m) ↔ ∃ bullet ∈ bullets, s.GivesPair bullet := by
  have hpairs := (forall₂_tells_pairs hentries).length_eq
  have hgives : (∃ bullet ∈ bullets, s.GivesPair bullet) ↔ bullets.filter s.GivesPair ≠ [] := by
    simp [List.filter_eq_nil_iff]
  simp only [HasMatching, matching?_eq_some_iff, exists_and_left, exists_eq, and_true]
  rw [hgives, ne_eq, ne_eq, ← List.length_eq_zero_iff, ← List.length_eq_zero_iff, hpairs]

end Read

/-! ## What is staged -/

theorem mem_matchings_iff {quiz : Quiz} :
    quiz ∈ s.matchings bullets ↔ ∃ m, s.HasMatching bullets m ∧ quiz = .matching m := by
  simp [matchings, HasMatching, eq_comm]

theorem HasMatching.unique {m' : Matching} (hm : s.HasMatching bullets m)
    (hm' : s.HasMatching bullets m') : m = m' :=
  Option.some.inj (hm.symm.trans hm')

theorem kind_ne_matching_of_mem_quizzes {quiz : Quiz} (h : quiz ∈ s.quizzes) :
    quiz.kind ≠ .matching := by
  obtain ⟨card, -, rfl⟩ := List.mem_map.1 h
  nofun

theorem kind_ne_matching_of_mem_item {quiz : Quiz} (h : quiz ∈ v.quizzes) :
    quiz.kind ≠ .matching := by
  rcases Vocabulary.mem_quizzes_iff.1 h with ⟨card, -, rfl⟩ | ⟨clozes, -, cloze, -, rfl⟩
  · nofun
  · nofun

theorem Mentions.mem_matchings {quiz : Quiz} (h : s.Mentions known bullets quiz)
    (hkind : quiz.kind = .matching) : quiz ∈ s.matchings bullets := by
  cases h with
  | card hcard => exact absurd hkind (kind_ne_matching_of_mem_quizzes hcard)
  | again _ _ _ => cases hkind
  | fill _ => cases hkind
  | item _ hquiz => exact absurd hkind (kind_ne_matching_of_mem_item hquiz)
  | matching hm => exact mem_matchings_iff.2 ⟨_, hm, rfl⟩

/-- Among the quizzes under an identity, a matching is that of the sentence. -/
def MatchesAt (s : Sentence) (bullets : List Bullet) (id : QuizId) (quiz : Quiz) : Prop :=
  quiz.id = id ∧ (quiz.kind = .matching → quiz ∈ s.matchings bullets)

theorem MatchesAt.absorb {id : QuizId} {old new : Quiz} (hold : s.MatchesAt bullets id old)
    (hnew : s.MatchesAt bullets id new) : s.MatchesAt bullets id (old.absorb new) := by
  have hid : old.id = new.id := hold.1.trans hnew.1.symm
  have hkind := Quiz.kind_eq_of_id_eq hid
  refine ⟨(Quiz.id_absorb hid).trans hold.1, fun habsorb => ?_⟩
  rw [Quiz.kind_absorb hkind] at habsorb
  obtain ⟨m, hm, rfl⟩ := mem_matchings_iff.1 (hold.2 habsorb)
  obtain ⟨m', hm', rfl⟩ := mem_matchings_iff.1 (hnew.2 (hkind ▸ habsorb))
  rw [hm.unique hm', Quiz.absorb_self]
  exact mem_matchings_iff.2 ⟨m', hm', rfl⟩

/-- A plan that is carried out alone makes the matching of its sentence, and no other. -/
theorem ofKind_matching_add_plan
    (hc : Contribution.collect ((s.plan known bullets).map Part.contribution) = .ok c) :
    (Graph.empty.add c).ofKind .matching = s.matchings bullets := by
  have hkeyed := Graph.keyed_empty.add c
  have hall : (Graph.empty.add c).nodes.All (s.MatchesAt bullets) := by
    refine OrderedMap.all_empty.blendAll MatchesAt.absorb fun e he => ?_
    obtain ⟨quiz, hquiz, rfl⟩ := List.mem_map.1 he
    exact ⟨rfl, ((mem_quizzes_iff_mentions hc).1 hquiz).mem_matchings⟩
  have hmem : ∀ quiz, quiz ∈ (Graph.empty.add c).ofKind .matching ↔
      ∃ m, s.HasMatching bullets m ∧ quiz = .matching m := by
    intro quiz
    rw [Graph.ofKind, List.mem_filter, decide_eq_true_eq]
    constructor
    · rintro ⟨hquiz, hkind⟩
      obtain ⟨e, he, rfl⟩ := List.mem_map.1 hquiz
      exact mem_matchings_iff.1 ((hall e he).2 hkind)
    · rintro ⟨m, hm, rfl⟩
      have hmention := (mem_quizzes_iff_mentions hc).2 (.matching hm)
      obtain ⟨node, hnode, hid⟩ := hkeyed.exists_get?
        (Graph.mem_nodes_add.2 (Or.inr (List.mem_map_of_mem hmention)))
      have hentry := OrderedMap.mem_entries_iff.2 hnode
      obtain ⟨m', hm', rfl⟩ := mem_matchings_iff.1 ((hall _ hentry).2 (Quiz.kind_eq_of_id_eq hid))
      rw [hm.unique hm']
      exact ⟨List.mem_map.2 ⟨_, hentry, rfl⟩, rfl⟩
  have hnodup : ((Graph.empty.add c).ofKind .matching).Nodup := by
    refine List.Nodup.filter _ (List.Nodup.of_map Quiz.id ?_)
    have hids : (Graph.empty.add c).nodes.values.map Quiz.id = (Graph.empty.add c).nodes.keys := by
      rw [OrderedMap.values, OrderedMap.keys, List.map_map]
      exact List.map_congr_left fun e he => hkeyed e he
    rw [hids]
    exact (Graph.empty.add c).nodes.nodup_keys'
  rw [matchings, ← Option.toList_map]
  refine eq_toList_of_nodup hnodup fun quiz => ?_
  rw [hmem, Option.map_eq_some_iff]
  simp only [HasMatching, eq_comm]

/-! ## What it is linked with -/

theorem credits_matching_iff (hm : s.HasMatching bullets m) {p c : QuizId}
    (hid : p = (Quiz.matching m).id ∨ c = (Quiz.matching m).id) :
    s.Credits bullets p c ↔ ∃ v, s.HasItem bullets v ∧
      matchingPolicy.Asks (s.slots ++ v.cardSlots ++ v.clozeSlots ++ [some (.matching m)]) p c := by
  have hother : ∀ {parent child : Quiz}, parent.kind ≠ .matching → child.kind ≠ .matching →
      parent.id = p → child.id = c → False := by
    rintro parent child hparent hchild rfl rfl
    rcases hid with hid | hid
    · exact hparent (Quiz.kind_eq_of_id_eq hid)
    · exact hchild (Quiz.kind_eq_of_id_eq hid)
  constructor
  · intro h
    cases h with
    | header h =>
      obtain ⟨i, j, parent, child, -, hparent, hchild, hp, hc⟩ := h
      rw [getElem?_headerGroup] at hparent hchild
      have hcards : ∀ {k : Nat} {quiz : Quiz}, s.slots[k]? = some (some quiz) →
          quiz.kind ≠ .matching := fun hquiz =>
        kind_ne_matching_of_mem_quizzes (mem_quizzes_iff.2 (List.mem_of_getElem? hquiz))
      exact (hother (hcards hparent.2) (hcards hchild.2) hp hc).elim
    | @item v _ _ hv h =>
      obtain ⟨i, j, parent, child, -, hparent, hchild, hp, hc⟩ := h
      have hgroup : ∀ {k : Nat} {quiz : Quiz}, (s.group v)[k]? = some (some quiz) →
          quiz.kind ≠ .matching := fun hquiz =>
        (mem_group_iff.1 (List.mem_of_getElem? hquiz)).elim kind_ne_matching_of_mem_quizzes
          kind_ne_matching_of_mem_item
      exact (hother (hgroup hparent) (hgroup hchild) hp hc).elim
    | @matching m' v _ _ hm' hv h =>
      obtain rfl := hm.unique hm'
      exact ⟨v, hv, h⟩
    | @toFill cloze card _ hcard =>
      have hcloze : (Quiz.cloze cloze).kind ≠ .matching := nofun
      exact (hother (kind_ne_matching_of_mem_quizzes hcard) hcloze rfl rfl).elim
    | @fromFill cloze card _ hcard =>
      have hcloze : (Quiz.cloze cloze).kind ≠ .matching := nofun
      exact (hother hcloze (kind_ne_matching_of_mem_quizzes hcard) rfl rfl).elim
  · rintro ⟨v, hv, h⟩
    exact .matching hm hv h

/-- The matching credits the first card of an item. -/
theorem asks_first (s : Sentence) (v : Vocabulary) (m : Matching) :
    matchingPolicy.Asks (s.group v ++ [some (.matching m)]) (Quiz.matching m).id
      (Quiz.card v.cards.first).id := by
  refine ⟨9, 3, _, _, by decide, s.getElem?_matching v m, ?_, rfl, rfl⟩
  rw [group, List.append_assoc, List.append_assoc,
    List.getElem?_append_right (by simp), length_slots]
  rfl

/-- Every cloze of an item credits the matching. -/
theorem asks_matching (s : Sentence) {v : Vocabulary} (m : Matching) {clozes : Trio Cloze}
    (hclozes : v.clozes = some clozes) {cloze : Cloze} (h : cloze ∈ clozes.toList) :
    matchingPolicy.Asks (s.group v ++ [some (.matching m)]) (Quiz.cloze cloze).id
      (Quiz.matching m).id := by
  have hslot : some (Quiz.cloze cloze) ∈ v.clozeSlots := by
    rw [Vocabulary.clozeSlots, hclozes]
    have hmem : some cloze ∈ clozes.slots := by simpa [Trio.toList] using h
    exact List.mem_map_of_mem hmem
  obtain ⟨k, hk⟩ := List.getElem?_of_mem hslot
  have hlength : (s.slots ++ v.cardSlots).length = 6 := by simp [Vocabulary.cardSlots]
  have hlt : k < v.clozeSlots.length := (List.getElem?_eq_some_iff.1 hk).1
  have hcells : ∀ k < 3, matchingPolicy.get 9 (6 + k) = true := by decide
  have hcell := hcells k (v.length_clozeSlots ▸ hlt)
  refine ⟨6 + k, 9, _, _, hcell, ?_, s.getElem?_matching v m, rfl, rfl⟩
  rw [group, List.append_assoc, List.getElem?_append_right (by omega), hlength,
    Nat.add_sub_cancel_left, List.getElem?_append_left (by omega), hk]

end Sentence

/-! ## Blocks -/

namespace Graph

/-- Under the identity of a matching stands a matching with its pairs and its lede. -/
theorem Settled.exists_matching {g : Graph} (hg : g.Settled) {m : Matching}
    (hm : (Quiz.matching m).Made) (h : (Quiz.matching m).id ∈ g.nodes.keys) :
    ∃ node, g.get? (Quiz.matching m).id = some (.matching node) ∧ node.pairs = m.pairs ∧
      node.notes.lede = m.notes.lede := by
  obtain ⟨⟨id, quiz⟩, he, rfl⟩ := List.mem_map.1 h
  obtain ⟨hid, hmade⟩ := hg _ he
  have hquestion := Quiz.id_eq_id_iff_question.1 hid
  cases quiz with
  | card card => cases hquestion
  | cloze cloze => cases hquestion
  | matching node =>
    obtain ⟨hsentence, hpairs⟩ := Question.matching.inj hquestion
    rw [Quiz.sentence_eq_of_made hmade, Quiz.sentence_eq_of_made hm] at hsentence
    exact ⟨node, OrderedMap.mem_entries_iff.1 he, hpairs, hsentence⟩

/-- The matching of a block is told by the block alone. A block that is compiled into a graph
contributes a matching exactly if one of its bullets gives a pair, and then just one. Its pairs are
what these bullets say, one for each and in their order; its lede and its notes are those of the
sentence. It is linked by the matching policy with the group of every item, so that it credits the
first card of the item and every cloze of the item credits it, and the block gives it no other
edges. In a well-formed graph the node has the same pairs and the same lede. -/
theorem matching_of_compileBlock {file : Nat} {g g' : Graph} {block : Block}
    (h : g.compileBlock file block = .ok g') :
    (block.sentence? = none ∧ g' = g) ∨ ∃ s staged, block.sentence? = some (.ok s) ∧
      Sentence.ledeOf block.bullets = .ok s.notes.lede ∧
      block.stage g = .ok staged ∧ g' = g.merge staged ∧
      ((∃ quiz, quiz ∈ staged.ofKind .matching) ↔ ∃ bullet ∈ block.bullets, s.GivesPair bullet) ∧
      ∀ quiz ∈ staged.ofKind .matching, staged.ofKind .matching = [quiz] ∧
        ∃ m, quiz = .matching m ∧
          List.Forall₂ Bullet.Tells (block.bullets.filter s.GivesPair) m.pairs ∧
          m.sentence = s.notes.lede ∧ m.notes = s.notes ∧
          (∀ p c, p = quiz.id ∨ c = quiz.id → (c ∈ staged.children p ↔ p ≠ c ∧
            ∃ v, s.HasItem block.bullets v ∧ matchingPolicy.Asks
              (s.slots ++ v.cardSlots ++ v.clozeSlots ++ [some quiz]) p c)) ∧
          (∀ bullet ∈ block.bullets, bullet.kind = .vocabulary → bullet.fields.item ≠ s.item →
            ∃ v, s.entry bullet = .ok (.vocabulary v) ∧
              (Quiz.card v.cards.first).id ∈ g'.children quiz.id ∧
              ∀ clozes, v.clozes = some clozes → ∀ cloze ∈ clozes.toList,
                quiz.id ∈ g'.children (Quiz.cloze cloze).id) ∧
          (g.WellFormed → ∃ node, g'.get? quiz.id = some (.matching node) ∧
            node.pairs = m.pairs ∧ node.notes.lede = s.notes.lede) := by
  rcases compileBlock_ok_cases h with hnone | ⟨s, c, hs, hc, rfl⟩
  · exact Or.inl hnone
  obtain ⟨header, content, -, -, hreads⟩ := Block.exists_reads_of_sentence? hs
  obtain ⟨-, hentries⟩ := Sentence.exists_of_collect_plan hc
  have hstage : block.stage g = .ok (empty.add c) := by
    rw [Block.stage_eq, Block.contribution_of_sentence? hs, hc]
    rfl
  refine Or.inr ⟨s, empty.add c, hs, hreads.ledeOf_eq, hstage, (merge_empty_add g c).symm, ?_, ?_⟩
  · rw [Sentence.ofKind_matching_add_plan hc, ← Sentence.exists_hasMatching_iff hentries]
    simp [Sentence.mem_matchings_iff]
  intro quiz hquiz
  rw [Sentence.ofKind_matching_add_plan hc] at hquiz ⊢
  obtain ⟨m, hm, rfl⟩ := Sentence.mem_matchings_iff.1 hquiz
  obtain ⟨-, hmake⟩ := Sentence.matching?_eq_some_iff.1 hm
  have hnotes : m.notes = s.notes := by rw [hmake]; rfl
  have hlinked : ∀ {v : Vocabulary} {p q : QuizId}, s.HasItem block.bullets v →
      matchingPolicy.Asks (s.group v ++ [some (.matching m)]) p q → p ≠ q →
      q ∈ (g.add c).children p := by
    intro v p q hv hasks hne
    rw [mem_children_iff, relates_edges_add]
    exact Or.inr ((Sentence.brings_edges_plan hc).2 ⟨hne, .matching hm hv hasks⟩)
  refine ⟨?_, m, rfl, ?_, ?_, hnotes, fun p q hid => ?_, fun bullet hbullet hkind hitem => ?_,
    fun hg => ?_⟩
  · rw [Sentence.matchings, show s.matching? _ = some m from hm]
    rfl
  · rw [hmake]
    exact Sentence.forall₂_tells_pairs hentries
  · rw [hmake]
    rfl
  · have hempty : ¬empty.edges.Relates p q := OrderedMap.not_relates_empty
    rw [mem_children_iff, relates_edges_add, Sentence.brings_edges_plan hc,
      Sentence.credits_matching_iff hm hid]
    simp only [hempty, false_or]
  · obtain ⟨entry, hentry⟩ := hentries bullet hbullet hkind
    rcases Sentence.entry_cases hentry with ⟨hrepeats, -⟩ | ⟨v, rfl, -⟩
    · exact absurd hrepeats hitem
    have hv : s.HasItem block.bullets v := ⟨bullet, hbullet, hkind, hentry⟩
    refine ⟨v, hentry, hlinked hv (s.asks_first v m) fun hid => ?_,
      fun clozes hclozes cloze hcloze => hlinked hv (s.asks_matching m hclozes hcloze)
        fun hid => ?_⟩
    · cases Quiz.kind_eq_of_id_eq hid
    · cases Quiz.kind_eq_of_id_eq hid
  · have hmade : (Quiz.matching m).Made := by
      rw [hmake]
      exact Quiz.made_make _ _
    rw [← hnotes]
    refine (hg.compileBlock h).settled.exists_matching hmade (mem_nodes_add.2 (Or.inr ?_))
    exact List.mem_map_of_mem ((Sentence.mem_quizzes_iff_mentions hc).2 (.matching hm))

/-- Two equal bullets that give a pair, in a graph that translates their card otherwise, beside an
item without a reading and a bullet that repeats the sentence. -/
theorem matching_of_compileBlock_with_equal_pairs :
    let word := "- @ b @ d @furigana e @t-en f".toList
    let earlier := Block.ofLines ["# @ b @ d @t-en other".toList]
    let block := Block.ofLines ["# @ ab @ c".toList, word, "- @ a @ x @t-en y".toList, word,
      "- @ ab @ c @furigana q @t-en r".toList]
    let pair : Pair := ⟨[.plain "e"], .ofList [("en", "f")]⟩
    ∃ g g' s m, empty.compileBlock 0 earlier = .ok g ∧ g.compileBlock 0 block = .ok g' ∧
      block.sentence? = some (.ok s) ∧ (block.bullets.filter s.GivesPair).length = 2 ∧
      List.Forall₂ Bullet.Tells (block.bullets.filter s.GivesPair) m.pairs ∧
      (∃ node, g'.get? (Quiz.matching m).id = some (.matching node) ∧ node.pairs = m.pairs) ∧
      (g'.ofKind .matching).map Quiz.question = [.matching none [pair, pair]] := by
  intro word earlier block pair
  obtain ⟨g, hg⟩ : ∃ g, empty.compileBlock 0 earlier = .ok g :=
    exists_eq_ok_of_isSome (by decide +kernel)
  have hquestions : ((empty.compileBlock 0 earlier).toOption.bind fun g =>
      (g.compileBlock 0 block).toOption).map (fun g => (g.ofKind .matching).map Quiz.question) =
      some [.matching none [pair, pair]] := by
    decide +kernel
  have hsentence : block.sentence?.isSome = true := by decide +kernel
  simp only [hg, Except.toOption, Option.bind_some] at hquestions
  obtain ⟨g', hg'⟩ : ∃ g', g.compileBlock 0 block = .ok g' := by
    cases hcompile : g.compileBlock 0 block with
    | error failure => simp [hcompile] at hquestions
    | ok g' => exact ⟨g', rfl⟩
  rw [hg'] at hquestions
  rcases matching_of_compileBlock hg' with
    ⟨hnone, -⟩ | ⟨s, staged, hs, -, -, -, hiff, hmatching⟩
  · simp [hnone] at hsentence
  have hgives : (block.bullets.filter s.GivesPair).length = 2 :=
    Block.eq_of_sentence? hs (fun s => (block.bullets.filter s.GivesPair).length)
      (by decide +kernel)
  obtain ⟨bullet, hbullet⟩ := List.exists_mem_of_length_pos (hgives ▸ Nat.two_pos)
  obtain ⟨quiz, hquiz⟩ := hiff.2 ⟨bullet, by simpa using hbullet⟩
  obtain ⟨-, m, rfl, htells, -, -, -, -, hnode⟩ := hmatching quiz hquiz
  obtain ⟨node, hget, hpairs, -⟩ := hnode (wellFormed_empty.compileBlock hg)
  exact ⟨g, g', s, m, hg, hg', hs, hgives, htells, ⟨node, hget, hpairs⟩,
    Option.some.inj hquestions⟩

end Graph

end StudyGraph
