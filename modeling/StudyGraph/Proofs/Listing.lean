import Mathlib.Data.List.Basic
import StudyGraph.Proofs.Given
import StudyGraph.Proofs.Relation

/-!
# What a sentence lists

A step that registers a quiz lists it under a raw text (`Step.listings`), and no other step does. A
key that single members arrive at holds them in order, the first of equals kept
(`OrderedMap.get?_blendAll_singles`). So the raw texts of a block can be read off its plan. They are
those of its sentence (`Sentence.listings`) : the cards of the sentence under the header, the
quizzes of every bullet under the bullet, and the matching under the header again. Bullets that
repeat the sentence list cards that are listed already (`Sentence.ofList_arrivalsAt_plan`), and
bullets with the same text list the same (`Sentence.ofList_arrivalsAt_raw`).
-/

set_option linter.unusedSectionVars false

namespace StudyGraph

/-! ## Members that arrive one by one -/

namespace OrderedSet

variable {α : Type} [DecidableEq α]

theorem toList_ofList_of_nodup {as : List α} (h : as.Nodup) : (ofList as).toList = as :=
  toList_insertAll_of_fresh (by simp [← mem_toList]) h

/-- What is in front already makes no difference. -/
theorem ofList_append_of_mem {as bs : List α} (cs : List α) (h : ∀ b ∈ bs, b ∈ as) :
    ofList (as ++ bs ++ cs) = ofList (as ++ cs) := by
  have hbs : (ofList as).insertAll bs = ofList as :=
    insertAll_of_mem fun b hb => mem_ofList.2 (h b hb)
  calc ofList (as ++ bs ++ cs)
    _ = ((ofList as).insertAll bs).insertAll cs := by
      rw [ofList, insertAll_append, insertAll_append, ofList]
    _ = (ofList as).insertAll cs := by rw [hbs]
    _ = ofList (as ++ cs) := (insertAll_append empty as cs).symm

/-- A list once or more often, with nothing between, is the list. -/
theorem ofList_flatMap_const {β : Type} {f : β → List α} {as : List α} : ∀ {bs : List β},
    (∀ b ∈ bs, f b = as ∨ f b = []) → (as = [] ∨ ∃ b ∈ bs, f b = as) →
    ofList (bs.flatMap f) = ofList as
  | [], _, hsome => by
    obtain rfl : as = [] := by simpa using hsome
    rfl
  | b :: bs, h, hsome => by
    obtain ⟨hb, hbs⟩ := List.forall_mem_cons.1 h
    rw [List.flatMap_cons]
    rcases hb with hb | hb
    · have hmem : ∀ a ∈ bs.flatMap f, a ∈ as := by
        intro a ha
        obtain ⟨b', hb', ha⟩ := List.mem_flatMap.1 ha
        rcases hbs b' hb' with hf | hf
        · rwa [hf] at ha
        · simp [hf] at ha
      have happend := ofList_append_of_mem [] hmem
      rw [List.append_nil, List.append_nil] at happend
      rw [hb, happend]
    · rw [hb, List.nil_append]
      refine ofList_flatMap_const hbs ?_
      rcases hsome with hnil | ⟨b', hb', hf⟩
      · exact Or.inl hnil
      · rcases List.mem_cons.1 hb' with rfl | hb'
        · exact Or.inl (hf.symm.trans hb)
        · exact Or.inr ⟨b', hb', hf⟩

/-- The members, if there are any. -/
def members? (s : OrderedSet α) : Option (List α) :=
  if s.toList = [] then none else some s.toList

theorem members?_ofList_of_nodup {as : List α} (h : as.Nodup) :
    (ofList as).members? = if as = [] then none else some as := by
  rw [members?, toList_ofList_of_nodup h]

theorem members?_of_mem {s : OrderedSet α} {a : α} (h : a ∈ s) : s.members? = some s.toList :=
  if_neg (List.ne_nil_of_mem h)

theorem exists_mem_of_members? {s : OrderedSet α} {as : List α} (h : s.members? = some as) :
    ∃ a, a ∈ s := by
  unfold members? at h
  split at h
  · cases h
  · next hne => exact List.exists_mem_of_ne_nil _ hne

end OrderedSet

namespace OrderedMap

variable {κ α : Type} [DecidableEq κ] [DecidableEq α]

/-- What arrives at a key, in order. -/
def arrivalsAt (k : κ) (es : List (κ × α)) : List α :=
  (es.filter fun e => e.1 = k).map Prod.snd

/-- Members that arrive one by one. -/
def singles (es : List (κ × α)) : List (κ × OrderedSet α) :=
  es.map fun e => (e.1, .ofList [e.2])

variable {k : κ} {a : α} {es fs : List (κ × α)}

theorem mem_arrivalsAt : a ∈ arrivalsAt k es ↔ (k, a) ∈ es := by
  simp [arrivalsAt]

theorem arrivalsAt_append : arrivalsAt k (es ++ fs) = arrivalsAt k es ++ arrivalsAt k fs := by
  simp [arrivalsAt]

theorem arrivalsAt_flatMap {β : Type} (f : β → List (κ × α)) (bs : List β) :
    arrivalsAt k (bs.flatMap f) = bs.flatMap fun b => arrivalsAt k (f b) := by
  simp [arrivalsAt, List.filter_flatMap, List.map_flatMap]

theorem arrivalsAt_map_self (as : List α) : arrivalsAt k (as.map (k, ·)) = as := by
  have hall : (as.map (k, ·)).filter (fun e => e.1 = k) = as.map (k, ·) :=
    List.filter_eq_self.2 (by simp)
  rw [arrivalsAt, hall, List.map_map]
  exact List.map_id as

theorem arrivalsAt_map_of_ne {l : κ} (as : List α) (h : l ≠ k) :
    arrivalsAt k (as.map (l, ·)) = [] := by
  have hnone : (as.map (l, ·)).filter (fun e => e.1 = k) = [] :=
    List.filter_eq_nil_iff.2 (by simp [h])
  rw [arrivalsAt, hnone, List.map_nil]

theorem brings_singles : Brings (singles es) k a ↔ (k, a) ∈ es := by
  simp [Brings, singles]

/-- A key at which single members arrive holds them behind those that it had. -/
theorem get?_blendAll_singles (m : OrderedMap κ (OrderedSet α)) (es : List (κ × α)) (k : κ) :
    (m.blendAll OrderedSet.union (singles es)).get? k =
      if arrivalsAt k es = [] then m.get? k
      else some (((m.get? k).getD .empty).insertAll (arrivalsAt k es)) := by
  induction es generalizing m with
  | nil => rfl
  | cons e es ih =>
    obtain ⟨l, a⟩ := e
    have hcons : m.blendAll OrderedSet.union (singles ((l, a) :: es)) =
        (m.blend OrderedSet.union l (.ofList [a])).blendAll OrderedSet.union (singles es) := rfl
    rw [hcons, ih, get?_blend]
    by_cases h : l = k
    · subst h
      have hhere : arrivalsAt l ((l, a) :: es) = a :: arrivalsAt l es := by simp [arrivalsAt]
      have hvalue : ((m.get? l).map (OrderedSet.union · (.ofList [a]))).getD (.ofList [a]) =
          ((m.get? l).getD .empty).insert a := by
        cases m.get? l with
        | none => rfl
        | some s => exact OrderedSet.union_ofList s [a]
      rw [if_pos rfl, hhere, hvalue, if_neg (List.cons_ne_nil a _), Option.getD_some]
      split
      · next hnil =>
        rw [hnil]
        rfl
      · rfl
    · have helse : arrivalsAt k ((l, a) :: es) = arrivalsAt k es := by simp [arrivalsAt, h]
      rw [if_neg h, helse]

/-- Alone, they are what the key lists. -/
theorem members?_blendAll_singles (es : List (κ × α)) (k : κ) :
    ((empty.blendAll OrderedSet.union (singles es)).get? k).map OrderedSet.toList =
      (OrderedSet.ofList (arrivalsAt k es)).members? := by
  rw [get?_blendAll_singles]
  split
  · next hnil =>
    rw [hnil]
    rfl
  · next hne =>
    obtain ⟨a, ha⟩ := List.exists_mem_of_ne_nil _ hne
    rw [OrderedSet.members?_of_mem (OrderedSet.mem_ofList.2 ha)]
    rfl

end OrderedMap

/-! ## What steps list -/

/-- The identities of quizzes, each under the raw text. -/
def listUnder (raw : Text) (quizzes : List Quiz) : List (Text × QuizId) :=
  (quizzes.map Quiz.id).map (raw, ·)

theorem mem_listUnder {raw key : Text} {quizzes : List Quiz} {id : QuizId} :
    (key, id) ∈ listUnder raw quizzes ↔ key = raw ∧ ∃ quiz ∈ quizzes, quiz.id = id := by
  unfold listUnder
  simp only [List.map_map, List.mem_map, Function.comp_apply, Prod.mk.injEq]
  constructor
  · rintro ⟨quiz, hquiz, rfl, rfl⟩
    exact ⟨rfl, quiz, hquiz, rfl⟩
  · rintro ⟨rfl, quiz, hquiz, rfl⟩
    exact ⟨quiz, hquiz, rfl, rfl⟩

/-- What a step lists under raw texts. -/
def Step.listings : Step → List (Text × QuizId)
  | register raw quiz => listUnder raw [quiz]
  | credit _ _ => []
  | link _ _ _ => []

theorem Step.raws_of_contribution {step : Step} {c : Contribution} (h : step.contribution = .ok c) :
    c.raws = OrderedMap.singles step.listings := by
  cases step with
  | register raw quiz =>
    obtain rfl := Except.ok.inj h
    rfl
  | credit parent child =>
    obtain rfl := Except.ok.inj h
    rfl
  | link policy group line =>
    rw [contribution] at h
    split at h
    · obtain rfl := Except.ok.inj h
      rw [Contribution.raws_join, List.flatMap_map]
      exact List.flatMap_eq_nil_iff.2 fun _ _ => rfl
    · cases h

/-- The steps of a part, none if it is at fault. -/
def Part.stepList (part : Part) : List Step :=
  part.steps.toOption.getD []

/-- What is read off the steps is read off what a plan collects. -/
theorem Part.flatMap_of_collect {β : Type} {read : Contribution → List β}
    (hnil : read .nil = []) (happend : ∀ c d, read (c ++ d) = read c ++ read d)
    {expected : Step → List β} (hstep : ∀ {step : Step} {c}, step.contribution = .ok c →
      read c = expected step) {parts : List Part} {c : Contribution}
    (h : Contribution.collect (parts.map Part.contribution) = .ok c) :
    read c = (parts.flatMap stepList).flatMap expected := by
  rw [List.flatMap_assoc]
  refine Contribution.flatMap_of_collect hnil happend (fun {part d} hd => ?_) h
  cases hsteps : part.steps with
  | error fault => simp [Part.contribution, hsteps, Except.bind] at hd
  | ok steps =>
    rw [Part.contribution, hsteps] at hd
    rw [stepList, hsteps]
    exact Contribution.flatMap_of_collect hnil happend hstep hd

theorem Part.raws_of_collect {parts : List Part} {c : Contribution}
    (h : Contribution.collect (parts.map Part.contribution) = .ok c) :
    c.raws = OrderedMap.singles ((parts.flatMap stepList).flatMap Step.listings) := by
  rw [OrderedMap.singles, List.map_flatMap]
  exact flatMap_of_collect rfl Contribution.raws_append Step.raws_of_contribution h

/-! ## Sentences -/

namespace Sentence

/-- The matching of the sentence, if its bullets give one. -/
def matchings (s : Sentence) (bullets : List Bullet) : List Quiz :=
  (s.matching? (s.vocabularies (bullets.filter (·.kind = .vocabulary)))).toList.map .matching

/-- The bullets that can give quizzes, in the order of their parts. -/
def giving (bullets : List Bullet) : List Bullet :=
  bullets.filter (·.kind = .fill) ++ bullets.filter (·.kind = .vocabulary)

/-- What the sentence lists with these bullets : its cards under the header, what each bullet gives
under the bullet, and the matching under the header. -/
def listings (s : Sentence) (bullets : List Bullet) : List (Text × QuizId) :=
  listUnder s.header.text s.quizzes ++
    (giving bullets).flatMap (fun bullet => listUnder (s.raw bullet) (s.given bullet)) ++
    listUnder s.header.text (s.matchings bullets)

open OrderedMap (arrivalsAt)

variable {s : Sentence} {bullet : Bullet} {bullets : List Bullet} {key : Text} {id : QuizId}

theorem arrivalsAt_listUnder_self (raw : Text) (quizzes : List Quiz) :
    arrivalsAt raw (listUnder raw quizzes) = quizzes.map Quiz.id :=
  OrderedMap.arrivalsAt_map_self _

theorem arrivalsAt_listUnder_of_ne {raw : Text} (h : raw ≠ key) (quizzes : List Quiz) :
    arrivalsAt key (listUnder raw quizzes) = [] :=
  OrderedMap.arrivalsAt_map_of_ne _ h

/-- A bullet has another raw text than its header. -/
theorem raw_ne_header (s : Sentence) (bullet : Bullet) : s.raw bullet ≠ s.header.text := by
  intro h
  have hlength := congrArg List.length h
  simp [raw] at hlength

/-- What bullets give is not listed under the header. -/
theorem arrivalsAt_header_bullets (bullets : List Bullet) :
    arrivalsAt s.header.text
      (bullets.flatMap fun bullet => listUnder (s.raw bullet) (s.given bullet)) = [] := by
  rw [OrderedMap.arrivalsAt_flatMap]
  exact List.flatMap_eq_nil_iff.2 fun bullet _ =>
    arrivalsAt_listUnder_of_ne (s.raw_ne_header bullet) _

theorem raw_inj {bullet' : Bullet} :
    s.raw bullet = s.raw bullet' ↔ bullet.line.text = bullet'.line.text := by
  simp [raw]

theorem mem_giving : bullet ∈ giving bullets ↔
    bullet ∈ bullets ∧ (bullet.kind = .fill ∨ bullet.kind = .vocabulary) := by
  simp [giving, and_or_left]

theorem kind_of_given_ne_nil (h : s.given bullet ≠ []) :
    bullet.kind = .fill ∨ bullet.kind = .vocabulary := by
  obtain ⟨quiz, hquiz⟩ := List.exists_mem_of_ne_nil _ h
  rcases given_cases hquiz with ⟨hfill, -⟩ | ⟨hvocabulary, -⟩
  · exact Or.inl hfill
  · exact Or.inr hvocabulary

theorem mem_listings : (key, id) ∈ s.listings bullets ↔
    (key = s.header.text ∧ ∃ quiz ∈ s.quizzes ++ s.matchings bullets, quiz.id = id) ∨
      ∃ bullet ∈ bullets, key = s.raw bullet ∧ ∃ quiz ∈ s.given bullet, quiz.id = id := by
  have hbullets : (∃ bullet ∈ giving bullets, key = s.raw bullet ∧
      ∃ quiz ∈ s.given bullet, quiz.id = id) ↔
      ∃ bullet ∈ bullets, key = s.raw bullet ∧ ∃ quiz ∈ s.given bullet, quiz.id = id := by
    constructor
    · rintro ⟨bullet, hbullet, hgiven⟩
      exact ⟨bullet, (mem_giving.1 hbullet).1, hgiven⟩
    · rintro ⟨bullet, hbullet, hkey, quiz, hquiz, hid⟩
      have hkind := kind_of_given_ne_nil (List.ne_nil_of_mem hquiz)
      exact ⟨bullet, mem_giving.2 ⟨hbullet, hkind⟩, hkey, quiz, hquiz, hid⟩
  simp only [listings, List.mem_append, mem_listUnder, List.mem_flatMap, hbullets, or_and_right,
    exists_or, and_or_left]
  exact or_right_comm

/-! ### The plan of the sentence -/

theorem listings_map_register (raw : Text) (quizzes : List Quiz) :
    (quizzes.map (Step.register raw)).flatMap Step.listings = listUnder raw quizzes := by
  induction quizzes with
  | nil => rfl
  | cons quiz quizzes ih =>
    rw [List.map_cons, List.flatMap_cons, ih]
    rfl

theorem listings_headerSteps :
    s.headerSteps.flatMap Step.listings = listUnder s.header.text s.quizzes := by
  rw [headerSteps, List.flatMap_append, listings_map_register]
  exact List.append_nil _

/-- A fill bullet lists what it gives. -/
theorem listings_fillPart (hkind : bullet.kind = .fill) :
    (Part.stepList ⟨some bullet, s.fillSteps bullet⟩).flatMap Step.listings =
      listUnder (s.raw bullet) (s.given bullet) := by
  cases hcloze : s.fillCloze bullet with
  | error fault =>
    have hsteps : s.fillSteps bullet = .error fault := by
      rw [fillSteps, hcloze]
      rfl
    simp [Part.stepList, hsteps, given, hkind, hcloze, Except.toOption, listUnder]
  | ok cloze =>
    have hsteps := fillSteps_eq_ok_iff.2 ⟨cloze, hcloze, rfl⟩
    have hcredits : (s.quizzes.flatMap fun card => [Step.credit card (.cloze cloze),
        .credit (.cloze cloze) card]).flatMap Step.listings = [] := by
      rw [List.flatMap_assoc]
      exact List.flatMap_eq_nil_iff.2 fun _ _ => rfl
    rw [given_of_fillCloze hkind hcloze, Part.stepList, hsteps]
    simp only [Except.toOption, Option.getD_some, List.flatMap_cons, hcredits, List.append_nil]
    rfl

theorem listings_vocabularySteps {v : Vocabulary} :
    (s.vocabularySteps v).flatMap Step.listings = listUnder (s.raw v.bullet) v.quizzes := by
  rw [vocabularySteps_eq, List.flatMap_append, listings_map_register]
  exact List.append_nil _

/-- A part of speech makes no difference to the identities of the cards. -/
theorem listings_repeatSteps (partOfSpeech : List Text) :
    (s.repeatSteps partOfSpeech).flatMap Step.listings = listUnder s.header.text s.quizzes := by
  unfold repeatSteps quizzes
  induction s.cards.toList with
  | nil => rfl
  | cons card cards ih =>
    rw [List.map_cons, List.flatMap_cons, ih]
    rfl

/-- A vocabulary bullet lists what it gives, or the cards of the sentence if it repeats the
sentence. -/
theorem listings_entrySteps (known : Bool) {entry : Entry} (hkind : bullet.kind = .vocabulary)
    (h : s.entry bullet = .ok entry) :
    (s.entrySteps known entry).flatMap Step.listings = listUnder (s.raw bullet) (s.given bullet) ∨
      s.given bullet = [] ∧
        (s.entrySteps known entry).flatMap Step.listings = listUnder s.header.text s.quizzes := by
  cases entry with
  | vocabulary v =>
    rw [given_of_vocabulary hkind h, ← (itemizes_of_entry h).bullet_eq]
    exact Or.inl listings_vocabularySteps
  | «repeats» partOfSpeech =>
    have hgiven := given_of_repeats hkind h
    cases partOfSpeech with
    | none =>
      rw [hgiven]
      exact Or.inl rfl
    | some partOfSpeech =>
      cases known with
      | true =>
        rw [hgiven]
        exact Or.inl rfl
      | false =>
        exact Or.inr ⟨hgiven, listings_repeatSteps partOfSpeech⟩

/-- The vocabulary bullets list what they give, and under the header at most the cards of the
sentence once more. -/
theorem listings_vocabularyParts : ∀ (known : Bool) {items : List Bullet},
    (∀ bullet ∈ items, bullet.kind = .vocabulary) →
    (∀ key, key ≠ s.header.text →
      arrivalsAt key
          (((s.vocabularyParts known items).flatMap Part.stepList).flatMap Step.listings) =
        arrivalsAt key (items.flatMap fun bullet => listUnder (s.raw bullet) (s.given bullet))) ∧
    ∀ id ∈ arrivalsAt s.header.text
      (((s.vocabularyParts known items).flatMap Part.stepList).flatMap Step.listings),
      id ∈ s.quizzes.map Quiz.id
  | _, [], _ => ⟨fun _ _ => rfl, fun id hid => by simp [vocabularyParts, arrivalsAt] at hid⟩
  | known, bullet :: items, h => by
    obtain ⟨hbullet, hitems⟩ := List.forall_mem_cons.1 h
    rw [vocabularyParts]
    cases hentry : s.entry bullet with
    | error fault =>
      obtain ⟨hothers, hheader⟩ := listings_vocabularyParts known hitems
      have hgiven : s.given bullet = [] := by simp [given, hbullet, hentry, Except.toOption]
      refine ⟨fun key hkey => ?_, hheader⟩
      rw [List.flatMap_cons (f := fun bullet => listUnder (s.raw bullet) (s.given bullet)), hgiven]
      exact hothers key hkey
    | ok entry =>
      obtain ⟨hothers, hheader⟩ :=
        listings_vocabularyParts (known || entry.givesPartOfSpeech) hitems
      have hstepList : Part.stepList ⟨some bullet, .ok (s.entrySteps known entry)⟩ =
          s.entrySteps known entry := rfl
      simp only [List.flatMap_cons, List.flatMap_append, OrderedMap.arrivalsAt_append, hstepList]
      refine ⟨fun key hkey => ?_, fun id hid => ?_⟩
      · rw [hothers key hkey]
        rcases listings_entrySteps known hbullet hentry with hlist | ⟨hgiven, hlist⟩
        · rw [hlist]
        · rw [hlist, hgiven, arrivalsAt_listUnder_of_ne hkey.symm]
          rfl
      · rcases List.mem_append.1 hid with hid | hid
        · rcases listings_entrySteps known hbullet hentry with hlist | ⟨-, hlist⟩
          · rw [hlist, arrivalsAt_listUnder_of_ne (s.raw_ne_header bullet)] at hid
            cases hid
          · rwa [hlist, arrivalsAt_listUnder_self] at hid
        · exact hheader id hid

theorem listings_matchingSteps :
    (s.matchingSteps (s.vocabularies (bullets.filter (·.kind = .vocabulary)))).flatMap
      Step.listings = listUnder s.header.text (s.matchings bullets) := by
  unfold matchingSteps matchings
  cases s.matching? (s.vocabularies (bullets.filter (·.kind = .vocabulary))) with
  | none => rfl
  | some matching =>
    have hlinks : ((s.vocabularies (bullets.filter (·.kind = .vocabulary))).map fun v =>
        Step.link matchingPolicy (s.group v ++ [some (.matching matching)]) s.header).flatMap
          Step.listings = [] := by
      rw [List.flatMap_map]
      exact List.flatMap_eq_nil_iff.2 fun _ _ => rfl
    simp only [List.flatMap_cons, hlinks, List.append_nil]
    rfl

/-- The steps of a plan, by its parts. -/
theorem flatMap_stepList_plan (known : Bool) (bullets : List Bullet) :
    (s.plan known bullets).flatMap Part.stepList =
      s.headerSteps ++
        (bullets.filter (·.kind = .fill)).flatMap
          (fun bullet => Part.stepList ⟨some bullet, s.fillSteps bullet⟩) ++
        (s.vocabularyParts known (bullets.filter (·.kind = .vocabulary))).flatMap Part.stepList ++
        s.matchingSteps (s.vocabularies (bullets.filter (·.kind = .vocabulary))) := by
  simp only [plan, List.cons_append, List.flatMap_cons, List.flatMap_append, List.flatMap_map,
    List.flatMap_nil, List.append_nil, List.append_assoc]
  rfl

/-- The listings of a plan are those of the sentence, up to repetition. -/
theorem ofList_arrivalsAt_plan (known : Bool) (bullets : List Bullet) (key : Text) :
    OrderedSet.ofList (arrivalsAt key
      (((s.plan known bullets).flatMap Part.stepList).flatMap Step.listings)) =
    OrderedSet.ofList (arrivalsAt key (s.listings bullets)) := by
  have hfills : ((bullets.filter (·.kind = .fill)).flatMap
      (fun bullet => Part.stepList ⟨some bullet, s.fillSteps bullet⟩)).flatMap Step.listings =
      (bullets.filter (·.kind = .fill)).flatMap
        fun bullet => listUnder (s.raw bullet) (s.given bullet) := by
    rw [List.flatMap_assoc]
    refine List.flatMap_congr fun bullet hbullet => listings_fillPart ?_
    simpa using (List.mem_filter.1 hbullet).2
  have hitems : ∀ bullet ∈ bullets.filter (·.kind = .vocabulary), bullet.kind = .vocabulary := by
    simp
  obtain ⟨hothers, hheader⟩ := listings_vocabularyParts (s := s) known hitems
  rw [flatMap_stepList_plan]
  simp only [listings, giving, List.flatMap_append, OrderedMap.arrivalsAt_append,
    listings_headerSteps, hfills, listings_matchingSteps]
  by_cases hkey : key = s.header.text
  · -- Under the header the bullets list no more than the header did.
    subst hkey
    simp only [arrivalsAt_header_bullets, List.append_nil, arrivalsAt_listUnder_self]
    exact OrderedSet.ofList_append_of_mem _ hheader
  · rw [hothers key hkey, List.append_assoc (arrivalsAt key (listUnder s.header.text s.quizzes))]

/-! ### Raw texts -/

theorem arrivalsAt_header :
    arrivalsAt s.header.text (s.listings bullets) =
      (s.quizzes ++ s.matchings bullets).map Quiz.id := by
  simp only [listings, OrderedMap.arrivalsAt_append, arrivalsAt_header_bullets,
    arrivalsAt_listUnder_self, List.append_nil, List.map_append]

/-- Under a bullet stands what it gives, however often its line is repeated. -/
theorem ofList_arrivalsAt_raw {lines : List Line} (h : bullet ∈ Bullet.run lines) :
    OrderedSet.ofList (arrivalsAt (s.raw bullet) (s.listings (Bullet.run lines))) =
      OrderedSet.ofList ((s.given bullet).map Quiz.id) := by
  have hheader := s.raw_ne_header bullet
  simp only [listings, OrderedMap.arrivalsAt_append, arrivalsAt_listUnder_of_ne hheader.symm,
    OrderedMap.arrivalsAt_flatMap, List.nil_append, List.append_nil]
  refine OrderedSet.ofList_flatMap_const (fun other hother => ?_) ?_
  · by_cases hraw : s.raw other = s.raw bullet
    · obtain ⟨hkind, hcontent⟩ :=
        Bullet.eq_of_text_eq (mem_giving.1 hother).1 h (raw_inj.1 hraw)
      rw [hraw, arrivalsAt_listUnder_self, given_congr hkind hcontent]
      exact Or.inl rfl
    · exact Or.inr (arrivalsAt_listUnder_of_ne hraw _)
  · by_cases hgiven : s.given bullet = []
    · rw [hgiven]
      exact Or.inl rfl
    · exact Or.inr ⟨bullet, mem_giving.2 ⟨h, kind_of_given_ne_nil hgiven⟩,
        arrivalsAt_listUnder_self _ _⟩

end Sentence

end StudyGraph
