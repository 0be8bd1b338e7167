import StudyGraph.Proofs.Independence
import StudyGraph.Proofs.Relevance
import StudyGraph.Proofs.Rival

/-!
# The part of speech of a sentence

A bullet that repeats the sentence is heard for its part of speech alone, and only as long as the
first card of the sentence has none. It adds nothing else : without it a block comes to a graph of
the same shape (`Sentence.agree_plan_without`, `Graph.sameShape_without`).

So the first card of the sentence keeps the part of speech that it has, or ends with the first that
a bullet gives the sentence. So does every other card that no other item has. A card that another
item has ends with the last part of speech that it is given. `Graph.partOfSpeech?_of_compileBlock`
puts this together.
-/

set_option linter.unusedSectionVars false

namespace StudyGraph

/-! ## Bullets that repeat the sentence -/

theorem Contribution.collect_nil_cons (xs : List (Except Fault Contribution)) :
    collect (.ok .nil :: xs) = collect xs := by
  rw [collect]
  cases collect xs <;> rfl

/-- Lines in front hide the lines behind them, or come before them. -/
theorem Bullet.run_append (before : List Line) :
    (∀ lines, run (before ++ lines) = run before) ∨
      ∀ lines, run (before ++ lines) = run before ++ run lines := by
  induction before with
  | nil => exact Or.inr fun _ => rfl
  | cons line before ih =>
    simp only [List.cons_append, run]
    cases classify line.text with
    | none => exact Or.inl fun _ => rfl
    | some found =>
      rcases ih with hhides | hcomes
      · exact Or.inl fun lines => by rw [hhides]
      · exact Or.inr fun lines => by rw [hcomes, List.cons_append]

namespace Sentence

variable {s : Sentence} {bullet : Bullet} {partOfSpeech : Option (List Text)}

/-- Among vocabulary bullets, one that repeats the sentence leaves the shape. -/
theorem agree_vocabularyParts_without (hentry : s.entry bullet = .ok (.repeats partOfSpeech))
    (rest : List (Except Fault Contribution)) (after : List Bullet) :
    ∀ (known : Bool) (before : List Bullet),
      Contribution.Agree s.Registered
        (Contribution.collect
          ((s.vocabularyParts known (before ++ bullet :: after)).map Part.contribution ++ rest))
        (Contribution.collect
          ((s.vocabularyParts known (before ++ after)).map Part.contribution ++ rest))
  | known, [] => by
    let behind := (s.vocabularyParts known after).map Part.contribution ++ rest
    rw [List.nil_append, List.nil_append, vocabularyParts, hentry,
      ← Contribution.collect_nil_cons behind]
    exact .collect_cons (fun c _ => Registered.add c) (fun c _ => Registered.add c)
      (agree_repeats known partOfSpeech) (agree_vocabularyParts rest _ _ after)
  | known, first :: before => by
    simp only [List.cons_append, vocabularyParts]
    cases s.entry first with
    | error fault => exact .fault fault
    | ok entry =>
      exact .collect_cons (fun c _ => Registered.add c) (fun c _ => Registered.add c) (.refl _)
        (agree_vocabularyParts_without hentry rest after _ before)

/-- A plan agrees with the plan without a bullet that repeats the sentence. -/
theorem agree_plan_without (hkind : bullet.kind = .vocabulary)
    (hentry : s.entry bullet = .ok (.repeats partOfSpeech)) (known : Bool)
    (before after : List Bullet) :
    Contribution.Agree (fun _ => True)
      (Contribution.collect ((s.plan known (before ++ bullet :: after)).map Part.contribution))
      (Contribution.collect ((s.plan known (before ++ after)).map Part.contribution)) := by
  have hfills : (before ++ bullet :: after).filter (·.kind = .fill) =
      (before ++ after).filter (·.kind = .fill) := by
    simp [List.filter_append, hkind]
  have hitems : (before ++ bullet :: after).filter (·.kind = .vocabulary) =
      before.filter (·.kind = .vocabulary) ++ bullet :: after.filter (·.kind = .vocabulary) := by
    simp [List.filter_append, hkind]
  have hothers : (before ++ after).filter (·.kind = .vocabulary) =
      before.filter (·.kind = .vocabulary) ++ after.filter (·.kind = .vocabulary) :=
    List.filter_append ..
  have hvocabularies : ∀ xs ys : List Bullet,
      s.vocabularies (xs ++ bullet :: ys) = s.vocabularies (xs ++ ys) := by
    intro xs ys
    simp [vocabularies, hentry, Except.toOption, Entry.vocabulary?]
  simp only [plan, hfills, hitems, hothers, hvocabularies, List.cons_append, List.append_assoc,
    List.map_cons, List.map_append]
  exact agree_header
    (.collect_append Registered.add _ (agree_vocabularyParts_without hentry _ _ known _))

end Sentence

namespace Block

variable {s : Sentence} {header line : Line} {content : Text} {before after : List Line}

/-- Without a vocabulary bullet a block has the same sentence. -/
theorem sentence?_without {bullet : Bullet} (hkind : bullet.kind = .vocabulary)
    {before' after' : List Bullet}
    (h : bullets ⟨header :: (before ++ line :: after)⟩ = before' ++ bullet :: after')
    (hothers : bullets ⟨header :: (before ++ after)⟩ = before' ++ after') :
    sentence? ⟨header :: (before ++ after)⟩ = sentence? ⟨header :: (before ++ line :: after)⟩ := by
  have hfind : ∀ kind : Bullet.Kind, kind ≠ .vocabulary →
      (before' ++ after').find? (·.kind = kind) =
        (before' ++ bullet :: after').find? (·.kind = kind) := by
    intro kind hne
    simp [List.find?_append, hkind, hne.symm]
  have hread : ∀ header content, Sentence.read header content (before' ++ after') =
      Sentence.read header content (before' ++ bullet :: after') := fun header content =>
    Sentence.read_congr header content (hfind .translation nofun) (hfind .furigana nofun)
  simp only [sentence?, header?, h, hothers, hread, List.head?_cons]

end Block

namespace Graph

variable {g g' : Graph} {file : Nat} {s : Sentence} {header line : Line} {content : Text}
  {before after : List Line}

/-- Without a bullet that repeats the sentence, a block comes to the same shape. -/
theorem sameShape_without
    (h : g.compileBlock file ⟨header :: (before ++ line :: after)⟩ = .ok g')
    (hs : Block.sentence? ⟨header :: (before ++ line :: after)⟩ = some (.ok s))
    (hline : Bullet.classify line.text = some (.vocabulary, content))
    (hitem : (Fields.ofText content).item = s.item) :
    ∃ g'', g.compileBlock file ⟨header :: (before ++ after)⟩ = .ok g'' ∧ g'.SameShape g'' := by
  rcases Bullet.run_append before with hhides | hcomes
  · -- The bullet stands behind a line that is none.
    have hbullets : Block.bullets ⟨header :: (before ++ line :: after)⟩ =
        Block.bullets ⟨header :: (before ++ after)⟩ := (hhides _).trans (hhides _).symm
    have hplan : Block.plan? g ⟨header :: (before ++ line :: after)⟩ =
        Block.plan? g ⟨header :: (before ++ after)⟩ := by
      rw [Block.plan?, Block.plan?, hbullets]
      rfl
    refine ⟨g', ?_, .refl g'⟩
    rw [← h, compileBlock, compileBlock, Block.stage, Block.stage, hplan]
  · let bullet : Bullet := ⟨.vocabulary, content, line⟩
    have hbullets : Block.bullets ⟨header :: (before ++ line :: after)⟩ =
        Bullet.run before ++ bullet :: Bullet.run after := by
      refine (hcomes _).trans ?_
      rw [Bullet.run, hline]
    have hothers : Block.bullets ⟨header :: (before ++ after)⟩ =
        Bullet.run before ++ Bullet.run after := hcomes _
    have hs' := (Block.sentence?_without rfl hbullets hothers).trans hs
    rw [compileBlock_eq, Block.contribution_of_sentence? hs, hbullets] at h
    cases hc : Contribution.collect ((s.plan (s.isKnown g)
        (Bullet.run before ++ bullet :: Bullet.run after)).map Part.contribution) with
    | error fault => simp [hc] at h
    | ok c =>
      obtain rfl : g.add c = g' := by simpa [hc] using h
      obtain ⟨entry, hentry⟩ :=
        (Sentence.exists_of_collect_plan hc).2 bullet (by simp) rfl
      rcases Sentence.entry_cases hentry with ⟨-, partOfSpeech, rfl⟩ | ⟨v, -, hv⟩
      · have hagree := Sentence.agree_plan_without rfl hentry (s.isKnown g) (Bullet.run before)
          (Bullet.run after)
        rw [hc, ← hothers, ← Block.contribution_of_sentence? hs'] at hagree
        rw [compileBlock_eq]
        generalize Block.contribution g ⟨header :: (before ++ after)⟩ = y at hagree
        cases hagree with
        | @shape _ d hshape => exact ⟨g.add d, rfl, hshape trivial trivial (.refl g)⟩
      · exact absurd hitem hv.item_ne

end Graph

/-! ## What becomes of the parts of speech -/

namespace Graph

variable {g g' : Graph} {file : Nat} {block : Block}

/-- What becomes of the parts of speech of a sentence. If its first card has one before a block is
compiled, it keeps it, and so do its other cards, unless vocabulary bullets give one to a card of
another item that is the same card : then it ends with the last of these, or with the last that the
matching repeats. If the first card has none, and a bullet repeats the sentence and gives it one, it
ends with the first that is given, and so do the other cards, unless they are given another one
behind this bullet or by the matching. A bullet that repeats the sentence adds no node, no edge and
no entry of a raw text. Of the graph before, all that matters is that its quizzes stand under their
own identities. -/
theorem partOfSpeech?_of_compileBlock (hg : g.Keyed) (h : g.compileBlock file block = .ok g') :
    (block.sentence? = none ∧ g' = g) ∨ ∃ s, block.sentence? = some (.ok s) ∧
      (let first := (Quiz.card s.cards.first).id
      let items := block.bullets.filter (·.kind = .vocabulary)
      ((g.partOfSpeech? first).isSome → g'.partOfSpeech? first = g.partOfSpeech? first ∧
        ∀ card ∈ s.quizzes, g'.partOfSpeech? card.id =
          (s.rivals items card.id ++ s.recalled items card.id).getLast?.or
            (g.partOfSpeech? card.id)) ∧
      ∀ partOfSpeech, g.partOfSpeech? first = none →
        s.repeatedPartOfSpeech? block.bullets = some partOfSpeech →
        g'.partOfSpeech? first = some partOfSpeech ∧
        ∀ card ∈ s.quizzes, g'.partOfSpeech? card.id =
          (s.rivals (s.behind items) card.id ++ s.recalled items card.id).getLast?.or
            (some partOfSpeech)) ∧
      ∀ header before line after content, block.lines = header :: (before ++ line :: after) →
        Bullet.classify line.text = some (.vocabulary, content) →
        (Fields.ofText content).item = s.item →
        ∃ g'', g.compileBlock file ⟨header :: (before ++ after)⟩ = .ok g'' ∧ g'.SameShape g'' := by
  rcases compileBlock_ok_cases h with hnone | ⟨s, c, hsentence, hc, rfl⟩
  · exact Or.inl hnone
  obtain ⟨header, content, -, -, hs⟩ := Block.exists_reads_of_sentence? hsentence
  rw [Sentence.isKnown_eq] at hc
  have hcards := fun card (hcard : card ∈ s.quizzes) =>
    Sentence.partOfSpeech?_add_plan hs hg hcard hc
  obtain ⟨hfirstKnown, hfirstUnknown⟩ := hcards _ s.first_mem_quizzes
  simp only [hs.id_first, Sentence.rivals_recognition hs, Sentence.recalled_recognition hs]
    at hfirstKnown hfirstUnknown
  refine Or.inr ⟨s, hsentence, ⟨fun hknown => ?_, fun partOfSpeech hnone hrepeated => ?_⟩, ?_⟩
  · rw [hs.id_first] at hknown ⊢
    exact ⟨hfirstKnown hknown, fun card hcard => (hcards card hcard).1 (hs.id_first ▸ hknown)⟩
  · rw [hs.id_first] at hnone ⊢
    have hunknown : (g.partOfSpeech? s.item.recognition).isSome = false := by rw [hnone]; rfl
    exact ⟨hfirstUnknown partOfSpeech hunknown hrepeated, fun card hcard =>
      (hcards card hcard).2 partOfSpeech (hs.id_first ▸ hunknown) hrepeated⟩
  · intro header before line after content hlines hline hitem
    obtain ⟨lines⟩ := block
    obtain rfl : lines = _ := hlines
    exact sameShape_without h hsentence hline hitem

/-- Two bullets repeat the sentence, and one between them reverses it : the first of the two counts
for the first card, and the card that is shared ends with the part of speech of the reversed item.
-/
theorem partOfSpeech?_of_compileBlock_beside_rival :
    let noun : List Text := ["n"]
    let verb : List Text := ["v"]
    let block := Block.ofLines ["# @ a @ b".toList, "- @ a @ b @pos n".toList,
      "- @ b @ a @pos v".toList, "- @ a @ b @pos w".toList]
    let first : Quiz := .card (.make "a" ["b"] true false)
    let answered : Quiz := .card (.make "b" ["a"] false true)
    ∃ g g', empty.compileBlock 0 block = .ok g ∧ g.partOfSpeech? first.id = some noun ∧
      g.partOfSpeech? answered.id = some verb ∧
      empty.compileBlock 0 ⟨block.lines.eraseIdx 1⟩ = .ok g' ∧ g.SameShape g' := by
  intro noun verb block first answered
  obtain ⟨g, hg⟩ : ∃ g, empty.compileBlock 0 block = .ok g :=
    exists_eq_ok_of_isSome (by decide +kernel)
  have hsentence : block.sentence?.isSome = true := by decide +kernel
  rcases partOfSpeech?_of_compileBlock keyed_empty hg with
    ⟨hnone, -⟩ | ⟨s, hs, ⟨-, hunknown⟩, hwithout⟩
  · simp [hnone] at hsentence
  have hfirst : Quiz.card s.cards.first = first :=
    Block.eq_of_sentence? hs (fun s => Quiz.card s.cards.first) (by decide +kernel)
  have hanswered : decide (answered ∈ s.quizzes) = true :=
    Block.eq_of_sentence? hs (fun s => decide (answered ∈ s.quizzes)) (by decide +kernel)
  have hitem : s.item = ⟨"a", ["b"]⟩ := Block.eq_of_sentence? hs Sentence.item (by decide +kernel)
  have hrepeated : s.repeatedPartOfSpeech? block.bullets = some noun :=
    Block.eq_of_sentence? hs (·.repeatedPartOfSpeech? block.bullets) (by decide +kernel)
  let items := block.bullets.filter (·.kind = .vocabulary)
  have hrivals : s.rivals (s.behind items) answered.id ++ s.recalled items answered.id = [verb] :=
    Block.eq_of_sentence? hs
      (fun s => s.rivals (s.behind items) answered.id ++ s.recalled items answered.id)
      (by decide +kernel)
  obtain ⟨hown, hcards⟩ := hunknown noun rfl hrepeated
  obtain ⟨g', hg', hshape⟩ := hwithout _ [] ⟨"- @ a @ b @pos n", 10⟩ _ "a @ b @pos n" rfl
    (by decide +kernel) (by rw [hitem]; decide +kernel)
  have hgiven := hcards answered (of_decide_eq_true hanswered)
  rw [hrivals] at hgiven
  rw [hfirst] at hown
  exact ⟨g, g', hg, hown, hgiven, hg', hshape⟩

/-- The part of speech of a card of the sentence is overwritten if the card is shared : by an item
that reverses the sentence, whether the sentence has its part of speech from an earlier block or
from a bullet in front of the item. -/
theorem partOfSpeech?_of_reversed_item :
    let noun : List Text := ["n"]
    let verb : List Text := ["v"]
    let named := Block.ofLines ["# @ a @ b".toList, "- @ a @ b @pos n".toList]
    let reversed := Block.ofLines ["# @ a @ b".toList, "- @ b @ a @pos v".toList]
    let both := Block.ofLines ["# @ a @ b".toList, "- @ a @ b @pos n".toList,
      "- @ b @ a @pos v".toList]
    let answered : Quiz := .card (.make "b" ["a"] false true)
    (∃ g g' s, empty.compileBlock 0 named = .ok g ∧ g.compileBlock 0 reversed = .ok g' ∧
      reversed.sentence? = some (.ok s) ∧ answered ∈ s.quizzes ∧
      g.partOfSpeech? (Quiz.card s.cards.first).id = some noun ∧
      g.partOfSpeech? answered.id = some noun ∧ g'.partOfSpeech? answered.id = some verb) ∧
    ∃ g s, empty.compileBlock 0 both = .ok g ∧ both.sentence? = some (.ok s) ∧
      answered ∈ s.quizzes ∧ s.repeatedPartOfSpeech? both.bullets = some noun ∧
      g.partOfSpeech? answered.id = some verb := by
  intro noun verb named reversed both answered
  let first : Quiz := .card (.make "a" ["b"] true false)
  have hcards {block : Block} {s : Sentence} (hs : block.sentence? = some (.ok s))
      (h : (block.sentence?.bind Except.toOption).map Sentence.quizzes =
        some [first, .card (.make "a" ["b"] false false), answered]) : answered ∈ s.quizzes := by
    rw [Block.eq_of_sentence? hs Sentence.quizzes h]
    simp
  constructor
  · obtain ⟨g, hg⟩ : ∃ g, empty.compileBlock 0 named = .ok g :=
      exists_eq_ok_of_isSome (by decide +kernel)
    have hparts : (empty.compileBlock 0 named).toOption.map (fun g =>
        (g.partOfSpeech? first.id, g.partOfSpeech? answered.id,
          (g.compileBlock 0 reversed).toOption.bind (·.partOfSpeech? answered.id))) =
        some (some noun, some noun, some verb) := by
      decide +kernel
    rw [hg] at hparts
    simp only [Except.toOption, Option.map_some, Option.some.injEq, Prod.mk.injEq] at hparts
    obtain ⟨hfirst, hbefore, hafter⟩ := hparts
    cases hg' : g.compileBlock 0 reversed with
    | error failure => simp [hg'] at hafter
    | ok g' =>
      have hsentence : reversed.sentence?.isSome = true := by decide +kernel
      rcases compileBlock_ok_cases hg' with ⟨hnone, -⟩ | ⟨s, -, hs, -, -⟩
      · simp [hnone] at hsentence
      · have hown : Quiz.card s.cards.first = first :=
          Block.eq_of_sentence? hs (fun s => Quiz.card s.cards.first) (by decide +kernel)
        rw [hg'] at hafter
        exact ⟨g, g', s, hg, hg', hs, hcards hs (by decide +kernel), hown ▸ hfirst, hbefore,
          hafter⟩
  · obtain ⟨g, hg⟩ : ∃ g, empty.compileBlock 0 both = .ok g :=
      exists_eq_ok_of_isSome (by decide +kernel)
    have hsentence : both.sentence?.isSome = true := by decide +kernel
    rcases compileBlock_ok_cases hg with ⟨hnone, -⟩ | ⟨s, -, hs, -, -⟩
    · simp [hnone] at hsentence
    · have hverb : (empty.compileBlock 0 both).toOption.bind (·.partOfSpeech? answered.id) =
          some verb := by
        decide +kernel
      rw [hg] at hverb
      exact ⟨g, s, hg, hs, hcards hs (by decide +kernel),
        Block.eq_of_sentence? hs (·.repeatedPartOfSpeech? both.bullets) (by decide +kernel), hverb⟩

end Graph

end StudyGraph
