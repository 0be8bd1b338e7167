import Mathlib.Data.List.TakeWhile
import StudyGraph.Cut
import StudyGraph.Proofs.Search

/-!
# Locators designate one place or none

A locator is plain, or the first bracketed part of it is what becomes the blank (`Cut.FirstBracket`,
`Cut.bracketed?_eq_some_iff`). What is looked for is the part with the context around it, and the
outcome depends on how many places a search from the left finds (`Cut.Sought`,
`Cut.atOnly_eq_iff`). `Cut.Designates` lists the cases of a locator with their outcomes, and
`Cut.locate_eq_iff` says that these are the outcomes of `locate`. A cut that a locator designates
takes a part out of the sentence that is not empty, and its three parts are the sentence
(`Cut.Blanks`, `Cut.blanks_of_locate`).
-/

namespace StudyGraph.Cut

/-! ## Brackets -/

/-- A part of a text in brackets, between the texts before and behind it. It is not empty and ends
at the first closing bracket. -/
def Bracket (t left part right : Text) : Prop :=
  t = left ++ '[' :: (part ++ ']' :: right) ∧ part ≠ [] ∧ ']' ∉ part

/-- The bracketed part that starts before all others. -/
def FirstBracket (t left part right : Text) : Prop :=
  Bracket t left part right ∧
    ∀ left' part' right', Bracket t left' part' right' → left.length ≤ left'.length

theorem closed?_eq_some_iff {t part right : Text} :
    closed? t = some (part, right) ↔ t = part ++ ']' :: right ∧ part ≠ [] ∧ ']' ∉ part := by
  constructor
  · intro h
    have happend := List.takeWhile_append_dropWhile (p := (· != ']')) (l := t)
    unfold closed? at h
    split at h
    · next c inner d rest htake hdrop =>
      cases h
      have hclosing : d = ']' := by
        have hhead := List.head?_dropWhile_not (· != ']') t
        rw [hdrop] at hhead
        simpa using hhead
      rw [htake, hdrop, hclosing] at happend
      refine ⟨happend.symm, List.cons_ne_nil c inner, fun hmem => ?_⟩
      rw [← htake] at hmem
      simpa using List.mem_takeWhile_imp hmem
    · cases h
  · rintro ⟨rfl, hne, hnone⟩
    have hinner : ∀ c ∈ part, (c != ']') = true := fun c hc => by
      simp only [bne_iff_ne]
      rintro rfl
      exact hnone hc
    obtain ⟨c, inner, rfl⟩ := List.exists_cons_of_ne_nil hne
    unfold closed?
    rw [List.takeWhile_append_of_pos hinner, List.dropWhile_append_of_pos hinner]
    simp

/-- A bracketed part starts at the first character, or stands in what follows it. -/
theorem bracket_cons_iff {c : Char} {t left part right : Text} :
    Bracket (c :: t) left part right ↔ (left = [] ∧ c = '[' ∧ closed? t = some (part, right)) ∨
      ∃ left', left = c :: left' ∧ Bracket t left' part right := by
  simp only [Bracket, closed?_eq_some_iff]
  cases left with
  | nil => simp [and_assoc]
  | cons d left => simp [and_assoc, eq_comm]

theorem not_bracket_nil {left part right : Text} : ¬Bracket [] left part right := by
  rintro ⟨h, -⟩
  simp at h

/-- Where no bracketed part starts at the first character, the first one is that of what follows. -/
theorem firstBracket_cons_iff {c : Char} {t left part right : Text}
    (hnone : ∀ inner rest, ¬(c = '[' ∧ closed? t = some (inner, rest))) :
    FirstBracket (c :: t) left part right ↔
      ∃ left', left = c :: left' ∧ FirstBracket t left' part right := by
  have hbehind : ∀ {left part right}, Bracket (c :: t) left part right ↔
      ∃ left', left = c :: left' ∧ Bracket t left' part right := by
    intro left part right
    rw [bracket_cons_iff, or_iff_right fun h => hnone _ _ h.2]
  constructor
  · rintro ⟨hbracket, hfirst⟩
    obtain ⟨left', rfl, hbracket'⟩ := hbehind.1 hbracket
    refine ⟨left', rfl, hbracket', fun left part right h => ?_⟩
    exact Nat.le_of_succ_le_succ (hfirst (c :: left) part right (hbehind.2 ⟨left, rfl, h⟩))
  · rintro ⟨left', rfl, hbracket, hfirst⟩
    refine ⟨hbehind.2 ⟨left', rfl, hbracket⟩, fun left part right h => ?_⟩
    obtain ⟨left, rfl, hother⟩ := hbehind.1 h
    exact Nat.succ_le_succ (hfirst left part right hother)

/-- The first bracketed part is what is read of a locator. -/
theorem bracketed?_eq_some_iff : ∀ {t left part right : Text},
    bracketed? t = some (left, part, right) ↔ FirstBracket t left part right
  | [], left, part, right => by
    simp [bracketed?, FirstBracket, not_bracket_nil]
  | c :: t, left, part, right => by
    rw [bracketed?]
    split
    · next inner rest hhere =>
      obtain ⟨hc, hclosed⟩ : c = '[' ∧ closed? t = some (inner, rest) := by
        split at hhere
        · next hc => exact ⟨hc, hhere⟩
        · cases hhere
      constructor
      · intro h
        cases h
        exact ⟨bracket_cons_iff.2 (Or.inl ⟨rfl, hc, hclosed⟩), fun _ _ _ _ => Nat.zero_le _⟩
      · rintro ⟨hbracket, hfirst⟩
        have hleft : left.length ≤ 0 :=
          hfirst [] inner rest (bracket_cons_iff.2 (Or.inl ⟨rfl, hc, hclosed⟩))
        obtain ⟨rfl, -, hclosed'⟩ | ⟨left', rfl, -⟩ := bracket_cons_iff.1 hbracket
        · cases hclosed.symm.trans hclosed'
          rfl
        · simp at hleft
    · next hhere =>
      have hnone : ∀ inner rest, ¬(c = '[' ∧ closed? t = some (inner, rest)) := by
        rintro inner rest ⟨rfl, hclosed⟩
        rw [if_pos rfl, hclosed] at hhere
        cases hhere
      rw [firstBracket_cons_iff hnone, Option.map_eq_some_iff]
      constructor
      · rintro ⟨⟨left', inner, rest⟩, hbracketed, heq⟩
        cases heq
        exact ⟨left', rfl, bracketed?_eq_some_iff.1 hbracketed⟩
      · rintro ⟨left', rfl, h⟩
        exact ⟨(left', part, right), bracketed?_eq_some_iff.2 h, rfl⟩

example : bracketed? "[][[a]b]".toList = some ("[]".toList, "[a".toList, "b]".toList) := by decide

/-- The text has a bracketed part. -/
def HasBracket (t : Text) : Prop :=
  ∃ left part right, Bracket t left part right

theorem isSome_bracketed?_iff {t : Text} : (bracketed? t).isSome = true ↔ HasBracket t := by
  constructor
  · intro h
    obtain ⟨⟨left, part, right⟩, hbracketed⟩ := Option.isSome_iff_exists.1 h
    exact ⟨left, part, right, (bracketed?_eq_some_iff.1 hbracketed).1⟩
  · rintro ⟨left, part, right, hbracket⟩
    induction t generalizing left with
    | nil => exact absurd hbracket not_bracket_nil
    | cons c t ih =>
      rw [bracketed?]
      split
      · rfl
      · next hhere =>
        obtain ⟨-, rfl, hclosed⟩ | ⟨left', -, hbehind⟩ := bracket_cons_iff.1 hbracket
        · rw [if_pos rfl, hclosed] at hhere
          cases hhere
        · rw [Option.isSome_map, ih left' hbehind]

theorem bracketed?_eq_none_iff {t : Text} : bracketed? t = none ↔ ¬HasBracket t := by
  rw [← isSome_bracketed?_iff, Bool.not_eq_true, Option.isSome_eq_false_iff,
    Option.isNone_iff_eq_none]

/-! ## Cuts -/

/-- The outcome of looking for a part between a left and a right context, by how many places a
search from the left finds. -/
inductive Sought (sentence left part right : Text) (missing repeated : Error) :
    Except Error Cut → Prop where
  | missing (h : Text.Finds (left ++ part ++ right) sentence 0 []) :
      Sought sentence left part right missing repeated (.error missing)
  | found {before after : Text} (happend : sentence = before ++ (left ++ part ++ right) ++ after)
      (h : Text.Finds (left ++ part ++ right) sentence 0 [before.length]) :
      Sought sentence left part right missing repeated
        (.ok ⟨before ++ left, part, right ++ after⟩)
  | repeated {p q : Nat} {positions : List Nat}
      (h : Text.Finds (left ++ part ++ right) sentence 0 (p :: q :: positions)) :
      Sought sentence left part right missing repeated (.error repeated)

variable {sentence locator : Text} {outcome : Except Error Cut} {cut : Cut}

theorem ofSpan_append (before left part right after : Text) :
    ofSpan (before ++ (left ++ part ++ right) ++ after) (before.length + left.length) part.length =
      ⟨before ++ left, part, right ++ after⟩ := by
  have happend : before ++ (left ++ part ++ right) ++ after =
      (before ++ left) ++ (part ++ (right ++ after)) := by
    simp only [List.append_assoc]
  rw [ofSpan, happend, ← List.length_append, List.take_left, List.drop_left, List.take_left,
    List.drop_left]

/-- To look for a part in its context is to search for both from the left. -/
theorem atOnly_eq_iff {left part right : Text} {missing repeated : Error} (hpart : part ≠ []) :
    atOnly sentence left part right missing repeated = outcome ↔
      Sought sentence left part right missing repeated outcome := by
  have hneedle : left ++ part ++ right ≠ [] := by simp [hpart]
  have hfinds := (Text.occurrences_eq_iff (t := sentence) hneedle).1 rfl
  constructor
  · rintro rfl
    unfold atOnly
    split
    · next h => exact .missing (h ▸ hfinds)
    · next i h =>
      rw [h] at hfinds
      obtain ⟨before, after, rfl, rfl⟩ := hfinds.exists_append hneedle
      rw [ofSpan_append]
      exact .found rfl hfinds
    · next hnone hone =>
      match hoccurrences : Text.occurrences (left ++ part ++ right) sentence with
      | [] => exact absurd hoccurrences hnone
      | [i] => exact absurd hoccurrences (hone i)
      | p :: q :: positions => exact .repeated (hoccurrences ▸ hfinds)
  · intro h
    cases h with
    | missing h => rw [atOnly, (Text.occurrences_eq_iff hneedle).2 h]
    | @found before after happend h =>
      rw [atOnly, (Text.occurrences_eq_iff hneedle).2 h]
      simp only [happend, ofSpan_append]
    | repeated h => rw [atOnly, (Text.occurrences_eq_iff hneedle).2 h]

/-- The cases of a locator, with the outcome of each. -/
inductive Designates (sentence locator : Text) : Except Error Cut → Prop where
  /-- Nothing is looked for. -/
  | empty (h : locator = []) : Designates sentence locator (.error (.notFound []))
  /-- The locator is the part. -/
  | plain {outcome : Except Error Cut} (hne : locator ≠ []) (hplain : ¬HasBracket locator)
      (h : Sought sentence [] locator [] (.notFound locator) (.ambiguous locator) outcome) :
      Designates sentence locator outcome
  /-- There is a second part in brackets. -/
  | twoBrackets {left part right : Text} (hfirst : FirstBracket locator left part right)
      (hsecond : HasBracket right) : Designates sentence locator (.error (.twoBrackets locator))
  /-- The part is in brackets, and its context around it. -/
  | bracketed {left part right : Text} {outcome : Except Error Cut}
      (hfirst : FirstBracket locator left part right) (hsecond : ¬HasBracket right)
      (h : Sought sentence left part right (.contextNotFound locator) (.contextNotUnique locator)
        outcome) : Designates sentence locator outcome

theorem locate_of_bracketed {left part right : Text} (hfirst : FirstBracket locator left part right)
    (hsecond : ¬HasBracket right) : locate sentence locator =
      atOnly sentence left part right (.contextNotFound locator) (.contextNotUnique locator) := by
  rw [← isSome_bracketed?_iff, Bool.not_eq_true] at hsecond
  simp only [locate, bracketed?_eq_some_iff.2 hfirst, hsecond, Bool.false_eq_true, if_false]

theorem locate_of_plain (hne : locator ≠ []) (hplain : ¬HasBracket locator) :
    locate sentence locator =
      atOnly sentence [] locator [] (.notFound locator) (.ambiguous locator) := by
  have hempty : locator.isEmpty = false := by simpa using hne
  simp only [locate, bracketed?_eq_none_iff.2 hplain, hempty, Bool.false_eq_true, if_false]

/-- To locate is to decide which case of a locator holds. -/
theorem locate_eq_iff :
    locate sentence locator = outcome ↔ Designates sentence locator outcome := by
  constructor
  · intro h
    by_cases hbracket : HasBracket locator
    · obtain ⟨⟨left, part, right⟩, hbracketed⟩ :=
        Option.isSome_iff_exists.1 (isSome_bracketed?_iff.2 hbracket)
      have hfirst := bracketed?_eq_some_iff.1 hbracketed
      by_cases hsecond : HasBracket right
      · have hsome := isSome_bracketed?_iff.2 hsecond
        simp only [locate, hbracketed, hsome, if_true] at h
        exact h ▸ .twoBrackets hfirst hsecond
      · rw [locate_of_bracketed hfirst hsecond, atOnly_eq_iff hfirst.1.2.1] at h
        exact .bracketed hfirst hsecond h
    · by_cases hne : locator = []
      · subst hne
        exact h ▸ .empty rfl
      · rw [locate_of_plain hne hbracket, atOnly_eq_iff hne] at h
        exact .plain hne hbracket h
  · intro h
    cases h with
    | empty h =>
      subst h
      rfl
    | plain hne hplain h => rwa [locate_of_plain hne hplain, atOnly_eq_iff hne]
    | twoBrackets hfirst hsecond =>
      simp only [locate, bracketed?_eq_some_iff.2 hfirst, isSome_bracketed?_iff.2 hsecond, if_true]
    | bracketed hfirst hsecond h =>
      rwa [locate_of_bracketed hfirst hsecond, atOnly_eq_iff hfirst.1.2.1]

/-- The cut takes something out of the sentence. -/
structure Blanks (cut : Cut) (sentence : Text) : Prop where
  /-- Put together, the parts are the sentence. -/
  append_eq : cut.left ++ cut.blank ++ cut.right = sentence
  /-- Something is blanked. -/
  blank_ne_nil : cut.blank ≠ []

theorem Sought.blanks {left part right : Text} {missing repeated : Error} (hpart : part ≠ [])
    (h : Sought sentence left part right missing repeated (.ok cut)) : cut.Blanks sentence := by
  cases h with
  | found happend _ =>
    refine ⟨?_, hpart⟩
    rw [happend]
    simp only [List.append_assoc]

/-- A cut that a locator designates takes something out of the sentence. -/
theorem blanks_of_locate (h : locate sentence locator = .ok cut) : cut.Blanks sentence := by
  cases locate_eq_iff.1 h with
  | plain hne _ h => exact h.blanks hne
  | bracketed hfirst _ h => exact h.blanks hfirst.1.2.1

/-- What is blanked stands in the sentence from the start of the blank to its end. -/
theorem Blanks.take_drop_eq (h : cut.Blanks sentence) : cut.stop ≤ sentence.length ∧
    (sentence.drop cut.start).take (cut.stop - cut.start) = cut.blank := by
  rw [← h.append_eq, List.append_assoc]
  constructor
  · simp only [stop, start, List.length_append]
    omega
  · rw [stop, start, Nat.add_sub_cancel_left, List.drop_left, List.take_left]

/-- To locate is to decide which case of a locator holds, with the outcome of that case. A cut that
is designated takes something out of the sentence : its parts are the sentence, and the blank stands
there from its start to its end. -/
theorem locate_exact (sentence locator : Text) :
    (∀ outcome, locate sentence locator = outcome ↔ Designates sentence locator outcome) ∧
      ∀ cut, locate sentence locator = .ok cut →
        cut.left ++ cut.blank ++ cut.right = sentence ∧ cut.blank ≠ [] ∧
          cut.stop ≤ sentence.length ∧
          (sentence.drop cut.start).take (cut.stop - cut.start) = cut.blank := by
  refine ⟨fun outcome => locate_eq_iff, fun cut h => ?_⟩
  have hblanks := blanks_of_locate h
  exact ⟨hblanks.append_eq, hblanks.blank_ne_nil, hblanks.take_drop_eq⟩

end StudyGraph.Cut
