import StudyGraph.Proofs.Locate

/-!
# More context never hurts

A search that counts without overlaps may find one place although the needle also stands at another
one that overlaps it. It stands nowhere before the place found and nowhere behind its end
(`Text.finds_singleton_iff`), and this is all that a longer needle around it needs : wherever the
longer needle stands, the shorter one stands inside, so the longer one is found once too, at the
place that belongs to it (`Text.Finds.widen`).

In a sentence without brackets the locator `Cut.inContext` has one bracketed part
(`Cut.firstBracket_inContext`), so it designates a place exactly if the part with its context is
found there alone (`Cut.locate_inContext_eq_ok_iff`, `Cut.locate_self_eq_ok_iff`). Hence a wider
context designates what a narrower one does, and the context of the whole sentence always designates
its part (`Cut.locate_eq_ok_of_wider_context`).
-/

namespace StudyGraph

/-! ## Searching for more -/

namespace Text

variable {needle before after t : Text}

/-- What a search finds alone stands there, nowhere before, and nowhere behind its end. -/
theorem finds_singleton_iff {p : Nat} : Finds needle t 0 [p] ↔
    needle <+: t.drop p ∧ (∀ k < p, ¬needle <+: t.drop k) ∧
      ∀ k, p + needle.length ≤ k → ¬needle <+: t.drop k := by
  constructor
  · intro h
    cases h with
    | next _ hp hfirst hrest =>
      cases hrest with
      | none hbehind => exact ⟨hp, fun k => hfirst k (Nat.zero_le k), hbehind⟩
  · rintro ⟨hp, hfirst, hbehind⟩
    exact .next (Nat.zero_le p) hp (fun k _ => hfirst k) (.none hbehind)

/-- Where a text stands, what it contains stands inside. -/
theorem prefix_drop_add {k : Nat} (h : before ++ needle ++ after <+: t.drop k) :
    needle <+: t.drop (k + before.length) := by
  obtain ⟨rest, hrest⟩ := h
  refine ⟨after ++ rest, ?_⟩
  rw [← List.drop_drop, ← hrest, List.append_assoc, List.append_assoc, List.drop_left]

/-- A longer needle is found alone where a shorter one inside it is found alone. -/
theorem Finds.widen {p : Nat} (h : Finds needle t 0 [p + before.length])
    (hstands : before ++ needle ++ after <+: t.drop p) :
    Finds (before ++ needle ++ after) t 0 [p] := by
  obtain ⟨-, hfirst, hbehind⟩ := finds_singleton_iff.1 h
  refine finds_singleton_iff.2 ⟨hstands, fun k hk hprefix => ?_, fun k hk hprefix => ?_⟩
  · exact hfirst (k + before.length) (Nat.add_lt_add_right hk _) (prefix_drop_add hprefix)
  · refine hbehind (k + before.length) ?_ (prefix_drop_add hprefix)
    simp only [List.length_append] at hk
    omega

/-- A text is found alone in itself. -/
theorem finds_self (h : t ≠ []) : Finds t t 0 [0] := by
  refine finds_singleton_iff.2 ⟨List.prefix_rfl, fun k hk => absurd hk (Nat.not_lt_zero k), ?_⟩
  intro k hk hprefix
  rw [Nat.zero_add, ← List.drop_eq_nil_iff] at hk
  rw [hk] at hprefix
  exact h (List.prefix_nil.1 hprefix)

end Text

namespace Cut

/-! ## Locators with a context -/

/-- The locator of a part between a left and a right context. -/
def inContext (left part right : Text) : Text :=
  left ++ '[' :: (part ++ ']' :: right)

/-- The text has no square bracket. -/
def BracketFree (t : Text) : Prop :=
  '[' ∉ t ∧ ']' ∉ t

variable {left part right before after : Text}

theorem bracketFree_append_iff {s t : Text} :
    BracketFree (s ++ t) ↔ BracketFree s ∧ BracketFree t := by
  simp only [BracketFree, List.mem_append, not_or]
  exact and_and_and_comm

theorem BracketFree.not_hasBracket {t : Text} (h : BracketFree t) : ¬HasBracket t := by
  rintro ⟨left, part, right, rfl, -⟩
  exact h.1 (by simp)

/-- Behind a left context without brackets, the bracketed part is the first one. -/
theorem firstBracket_inContext (hleft : BracketFree left) (hne : part ≠ [])
    (hpart : BracketFree part) : FirstBracket (inContext left part right) left part right := by
  refine ⟨⟨rfl, hne, hpart.2⟩, fun left' part' right' h => ?_⟩
  rcases List.append_eq_append_iff.1 h.1 with ⟨more, rfl, -⟩ | ⟨more, rfl, hmore⟩
  · simp
  · cases more with
    | nil => simp
    | cons c more =>
      obtain ⟨rfl, -⟩ := List.cons.inj hmore
      exact absurd hleft.1 (by simp)

/-- A part is cut out at a place exactly if it is found alone there with its context. -/
theorem atOnly_eq_ok_iff {missing repeated : Error} (hpart : part ≠ []) :
    atOnly (before ++ (left ++ part ++ right) ++ after) left part right missing repeated =
        .ok ⟨before ++ left, part, right ++ after⟩ ↔
      Text.Finds (left ++ part ++ right) (before ++ (left ++ part ++ right) ++ after) 0
        [before.length] := by
  rw [atOnly_eq_iff hpart]
  constructor
  · intro h
    generalize hcut : (⟨before ++ left, part, right ++ after⟩ : Cut) = cut at h
    cases h with
    | @found before' after' _ h =>
      obtain ⟨hbefore, -⟩ := Cut.mk.inj hcut
      obtain rfl := List.append_cancel_right hbefore
      exact h
  · exact .found rfl

/-- A locator with a context designates the part where it is found alone with the context. -/
theorem locate_inContext_eq_ok_iff (before after : Text) (hleft : BracketFree left)
    (hne : part ≠ []) (hpart : BracketFree part) (hright : BracketFree right) :
    locate (before ++ left ++ part ++ (right ++ after)) (inContext left part right) =
        .ok ⟨before ++ left, part, right ++ after⟩ ↔
      Text.Finds (left ++ part ++ right) (before ++ left ++ part ++ (right ++ after)) 0
        [before.length] := by
  have happend : before ++ left ++ part ++ (right ++ after) =
      before ++ (left ++ part ++ right) ++ after := by
    simp only [List.append_assoc]
  have hfirst : FirstBracket (inContext left part right) left part right :=
    firstBracket_inContext hleft hne hpart
  rw [happend, locate_of_bracketed hfirst hright.not_hasBracket, atOnly_eq_ok_iff hne]

/-- A plain locator designates the part where it is found alone. -/
theorem locate_self_eq_ok_iff (hne : part ≠ []) (hplain : ¬HasBracket part) :
    locate (before ++ part ++ after) part = .ok ⟨before, part, after⟩ ↔
      Text.Finds part (before ++ part ++ after) 0 [before.length] := by
  have hiff : atOnly (before ++ ([] ++ part ++ []) ++ after) [] part [] (.notFound part)
      (.ambiguous part) = .ok ⟨before ++ [], part, [] ++ after⟩ ↔
        Text.Finds ([] ++ part ++ []) (before ++ ([] ++ part ++ []) ++ after) 0 [before.length] :=
    atOnly_eq_ok_iff hne
  rw [locate_of_plain hne hplain]
  simpa only [List.nil_append, List.append_nil] using hiff

/-! ## Wider contexts -/

/-- Where a part is found alone with some context, a locator with a wider context designates it. -/
theorem locate_inContext_of_finds {x a b y : Text} (hleft : BracketFree (x ++ a))
    (hne : part ≠ []) (hpart : BracketFree part) (hright : BracketFree (b ++ y))
    (h : Text.Finds (a ++ part ++ b) (before ++ (x ++ a) ++ part ++ (b ++ y ++ after)) 0
      [before.length + x.length]) :
    locate (before ++ (x ++ a) ++ part ++ (b ++ y ++ after)) (inContext (x ++ a) part (b ++ y)) =
      .ok ⟨before ++ (x ++ a), part, b ++ y ++ after⟩ := by
  have hwide : x ++ (a ++ part ++ b) ++ y = x ++ a ++ part ++ (b ++ y) := by
    simp only [List.append_assoc]
  have hsentence : before ++ (x ++ a) ++ part ++ (b ++ y ++ after) =
      before ++ (x ++ a ++ part ++ (b ++ y) ++ after) := by
    simp only [List.append_assoc]
  rw [locate_inContext_eq_ok_iff before after hleft hne hpart hright, ← hwide]
  refine h.widen ⟨after, ?_⟩
  rw [hwide, hsentence, List.drop_left]

/-- In a sentence without brackets a part is designated with the whole sentence as its context. If a
part is designated with some context, or plainly, then also with every wider context. -/
theorem locate_eq_ok_of_wider_context {l c r : Text} (hfree : BracketFree (l ++ c ++ r))
    (hne : c ≠ []) :
    locate (l ++ c ++ r) (inContext l c r) = .ok ⟨l, c, r⟩ ∧
    (∀ a b wideLeft wideRight : Text, a <:+ wideLeft → wideLeft <:+ l → b <+: wideRight →
      wideRight <+: r → locate (l ++ c ++ r) (inContext a c b) = .ok ⟨l, c, r⟩ →
        locate (l ++ c ++ r) (inContext wideLeft c wideRight) = .ok ⟨l, c, r⟩) ∧
    ∀ wideLeft wideRight : Text, wideLeft <:+ l → wideRight <+: r →
      locate (l ++ c ++ r) c = .ok ⟨l, c, r⟩ →
        locate (l ++ c ++ r) (inContext wideLeft c wideRight) = .ok ⟨l, c, r⟩ := by
  obtain ⟨⟨hl, hc⟩, hr⟩ : (BracketFree l ∧ BracketFree c) ∧ BracketFree r := by
    simpa only [bracketFree_append_iff] using hfree
  refine ⟨?_, ?_, ?_⟩
  · have hself : Text.Finds (l ++ c ++ r) (l ++ c ++ r) 0 [0] := Text.finds_self (by simp [hne])
    simpa using (locate_inContext_eq_ok_iff [] [] hl hne hc hr).2 (by simpa using hself)
  · rintro a b _ _ ⟨x, rfl⟩ ⟨before, rfl⟩ ⟨y, rfl⟩ ⟨after, rfl⟩ hnarrow
    obtain ⟨-, hleft⟩ := bracketFree_append_iff.1 hl
    obtain ⟨hright, -⟩ := bracketFree_append_iff.1 hr
    refine locate_inContext_of_finds hleft hne hc hright ?_
    have hfound := (locate_inContext_eq_ok_iff (before ++ x) (y ++ after)
      (bracketFree_append_iff.1 hleft).2 hne hc (bracketFree_append_iff.1 hright).1).1
      (by simpa only [List.append_assoc] using hnarrow)
    simpa only [List.append_assoc, List.length_append] using hfound
  · rintro wideLeft wideRight ⟨before, rfl⟩ ⟨after, rfl⟩ hplain
    obtain ⟨-, hleft⟩ := bracketFree_append_iff.1 hl
    obtain ⟨hright, -⟩ := bracketFree_append_iff.1 hr
    have hfound := (locate_self_eq_ok_iff hne hc.not_hasBracket).1 hplain
    simpa using locate_inContext_of_finds (a := []) (b := []) (by simpa using hleft) hne hc
      (by simpa using hright) (by simpa using hfound)

/-- Without context the needle is found once, although it stands at two places that overlap. With
the context behind it, it is found at the same place. -/
theorem locate_eq_ok_of_wider_context_beside_overlap :
    locate "aaa".toList "aa".toList = .ok ⟨"".toList, "aa".toList, "a".toList⟩ ∧
      locate "aaa".toList (inContext "".toList "aa".toList "a".toList) =
        .ok ⟨"".toList, "aa".toList, "a".toList⟩ := by
  have hfree : BracketFree ("".toList ++ "aa".toList ++ "a".toList) := by
    constructor <;> decide
  have hplain : locate "aaa".toList "aa".toList = .ok ⟨"".toList, "aa".toList, "a".toList⟩ := by
    decide
  obtain ⟨-, -, hwider⟩ := locate_eq_ok_of_wider_context hfree (by decide)
  exact ⟨hplain, hwider _ _ List.suffix_rfl List.prefix_rfl hplain⟩

end Cut

end StudyGraph
