import StudyGraph.Text

/-!
# Splitting and joining

The fields between separators come to the text again (`Text.join_splitOn`), and no field has a
separator (`Text.notMem_of_mem_splitOn`). Fields without separators are read back from the text that
they are joined to (`Text.splitOn_join`). So a text is split in one way, and a field is what stands
between two neighbouring separators, or between one and an end of the text
(`Text.splitOn_eq_append_cons_iff`).
-/

namespace StudyGraph.Text

variable {separator : Char}

/-! ## Joining -/

@[simp] theorem join_singleton (separator t : Text) : join separator [t] = t := by
  simp [join]

theorem join_cons (separator t : Text) {texts : List Text} (h : texts ≠ []) :
    join separator (t :: texts) = t ++ separator ++ join separator texts := by
  cases texts with
  | nil => exact absurd rfl h
  | cons u us => simp [join]

theorem exists_join_cons_eq (separator t : Text) (texts : List Text) :
    ∃ after, join separator (t :: texts) = t ++ after := by
  cases texts with
  | nil => exact ⟨[], by rw [join_singleton, List.append_nil]⟩
  | cons u us => exact ⟨_, by rw [join_cons _ _ (List.cons_ne_nil u us), List.append_assoc]⟩

/-- The texts in front of a text each end with the separator. -/
theorem join_append_cons (separator t : Text) (more : List Text) : ∀ texts : List Text,
    join separator (texts ++ t :: more) =
      texts.flatMap (· ++ separator) ++ join separator (t :: more)
  | [] => rfl
  | u :: us => by
    rw [List.cons_append, join_cons _ _ (by simp), join_append_cons separator t more us,
      List.flatMap_cons, List.append_assoc (u ++ separator)]

theorem flatMap_append_eq_join (separator : Text) {texts : List Text} (h : texts ≠ []) :
    texts.flatMap (· ++ separator) = join separator texts ++ separator := by
  rcases List.eq_nil_or_concat texts with rfl | ⟨front, last, rfl⟩
  · exact absurd rfl h
  · rw [List.concat_eq_append, join_append_cons, join_singleton, List.flatMap_append,
      List.append_assoc]
    simp

/-! ## Splitting -/

theorem splitOn_ne_nil (separator : Char) (t : Text) : splitOn separator t ≠ [] :=
  splitWhere_ne_nil _ t

/-- The fields with their separators are the text again. -/
theorem join_splitOn (separator : Char) (t : Text) :
    join [separator] (splitOn separator t) = t := by
  induction t with
  | nil => rfl
  | cons c t ih =>
    obtain ⟨field, fields, hfields⟩ :=
      List.exists_cons_of_ne_nil (splitWhere_ne_nil (· == separator) t)
    rw [splitOn, hfields] at ih
    rw [splitOn, splitWhere, hfields]
    cases hc : c == separator with
    | true =>
      obtain rfl := eq_of_beq hc
      rw [join_cons _ _ (List.cons_ne_nil field fields), ih]
      rfl
    | false =>
      cases fields with
      | nil =>
        rw [join_singleton] at ih
        rw [join_singleton, ih]
      | cons next fields =>
        rw [join_cons _ _ (List.cons_ne_nil next fields)] at ih
        rw [join_cons _ _ (List.cons_ne_nil next fields), ← ih]
        rfl

/-- The separator is in none of the fields. -/
theorem notMem_of_mem_splitOn {separator : Char} : ∀ {t field : Text},
    field ∈ splitOn separator t → separator ∉ field
  | [], field, h => by
    obtain rfl : field = [] := by simpa [splitOn, splitWhere] using h
    simp
  | c :: t, field, h => by
    obtain ⟨first, fields, hfields⟩ :=
      List.exists_cons_of_ne_nil (splitWhere_ne_nil (· == separator) t)
    have hrest : ∀ field' ∈ first :: fields, separator ∉ field' := by
      intro field' hfield'
      rw [← hfields] at hfield'
      exact notMem_of_mem_splitOn hfield'
    rw [splitOn, splitWhere, hfields] at h
    cases hc : c == separator with
    | true =>
      rw [hc] at h
      rcases List.mem_cons.1 h with rfl | h
      · simp
      · exact hrest field h
    | false =>
      rw [hc] at h
      rcases List.mem_cons.1 h with rfl | h
      · have hne : separator ≠ c := fun heq => by simp [heq] at hc
        simpa [hne] using hrest first (by simp)
      · exact hrest field (List.mem_cons_of_mem _ h)

theorem splitOn_of_notMem : ∀ {t : Text}, separator ∉ t → splitOn separator t = [t]
  | [], _ => rfl
  | c :: t, h => by
    obtain ⟨hc, ht⟩ := not_or.1 (fun hmem => h (List.mem_cons.2 hmem))
    have hrest : splitWhere (· == separator) t = [t] := splitOn_of_notMem ht
    have hc : (c == separator) = false := by simpa using fun heq => hc heq.symm
    rw [splitOn, splitWhere, hc, hrest]

/-- The first separator ends the first field. -/
theorem splitOn_append_cons : ∀ {s : Text}, separator ∉ s → ∀ t,
    splitOn separator (s ++ separator :: t) = s :: splitOn separator t
  | [], _, t => by simp [splitOn, splitWhere]
  | c :: s, h, t => by
    obtain ⟨hc, hs⟩ := not_or.1 (fun hmem => h (List.mem_cons.2 hmem))
    have hrest : splitWhere (· == separator) (s ++ separator :: t) = s :: splitOn separator t :=
      splitOn_append_cons hs t
    have hc : (c == separator) = false := by simpa using fun heq => hc heq.symm
    rw [List.cons_append, splitOn, splitWhere, hc, hrest]

/-- The first separator cuts a text in one way. -/
theorem append_cons_inj {s s' t t' : Text} (hs : separator ∉ s) (hs' : separator ∉ s')
    (h : s ++ separator :: t = s' ++ separator :: t') : s = s' ∧ t = t' := by
  have hsplit := congrArg (splitOn separator) h
  rw [splitOn_append_cons hs, splitOn_append_cons hs'] at hsplit
  obtain rfl := (List.cons.inj hsplit).1
  exact ⟨rfl, (List.cons.inj (List.append_cancel_left h)).2⟩

/-- Fields without separators are read back. -/
theorem splitOn_join : ∀ {fields : List Text}, fields ≠ [] →
    (∀ field ∈ fields, separator ∉ field) → splitOn separator (join [separator] fields) = fields
  | [], hne, _ => absurd rfl hne
  | [field], _, h => by rw [join_singleton, splitOn_of_notMem (h field List.mem_cons_self)]
  | field :: next :: fields, _, h => by
    obtain ⟨hfield, hfields⟩ := List.forall_mem_cons.1 h
    rw [join_cons _ _ (List.cons_ne_nil next fields), List.append_assoc]
    change splitOn separator (field ++ separator :: join [separator] (next :: fields)) = _
    rw [splitOn_append_cons hfield, splitOn_join (List.cons_ne_nil next fields) hfields]

/-- A text that is empty or ends with the separator is made of fields that end with it. -/
theorem exists_flatMap_append_iff {before : Text} :
    (∃ front : List Text, (∀ field ∈ front, separator ∉ field) ∧
      before = front.flatMap (· ++ [separator])) ↔
    before = [] ∨ before.getLast? = some separator := by
  constructor
  · rintro ⟨front, -, rfl⟩
    rcases List.eq_nil_or_concat front with rfl | ⟨fields, last, rfl⟩
    · exact Or.inl rfl
    · exact Or.inr (by simp)
  · rintro (rfl | hlast)
    · exact ⟨[], by simp, rfl⟩
    · obtain ⟨t, rfl⟩ := List.getLast?_eq_some_iff.1 hlast
      refine ⟨splitOn separator t, fun _ => notMem_of_mem_splitOn, ?_⟩
      rw [flatMap_append_eq_join _ (splitOn_ne_nil separator t), join_splitOn]

/-- A text that is empty or starts with the separator joins further fields to a field. -/
theorem exists_join_cons_iff (field : Text) {after : Text} :
    (∃ back : List Text, (∀ field ∈ back, separator ∉ field) ∧
      join [separator] (field :: back) = field ++ after) ↔
    after = [] ∨ after.head? = some separator := by
  constructor
  · rintro ⟨back, -, hjoin⟩
    cases back with
    | nil => exact Or.inl (by simpa using hjoin)
    | cons next back =>
      rw [join_cons _ _ (List.cons_ne_nil next back), List.append_assoc] at hjoin
      obtain rfl := List.append_cancel_left hjoin
      exact Or.inr rfl
  · rintro (rfl | hhead)
    · exact ⟨[], by simp, by simp⟩
    · obtain ⟨t, rfl⟩ := List.head?_eq_some_iff.1 hhead
      refine ⟨splitOn separator t, fun _ => notMem_of_mem_splitOn, ?_⟩
      rw [join_cons _ _ (splitOn_ne_nil separator t), join_splitOn]
      simp

/-- A field, with the text in front of it, is what stands between neighbouring separators or the
ends of the text. -/
theorem splitOn_eq_append_cons_iff {t before field : Text} :
    (∃ front back, splitOn separator t = front ++ field :: back ∧
      before = front.flatMap (· ++ [separator])) ↔
    separator ∉ field ∧ (before = [] ∨ before.getLast? = some separator) ∧
      ∃ after, t = before ++ field ++ after ∧ (after = [] ∨ after.head? = some separator) := by
  constructor
  · rintro ⟨front, back, hsplit, rfl⟩
    have hnone : ∀ text ∈ front ++ field :: back, separator ∉ text := fun text htext =>
      notMem_of_mem_splitOn (hsplit ▸ htext)
    obtain ⟨hfront, hfield, hback⟩ : (∀ text ∈ front, separator ∉ text) ∧ separator ∉ field ∧
        ∀ text ∈ back, separator ∉ text := by
      simpa [or_imp, forall_and] using hnone
    obtain ⟨after, hafter⟩ := exists_join_cons_eq [separator] field back
    refine ⟨hfield, exists_flatMap_append_iff.1 ⟨front, hfront, rfl⟩, after, ?_,
      (exists_join_cons_iff field).1 ⟨back, hback, hafter⟩⟩
    rw [← join_splitOn separator t, hsplit, join_append_cons, hafter, List.append_assoc]
  · rintro ⟨hfield, hbefore, after, rfl, hafter⟩
    obtain ⟨front, hfront, rfl⟩ := exists_flatMap_append_iff.2 hbefore
    obtain ⟨back, hback, hjoin⟩ := (exists_join_cons_iff field).2 hafter
    refine ⟨front, back, ?_, rfl⟩
    have hnone : ∀ text ∈ front ++ field :: back, separator ∉ text := by
      simpa [or_imp, forall_and] using ⟨hfront, hfield, hback⟩
    rw [List.append_assoc, ← hjoin, ← join_append_cons, splitOn_join (by simp) hnone]

end StudyGraph.Text
