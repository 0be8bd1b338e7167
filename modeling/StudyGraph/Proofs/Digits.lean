import Mathlib.Data.List.TakeWhile
import StudyGraph.Proofs.Join
import StudyGraph.Proofs.Rows

/-!
# Grids of digits are read exactly

The words of a text are told by how the text is made of them : each is not empty, has no white
space, and stands between white space or an end of the text (`Text.Spaced`, `Text.words_eq_iff`).
Words of digits are read if no character is wrong, and otherwise the first wrong one is refused,
before the lengths of the rows are looked at (`Matrix.ofDigits_eq`). So a matrix is read
exactly from its rows in digits with white space between them (`Matrix.ofDigits_eq_ok_iff`), and
`Matrix.ofDigits_exact` says what every text comes to.
-/

namespace StudyGraph

namespace Text

/-! ## Words -/

/-- The text is made of these words in this order, with white space between neighbours, and perhaps
in front and behind. -/
inductive Spaced : List Text → Text → Prop where
  | nil : Spaced [] []
  | blank {c : Char} {words : List Text} {t : Text} (hc : isBlank c = true)
      (h : Spaced words t) : Spaced words (c :: t)
  | word {word : Text} {words : List Text} {t : Text} (hne : word ≠ [])
      (hword : ∀ c ∈ word, isBlank c = false) (hbehind : ∀ c ∈ t.head?, isBlank c = true)
      (h : Spaced words t) : Spaced (word :: words) (word ++ t)

variable {t word : Text} {texts : List Text}

theorem words_cons {c : Char} (hc : isBlank c = true) : words (c :: t) = words t := by
  simp [words, splitWhere, hc]

/-- Text without separators goes in front of the first field. -/
theorem splitWhere_append {p : Char → Bool} {s field : Text} {fields : List Text}
    (hs : ∀ c ∈ s, p c = false) (h : splitWhere p t = field :: fields) :
    splitWhere p (s ++ t) = (s ++ field) :: fields := by
  induction s with
  | nil => exact h
  | cons c s ih =>
    obtain ⟨hc, hs⟩ := List.forall_mem_cons.1 hs
    rw [List.cons_append, splitWhere, hc, ih hs]
    rfl

theorem words_append (hne : word ≠ []) (hword : ∀ c ∈ word, isBlank c = false)
    (hbehind : ∀ c ∈ t.head?, isBlank c = true) : words (word ++ t) = word :: words t := by
  obtain ⟨fields, hfields⟩ : ∃ fields, splitWhere isBlank t = [] :: fields := by
    cases t with
    | nil => exact ⟨[], rfl⟩
    | cons c t => exact ⟨splitWhere isBlank t, by rw [splitWhere, hbehind c rfl]⟩
  rw [words, splitWhere_append hword hfields, words, hfields]
  simp [hne]

theorem exists_spaced : ∀ t : Text, ∃ words, Spaced words t
  | [] => ⟨[], .nil⟩
  | c :: t => by
    cases hc : isBlank c with
    | true =>
      obtain ⟨words, h⟩ := exists_spaced t
      exact ⟨words, .blank hc h⟩
    | false =>
      have htake : ∀ d ∈ t.takeWhile (!isBlank ·), isBlank d = false := fun d hd => by
        simpa using List.mem_takeWhile_imp hd
      have hdrop : ∀ d ∈ (t.dropWhile (!isBlank ·)).head?, isBlank d = true := fun d hd => by
        have hhead := List.head?_dropWhile_not (!isBlank ·) t
        rw [Option.mem_def.1 hd] at hhead
        simpa using hhead
      obtain ⟨words, h⟩ := exists_spaced (t.dropWhile (!isBlank ·))
      have hword : ∀ d ∈ c :: t.takeWhile (!isBlank ·), isBlank d = false :=
        List.forall_mem_cons.2 ⟨hc, htake⟩
      have hspaced := Spaced.word (List.cons_ne_nil c _) hword hdrop h
      rw [List.cons_append, List.takeWhile_append_dropWhile] at hspaced
      exact ⟨_, hspaced⟩
  termination_by t => t.length
  decreasing_by
  · exact Nat.lt_succ_of_le (List.length_dropWhile_le _ t)
  · exact Nat.lt_succ_self _

/-- A text is made of its words, and of no others. -/
theorem words_eq_iff : t.words = texts ↔ Spaced texts t := by
  have hwords : ∀ {texts t}, Spaced texts t → words t = texts := by
    intro texts t h
    induction h with
    | nil => rfl
    | blank hc _ ih => rw [words_cons hc, ih]
    | word hne hword hbehind _ ih => rw [words_append hne hword hbehind, ih]
  constructor
  · rintro rfl
    obtain ⟨words, h⟩ := exists_spaced t
    rwa [hwords h]
  · exact hwords

theorem Spaced.flatten_eq (h : Spaced texts t) : texts.flatten = t.filter (!isBlank ·) := by
  induction h with
  | nil => rfl
  | blank hc _ ih => simp [hc, ih]
  | word hne hword _ _ ih =>
    rw [List.flatten_cons, List.filter_append, ih]
    congr 1
    exact (List.filter_eq_self.2 fun c hc => by simp [hword c hc]).symm

theorem Spaced.append {gap : Text} (hgap : ∀ c ∈ gap, isBlank c = true) (h : Spaced texts t) :
    Spaced texts (gap ++ t) := by
  induction gap with
  | nil => exact h
  | cons c gap ih =>
    obtain ⟨hc, hgap⟩ := List.forall_mem_cons.1 hgap
    exact .blank hc (ih hgap)

/-- The characters of words are those that are not white space. -/
theorem exists_mem_words_iff {c : Char} :
    (∃ word ∈ t.words, c ∈ word) ↔ c ∈ t ∧ isBlank c = false := by
  rw [← List.mem_flatten, (words_eq_iff.1 rfl).flatten_eq]
  simp

/-- White space alone has no words. -/
theorem words_eq_nil_iff : t.words = [] ↔ ∀ c ∈ t, isBlank c = true := by
  constructor
  · intro h
    have hnone : t.filter (!isBlank ·) = [] := by
      rw [← (words_eq_iff.1 h).flatten_eq, List.flatten_nil]
    simpa using hnone
  · intro h
    rw [words_eq_iff, ← List.append_nil t]
    exact Spaced.nil.append h

/-- Words are made into a text by putting white space between them. -/
theorem spaced_join {gap : Text} (hne : gap ≠ []) (hgap : ∀ c ∈ gap, isBlank c = true) :
    ∀ {texts : List Text}, (∀ word ∈ texts, word ≠ [] ∧ ∀ c ∈ word, isBlank c = false) →
      Spaced texts (join gap texts)
  | [], _ => .nil
  | [word], h => by
    obtain ⟨hword, hblank⟩ := h word List.mem_cons_self
    simpa using Spaced.word hword hblank (by simp) .nil
  | word :: next :: texts, h => by
    obtain ⟨⟨hword, hblank⟩, hrest⟩ := List.forall_mem_cons.1 h
    obtain ⟨c, gap', rfl⟩ := List.exists_cons_of_ne_nil hne
    rw [join_cons _ _ (List.cons_ne_nil next texts), List.append_assoc]
    exact .word hword hblank (by simpa using hgap c List.mem_cons_self)
      ((spaced_join hne hgap hrest).append hgap)

/-- Words are not empty and have no white space. -/
theorem Spaced.proper (h : Spaced texts t) :
    ∀ word ∈ texts, word ≠ [] ∧ ∀ c ∈ word, isBlank c = false := by
  induction h with
  | nil => simp
  | blank _ _ ih => exact ih
  | word hne hword _ _ ih => exact List.forall_mem_cons.2 ⟨⟨hne, hword⟩, ih⟩

end Text

namespace Matrix

/-! ## Cells -/

/-- Whether a character is neither white space nor a digit of a cell. -/
def isForeign (c : Char) : Bool :=
  !Text.isBlank c && !(c == '0' || c == '1')

variable {t : Text} {m : Matrix}

/-- Where the elements that are refused are known, so is what reading all of them comes to : the
first one that is refused decides. -/
theorem mapM_eq {ε α β γ : Type} {f : α → Except ε β} {refused : α → Option γ} {error : γ → ε}
    {value : α → β} (h : ∀ a, f a = (refused a).elim (.ok (value a)) (.error ∘ error))
    (as : List α) :
    as.mapM f = (as.findSome? refused).elim (.ok (as.map value)) (.error ∘ error) := by
  induction as with
  | nil => rfl
  | cons a as ih =>
    rw [List.mapM_cons, h, ih, List.findSome?_cons]
    cases refused a with
    | some c => rfl
    | none => cases as.findSome? refused <;> rfl

theorem mapM_cellOfDigit (word : Text) : word.mapM cellOfDigit =
    (word.find? fun c => !(c == '0' || c == '1')).elim (.ok (word.map (· == '1')))
      (.error ∘ .badDigit) := by
  rw [← List.findSome?_guard]
  refine mapM_eq (fun c => ?_) word
  unfold cellOfDigit
  split
  · next h => simp [h, Option.guard]
  · split
    · next h => simp [h, Option.guard]
    · next h0 h1 => simp [h0, h1, Option.guard]

/-- The first character that is wrong decides, and the rows are looked at only if there is none. -/
theorem ofDigits_eq (t : Text) : ofDigits t =
    (t.find? isForeign).elim (ofRows (t.words.map fun word => word.map (· == '1')))
      (.error ∘ .badDigit) := by
  have hfind : t.words.findSome? (List.find? fun c => !(c == '0' || c == '1')) =
      t.find? isForeign := by
    rw [← List.find?_flatten, (Text.words_eq_iff.1 rfl).flatten_eq, List.find?_filter]
    congr 1
    funext c
    simp only [isForeign, Bool.decide_and, Bool.decide_eq_true]
  rw [ofDigits, mapM_eq mapM_cellOfDigit, hfind]
  cases t.find? isForeign <;> rfl

/-! ## Grids -/

theorem isForeign_digit (cell : Bool) : isForeign (digit cell) = false := by
  cases cell <;> decide

theorem digit_beq_one {c : Char} (hblank : Text.isBlank c = false) (h : isForeign c = false) :
    digit (c == '1') = c := by
  have hc : c = '0' ∨ c = '1' := by simpa [isForeign, hblank, or_iff_not_imp_left] using h
  rcases hc with rfl | rfl <;> rfl

theorem beq_one_digit (cell : Bool) : (digit cell == '1') = cell := by
  cases cell <;> rfl

/-- Where no character is wrong, the words are the digits of the cells that they give. -/
theorem map_digit_words (h : t.find? isForeign = none) :
    (t.words.map fun word => word.map (· == '1')).map (·.map digit) = t.words := by
  have hcells : ∀ word ∈ t.words, (word.map (· == '1')).map digit = word := by
    intro word hword
    rw [List.map_map]
    refine (List.map_congr_left fun c hc => ?_).trans (List.map_id word)
    obtain ⟨hmem, hblank⟩ := Text.exists_mem_words_iff.1 ⟨word, hword, hc⟩
    exact digit_beq_one hblank (by simpa using List.find?_eq_none.1 h c hmem)
  rw [List.map_map]
  exact (List.map_congr_left hcells).trans (List.map_id t.words)

/-- A matrix is read exactly from its rows in digits, with white space between them. -/
theorem ofDigits_eq_ok_iff : ofDigits t = .ok m ↔ Text.Spaced m.digits t := by
  rw [← Text.words_eq_iff, ofDigits_eq]
  constructor
  · intro h
    cases hfind : t.find? isForeign with
    | some c =>
      rw [hfind] at h
      cases h
    | none =>
      rw [hfind] at h
      rw [← map_digit_words hfind, digits, ofRows_eq_ok_iff.1 h]
  · intro h
    have hfind : t.find? isForeign = none := by
      rw [List.find?_eq_none]
      intro c hc
      cases hblank : Text.isBlank c with
      | true => simp [isForeign, hblank]
      | false =>
        obtain ⟨word, hword, hmem⟩ := Text.exists_mem_words_iff.2 ⟨hc, hblank⟩
        rw [h, digits] at hword
        obtain ⟨row, -, rfl⟩ := List.mem_map.1 hword
        obtain ⟨cell, -, rfl⟩ := List.mem_map.1 hmem
        simp [isForeign_digit]
    rw [hfind, h]
    refine ofRows_eq_ok_iff.2 ?_
    simp [digits, Function.comp_def, beq_one_digit]

/-- What a text of digits comes to, told by the text. -/
inductive Reads : Text → Except Error Matrix → Prop where
  /-- The first character that is neither white space nor a digit is refused. -/
  | foreign {before after : Text} {c : Char} (hc : isForeign c = true)
      (hbefore : ∀ d ∈ before, isForeign d = false) :
      Reads (before ++ c :: after) (.error (.badDigit c))
  /-- White space alone is refused. -/
  | blank {t : Text} (h : ∀ c ∈ t, Text.isBlank c = true) : Reads t (.error .empty)
  /-- Where no character is wrong, the first row that is not as long as the first is refused. -/
  | uneven {t : Text} {rows : List Text} {i expected actual : Nat}
      (hproper : ∀ c ∈ t, isForeign c = false) (hrows : Text.Spaced rows t)
      (h : Uneven (rows.map List.length) i expected actual) :
      Reads t (.error (.ragged i expected actual))
  /-- The rows of a matrix in digits are read. -/
  | grid {t : Text} {m : Matrix} (h : Text.Spaced m.digits t) : Reads t (.ok m)

theorem reads_ofDigits (t : Text) : Reads t (ofDigits t) := by
  cases hfind : t.find? isForeign with
  | some c =>
    obtain ⟨hc, before, after, rfl, hbefore⟩ := List.find?_eq_some_iff_append.1 hfind
    rw [ofDigits_eq, hfind]
    exact .foreign hc fun d hd => by simpa using hbefore d hd
  | none =>
    have hproper : ∀ c ∈ t, isForeign c = false := by simpa using hfind
    cases h : ofDigits t with
    | ok m => exact .grid (ofDigits_eq_ok_iff.1 h)
    | error e =>
      rw [ofDigits_eq, hfind] at h
      rcases ofRows_eq_error_iff.1 h with ⟨hnil, rfl⟩ | ⟨i, expected, actual, huneven, rfl⟩
      · exact .blank (Text.words_eq_nil_iff.1 (List.map_eq_nil_iff.1 hnil))
      · refine .uneven hproper (Text.words_eq_iff.1 rfl) ?_
        simpa [Function.comp_def] using huneven

theorem Reads.ofDigits_eq {outcome : Except Error Matrix} (h : Reads t outcome) :
    ofDigits t = outcome := by
  cases h with
  | @foreign before after c hc hbefore =>
    have hfind : (before ++ c :: after).find? isForeign = some c :=
      List.find?_eq_some_iff_append.2
        ⟨hc, before, after, rfl, fun d hd => by simpa using hbefore d hd⟩
    rw [Matrix.ofDigits_eq, hfind]
    rfl
  | blank h =>
    have hfind : t.find? isForeign = none :=
      List.find?_eq_none.2 fun c hc => by simp [isForeign, h c hc]
    rw [Matrix.ofDigits_eq, hfind, Text.words_eq_nil_iff.2 h]
    rfl
  | uneven hproper hrows h =>
    have hfind : t.find? isForeign = none := by simpa using hproper
    rw [Matrix.ofDigits_eq, hfind, Text.words_eq_iff.2 hrows]
    refine ofRows_eq_error_iff.2 (.inr ⟨_, _, _, ?_, rfl⟩)
    simpa [Function.comp_def] using h
  | grid h => exact ofDigits_eq_ok_iff.2 h

/-- A text of digits fails at its first character that is neither white space nor a digit; otherwise
for want of a row, if it is white space alone; otherwise at the first row that is not as long as the
first. Otherwise the matrix of its rows is read, and it is read again from its rows in digits with
any white space between them. The rows that matrices have, whatever way they come about, are those
of one length, with at least one of them, so there is a cell exactly within height and width. -/
theorem ofDigits_exact :
    (∀ t outcome, ofDigits t = outcome ↔ Reads t outcome) ∧
    (∀ t m, ofDigits t = .ok m →
      (∀ s, Text.Spaced m.digits s → ofDigits s = .ok m) ∧
      ∀ gap, gap ≠ [] → (∀ c ∈ gap, Text.isBlank c = true) →
        Text.Spaced m.digits (Text.join gap m.digits)) ∧
    (∀ rows, (∃ m, Obtainable m ∧ m.rows = rows) ↔
      rows ≠ [] ∧ ∀ row ∈ rows, ∀ other ∈ rows, row.length = other.length) ∧
    ∀ m : Matrix, m.rows.head?.map List.length = some m.width ∧
      ∀ r c, (m.cell? r c).isSome ↔ r < m.height ∧ c < m.width := by
  refine ⟨fun t outcome => ⟨?_, Reads.ofDigits_eq⟩,
    fun t m h => ⟨fun s => ofDigits_eq_ok_iff.2, ?_⟩, fun rows => exists_obtainable_iff,
    fun m => ⟨?_, fun r c => isSome_cell?_iff⟩⟩
  · rintro rfl
    exact reads_ofDigits t
  · exact fun gap hne hgap => Text.spaced_join hne hgap (ofDigits_eq_ok_iff.1 h).proper
  · obtain ⟨row, rows, hrows, hwidth⟩ := m.exists_rows_eq_cons
    rw [hrows, List.head?_cons, Option.map_some, hwidth]

/-- A wrong character in the last row is refused before the length of the second, and a matrix is
read again from other white space. -/
theorem ofDigits_exact_of_late_character :
    ofDigits "01 011 2" = .error (.badDigit '2') ∧
    ∃ m, ofDigits " 011\n101" = .ok m ∧ ofDigits "011\u3000 101\t" = .ok m ∧ Obtainable m ∧
      (m.cell? 1 2).isSome := by
  let m : Matrix := ⟨[[false, true, true], [true, false, true]], 3, by simp, by simp⟩
  have hread : ofDigits " 011\n101" = .ok m :=
    (ofDigits_exact.1 _ _).2 (.grid (Text.words_eq_iff.1 (by decide)))
  have hbefore : ("01 011 ".toList.all (!isForeign ·)) = true := by decide
  refine ⟨(ofDigits_exact.1 _ _).2 ?_, m, hread, ?_, .ofDigits hread, ?_⟩
  · exact @Reads.foreign "01 011 ".toList [] '2' (by decide) fun d hd => by
      simpa using List.all_eq_true.1 hbefore d hd
  · exact (ofDigits_exact.2.1 _ m hread).1 _ (Text.words_eq_iff.1 (by decide))
  · exact ((ofDigits_exact.2.2.2 m).2 1 2).2 (by decide)

end Matrix

end StudyGraph
