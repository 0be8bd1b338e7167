import Mathlib.Data.List.TakeWhile
import StudyGraph.Proofs.Line

/-!
# Blocks partition a source

The lines of a source come in order, each behind the end of the one before
(`Line.pairwise_ofSource`). To cut lines into blocks is to leave out the lines before the first one
that opens a block (`Block.flatMap_lines_cut`), and the headings of the blocks are the lines that
open one, in order (`Block.map_header?_cut`). A line opens a block if a heading of the Markdown
reader starts on it and it has the form of a heading (`Line.Titled`), which is what `isTitled`
decides (`Line.isTitled_iff`). `Block.split_partitions` says of the lines, which newlines delimit,
what becomes of them.
-/

namespace StudyGraph

/-! ## Lines in order -/

namespace Line

theorem start_le_of_mem_layOut {line : Line} {start : Nat} {texts : List Text}
    (h : line ∈ layOut start texts) : start ≤ line.start := by
  obtain ⟨front, back, -, hstart⟩ := (mem_layOut_iff texts start).1 h
  omega

theorem pairwise_layOut : ∀ (texts : List Text) (start : Nat),
    (layOut start texts).Pairwise (·.stop < ·.start)
  | [], _ => List.Pairwise.nil
  | t :: texts, start => by
    refine List.pairwise_cons.2 ⟨fun line hline => ?_, pairwise_layOut texts _⟩
    exact start_le_of_mem_layOut hline

theorem stop_withoutReturn_le (line : Line) : line.withoutReturn.stop ≤ line.stop := by
  obtain ⟨ending, -, hwhole⟩ :=
    withoutReturn_eq_iff.1 (rfl : line.withoutReturn = line.withoutReturn)
  have hstop : line.stop = line.withoutReturn.start +
      (line.withoutReturn.text ++ ending).byteSize := congrArg stop hwhole
  rw [hstop, stop, Text.byteSize_append]
  omega

theorem start_withoutReturn (line : Line) : line.withoutReturn.start = line.start := by
  obtain ⟨ending, -, hwhole⟩ :=
    withoutReturn_eq_iff.1 (rfl : line.withoutReturn = line.withoutReturn)
  exact (congrArg start hwhole).symm

/-- Every line starts behind the end of the line before. -/
theorem pairwise_ofSource (source : Text) : (ofSource source).Pairwise (·.stop < ·.start) := by
  refine List.pairwise_map.2 ((pairwise_layOut _ 0).imp fun {a b} h => ?_)
  rw [start_withoutReturn]
  exact Nat.lt_of_le_of_lt (stop_withoutReturn_le a) h

/-- In order, the lines from the first one on that satisfies `p` are those that start where such a
line starts, or behind it. -/
theorem mem_dropWhile_iff {p : Line → Bool} {line : Line} : ∀ {lines : List Line},
    lines.Pairwise (·.stop < ·.start) → (line ∈ lines.dropWhile (!p ·) ↔
      line ∈ lines ∧ ∃ first ∈ lines, p first = true ∧ first.start ≤ line.start)
  | [], _ => by simp
  | other :: lines, h => by
    obtain ⟨hother, hlines⟩ := List.pairwise_cons.1 h
    have hbefore : ∀ line ∈ lines, other.start < line.start := fun line hline =>
      Nat.lt_of_le_of_lt (Nat.le_add_right _ _) (hother line hline)
    cases hp : p other with
    | true =>
      rw [List.dropWhile_cons_of_neg (by simp [hp])]
      refine ⟨fun hline => ⟨hline, other, List.mem_cons_self, hp, ?_⟩, And.left⟩
      rcases List.mem_cons.1 hline with rfl | hline
      · exact Nat.le_refl _
      · exact Nat.le_of_lt (hbefore line hline)
    | false =>
      rw [List.dropWhile_cons_of_pos (by simp [hp]), mem_dropWhile_iff hlines]
      constructor
      · rintro ⟨hline, first, hfirst, hpfirst, hle⟩
        exact ⟨List.mem_cons_of_mem _ hline, first, List.mem_cons_of_mem _ hfirst, hpfirst, hle⟩
      · rintro ⟨hline, first, hfirst, hpfirst, hle⟩
        have hbehind : first ∈ lines := by
          rcases List.mem_cons.1 hfirst with rfl | hfirst
          · simp [hp] at hpfirst
          · exact hfirst
        rcases List.mem_cons.1 hline with rfl | hline
        · exact absurd (hbefore first hbehind) (Nat.not_lt.2 hle)
        · exact ⟨hline, first, hbehind, hpfirst, hle⟩

/-! ## Heading lines -/

/-- The line is made of `#` characters, white space and something more. -/
def Titled (line : Line) : Prop :=
  ∃ hashes blanks rest : Text, line.text = hashes ++ blanks ++ rest ∧
    hashes ≠ [] ∧ (∀ c ∈ hashes, c = '#') ∧
    blanks ≠ [] ∧ (∀ c ∈ blanks, Text.isBlank c = true) ∧ rest ≠ []

theorem isTitled_iff {line : Line} : line.isTitled = true ↔ line.Titled := by
  constructor
  · intro h
    unfold isTitled at h
    split at h
    · next t htext =>
      split at h
      · next c d rest hrest =>
        refine ⟨'#' :: t.takeWhile (· == '#'), [c], d :: rest, ?_, by simp, ?_, by simp,
          by simpa using h, by simp⟩
        · rw [htext, List.append_assoc, List.singleton_append, List.cons_append, ← hrest,
            List.takeWhile_append_dropWhile]
        · intro c hc
          rcases List.mem_cons.1 hc with rfl | hc
          · rfl
          · exact eq_of_beq (List.mem_takeWhile_imp (p := (· == '#')) hc)
      · cases h
    · cases h
  · rintro ⟨hashes, blanks, rest, htext, hne, hhashes, hblanks, hblank, hrest⟩
    obtain ⟨hash, hashes, rfl⟩ := List.exists_cons_of_ne_nil hne
    obtain ⟨blank, blanks, rfl⟩ := List.exists_cons_of_ne_nil hblanks
    obtain ⟨rfl, hmore⟩ := List.forall_mem_cons.1 hhashes
    have hblank : Text.isBlank blank = true := hblank blank List.mem_cons_self
    have hne : blank ≠ '#' := by
      rintro rfl
      exact absurd hblank (by decide)
    have hdrop : (hashes ++ blank :: (blanks ++ rest)).dropWhile (· == '#') =
        blank :: (blanks ++ rest) := by
      rw [List.dropWhile_append_of_pos fun c hc => beq_iff_eq.2 (hmore c hc),
        List.dropWhile_cons_of_neg (by simpa using hne)]
    obtain ⟨next, more, hnext⟩ : ∃ next more, blanks ++ rest = next :: more :=
      List.exists_cons_of_ne_nil (by simp [hrest])
    rw [List.append_assoc, List.cons_append, List.cons_append] at htext
    rw [isTitled, htext]
    simp only [hdrop]
    rw [hnext]
    exact hblank

/-- A block opens on the line, when headings start on the lines at the given bytes. -/
def Opens (headings : List Nat) (line : Line) : Prop :=
  line.start ∈ headings ∧ line.Titled

end Line

/-! ## Blocks -/

namespace Block

theorem opensAt_iff {headings : List Nat} {line : Line} :
    opensAt headings line = true ↔ line.Opens headings := by
  rw [opensAt, Bool.and_eq_true, List.contains_iff_mem, Line.isTitled_iff, Line.Opens]

/-- The lines of the blocks are those from the first one on that opens a block. -/
theorem flatMap_lines_cut (opens : Line → Bool) (lines : List Line) :
    (cut opens lines).2.flatMap Block.lines = lines.dropWhile (!opens ·) := by
  have hbefore : (cut opens lines).1 = lines.takeWhile (!opens ·) := by
    induction lines with
    | nil => rfl
    | cons line lines ih =>
      rw [cut]
      cases hopens : opens line <;> simp [hopens, ih]
  have happend := cut_append opens lines
  rw [hbefore] at happend
  exact List.append_cancel_left (happend.trans List.takeWhile_append_dropWhile.symm)

/-- The headings of the blocks are the lines that open one. -/
theorem map_header?_cut (opens : Line → Bool) (lines : List Line) :
    (cut opens lines).2.map header? = (lines.filter opens).map some := by
  induction lines with
  | nil => rfl
  | cons line lines ih =>
    rw [cut]
    cases hopens : opens line <;> simp [hopens, ih, header?]

variable {headings : List Nat} {source : Text}

/-- The first lines of the blocks are the lines that open one. -/
theorem exists_header?_split_iff {line : Line} :
    (∃ block ∈ split headings source, block.header? = some line) ↔
      line.Delimited source ∧ line.Opens headings := by
  rw [← List.mem_map, split, map_header?_cut, ← Line.mem_ofSource_iff, ← opensAt_iff]
  simp

theorem lines_ne_nil_of_mem_split {block : Block} (h : block ∈ split headings source) :
    block.lines ≠ [] := by
  have hsome : block.header? ∈ ((Line.ofSource source).filter (opensAt headings)).map some := by
    rw [← map_header?_cut]
    exact List.mem_map_of_mem h
  obtain ⟨line, -, hline⟩ := List.mem_map.1 hsome
  intro hnil
  rw [header?, hnil] at hline
  cases hline

theorem split_eq_nil_iff : split headings source = [] ↔
    ∀ line : Line, line.Delimited source → ¬ line.Opens headings := by
  constructor
  · intro hnil line hdelimited hopens
    obtain ⟨block, hblock, -⟩ := exists_header?_split_iff.2 ⟨hdelimited, hopens⟩
    rw [hnil] at hblock
    cases hblock
  · intro hnone
    refine List.eq_nil_iff_forall_not_mem.2 fun block hblock => ?_
    obtain ⟨line, hline⟩ : ∃ line, block.header? = some line := by
      cases hlines : block.lines with
      | nil => exact absurd hlines (lines_ne_nil_of_mem_split hblock)
      | cons line lines => exact ⟨line, by rw [header?, hlines, List.head?_cons]⟩
    obtain ⟨hdelimited, hopens⟩ := exists_header?_split_iff.1 ⟨block, hblock, hline⟩
    exact hnone line hdelimited hopens

/-- The blocks of a source partition it. Newlines delimit its lines, and the lines of the blocks are
these from the first one on that opens a block, each once and in order. Every line stands in the
source at its span, behind the end of the line before. No block is empty, and a line is the first
of a block exactly if it opens one : a heading starts on it, and it is made of `#` characters, white
space and something more. If no line does, there are no blocks. -/
theorem split_partitions (headings : List Nat) (source : Text) :
    let blocks := split headings source
    let lines := blocks.flatMap Block.lines
    (∀ line, line ∈ lines ↔ line.Delimited source ∧
      ∃ first : Line, first.Delimited source ∧ first.Opens headings ∧ first.start ≤ line.start) ∧
    lines.Pairwise (·.stop < ·.start) ∧
    (∀ line ∈ lines, line.StandsIn source ∧ line.stop ≤ source.byteSize) ∧
    (∀ block ∈ blocks, block.lines ≠ []) ∧
    (∀ line, (∃ block ∈ blocks, block.header? = some line) ↔
      line.Delimited source ∧ line.Opens headings) ∧
    (blocks = [] ↔ ∀ line : Line, line.Delimited source → ¬ line.Opens headings) := by
  intro blocks lines
  have hlines : lines = (Line.ofSource source).dropWhile (!opensAt headings ·) :=
    flatMap_lines_cut _ _
  refine ⟨fun line => ?_, ?_, fun line hline => ?_, fun block => lines_ne_nil_of_mem_split,
    fun line => exists_header?_split_iff, split_eq_nil_iff⟩
  · rw [hlines, Line.mem_dropWhile_iff (Line.pairwise_ofSource source)]
    simp only [Line.mem_ofSource_iff, opensAt_iff]
  · rw [hlines]
    exact (Line.pairwise_ofSource source).sublist (List.dropWhile_sublist _)
  · rw [hlines] at hline
    have hstands := Line.standsIn_of_mem_ofSource ((List.dropWhile_suffix _).mem hline)
    exact ⟨hstands, hstands.stop_le⟩

end Block

end StudyGraph
