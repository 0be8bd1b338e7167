import StudyGraph.Proofs.Join
import StudyGraph.Sentence

/-!
# Lines in their source

A line of a source is what stands between two neighbouring newlines, or between one and an end of
the source, without a carriage return at its end (`Line.Delimited`, `Line.mem_ofSource_iff`): laid
out from some byte on, a text starts behind the texts before it, each with a newline
(`Line.mem_layOut_iff`). So the span of a line starts and ends between characters of the source and
holds the text of the line (`Line.StandsIn`). Blocks are cut out of the lines in order
(`Block.cut_append`), so their lines stand in the source as well.
-/

namespace StudyGraph

/-! ## Lines -/

namespace Line

/-- The span of the line starts and ends between characters of the source and holds its text. -/
def StandsIn (source : Text) (line : Line) : Prop :=
  ∃ before after, source = before ++ line.text ++ after ∧ line.start = Text.byteSize before ∧
    line.stop = Text.byteSize (before ++ line.text)

/-- What stands behind the text of a line up to its newline: a carriage return, or nothing if the
text does not end with one. -/
def Ending (text ending : Text) : Prop :=
  ending = ['\r'] ∨ ending = [] ∧ text.getLast? ≠ some '\r'

/-- The line, with its ending, stands between newlines or the ends of the source. -/
def Delimited (source : Text) (line : Line) : Prop :=
  ∃ before ending after, source = before ++ line.text ++ ending ++ after ∧
    line.start = Text.byteSize before ∧ '\n' ∉ line.text ∧ Ending line.text ending ∧
    (before = [] ∨ before.getLast? = some '\n') ∧ (after = [] ∨ after.head? = some '\n')

variable {source : Text} {line : Line}

theorem StandsIn.stop_le (h : line.StandsIn source) : line.stop ≤ source.byteSize := by
  obtain ⟨before, after, rfl, -, hstop⟩ := h
  rw [hstop, Text.byteSize_append (before ++ line.text)]
  omega

/-- The end of a span follows from its start. -/
theorem standsIn_of_start {before after : Text} (hsource : source = before ++ line.text ++ after)
    (hstart : line.start = Text.byteSize before) : line.StandsIn source := by
  refine ⟨before, after, hsource, hstart, ?_⟩
  rw [stop, hstart, Text.byteSize_append]

theorem Delimited.standsIn (h : line.Delimited source) : line.StandsIn source := by
  obtain ⟨before, ending, after, rfl, hstart, -⟩ := h
  exact standsIn_of_start (List.append_assoc (before ++ line.text) ending after) hstart

theorem Ending.notMem_newline {text ending : Text} (h : Ending text ending) : '\n' ∉ ending := by
  rcases h with rfl | ⟨rfl, -⟩ <;> simp

/-- A text that is laid out starts behind the texts before it and their newlines. -/
theorem mem_layOut_iff : ∀ (texts : List Text) (start : Nat), line ∈ layOut start texts ↔
    ∃ front back, texts = front ++ line.text :: back ∧
      line.start = start + Text.byteSize (front.flatMap (· ++ ['\n']))
  | [], start => by simp [layOut]
  | t :: texts, start => by
    have hbehind : ∀ front, start + t.byteSize + 1 + Text.byteSize (front.flatMap (· ++ ['\n'])) =
        start + Text.byteSize ((t :: front).flatMap (· ++ ['\n'])) := fun front => by
      have hnewline : Text.byteSize ['\n'] = 1 := rfl
      rw [List.flatMap_cons, Text.byteSize_append, Text.byteSize_append, hnewline]
      omega
    rw [layOut, List.mem_cons, mem_layOut_iff texts (start + t.byteSize + 1)]
    constructor
    · rintro (rfl | ⟨front, back, rfl, hstart⟩)
      · exact ⟨[], texts, rfl, rfl⟩
      · exact ⟨t :: front, back, rfl, hstart.trans (hbehind front)⟩
    · rintro ⟨front, back, htexts, hstart⟩
      cases front with
      | nil =>
        obtain ⟨rfl, -⟩ := List.cons.inj htexts
        have hstart : line.start = start := hstart
        exact Or.inl (by rw [← hstart])
      | cons first front =>
        obtain ⟨rfl, rfl⟩ := List.cons.inj htexts
        exact Or.inr ⟨front, back, rfl, hstart.trans (hbehind front).symm⟩

theorem withoutReturn_eq_iff {whole : Line} : whole.withoutReturn = line ↔
    ∃ ending, Ending line.text ending ∧ whole = ⟨line.text ++ ending, line.start⟩ := by
  constructor
  · rintro rfl
    unfold withoutReturn
    split
    · next hlast =>
      obtain ⟨text, htext⟩ := List.getLast?_eq_some_iff.1 hlast
      refine ⟨['\r'], Or.inl rfl, ?_⟩
      simp only [htext, List.dropLast_concat]
      rw [← htext]
    · next hlast => exact ⟨[], Or.inr ⟨rfl, hlast⟩, by rw [List.append_nil]⟩
  · rintro ⟨ending, rfl | ⟨rfl, hlast⟩, rfl⟩
    · simp [withoutReturn]
    · simp [withoutReturn, hlast]

/-- The lines of a source are those that newlines delimit. -/
theorem mem_ofSource_iff : line ∈ ofSource source ↔ line.Delimited source := by
  have hnewline : ∀ ending, Ending line.text ending →
      ('\n' ∉ line.text ↔ '\n' ∉ line.text ++ ending) := fun ending hending => by
    simp [hending.notMem_newline]
  simp only [ofSource, List.mem_map, withoutReturn_eq_iff]
  constructor
  · rintro ⟨_, hwhole, ending, hending, rfl⟩
    obtain ⟨front, back, hsplit, hstart⟩ := (mem_layOut_iff _ 0).1 hwhole
    rw [Nat.zero_add] at hstart
    obtain ⟨hfield, hbefore, after, hsource, hafter⟩ :=
      Text.splitOn_eq_append_cons_iff.1 ⟨front, back, hsplit, rfl⟩
    refine ⟨_, ending, after, ?_, hstart, (hnewline ending hending).2 hfield,
      hending, hbefore, hafter⟩
    rw [hsource]
    simp only [List.append_assoc]
  · rintro ⟨before, ending, after, rfl, hstart, hnone, hending, hbefore, hafter⟩
    obtain ⟨front, back, hsplit, rfl⟩ := Text.splitOn_eq_append_cons_iff.2
      ⟨(hnewline ending hending).1 hnone, hbefore, after, rfl, hafter⟩
    refine ⟨⟨line.text ++ ending, line.start⟩, (mem_layOut_iff _ 0).2 ⟨front, back, ?_, ?_⟩,
      ending, hending, rfl⟩
    · rw [← hsplit]
      simp only [List.append_assoc]
    · rw [hstart, Nat.zero_add]

/-- The lines of a source stand in it. -/
theorem standsIn_of_mem_ofSource (h : line ∈ ofSource source) : line.StandsIn source :=
  (mem_ofSource_iff.1 h).standsIn

/-- No line of a source has a newline. -/
theorem newline_notMem_of_mem_ofSource (h : line ∈ ofSource source) : '\n' ∉ line.text := by
  obtain ⟨_, _, _, -, -, hnone, -⟩ := mem_ofSource_iff.1 h
  exact hnone

end Line

/-! ## Lines of blocks -/

theorem Bullet.line_mem_of_mem_run : ∀ {lines : List Line} {bullet : Bullet},
    bullet ∈ run lines → bullet.line ∈ lines
  | [], _, h => by simp [run] at h
  | line :: lines, bullet, h => by
    rw [run] at h
    split at h
    · rcases List.mem_cons.1 h with rfl | h
      · exact List.mem_cons_self
      · exact List.mem_cons_of_mem _ (line_mem_of_mem_run h)
    · cases h

namespace Block

theorem mem_lines_of_header? {block : Block} {header : Line} (h : block.header? = some header) :
    header ∈ block.lines :=
  List.mem_of_mem_head? h

/-- The lines before the first block and the lines of the blocks are all the lines. -/
theorem cut_append (opens : Line → Bool) (lines : List Line) :
    (cut opens lines).1 ++ (cut opens lines).2.flatMap Block.lines = lines := by
  induction lines with
  | nil => rfl
  | cons line lines ih =>
    rw [cut]
    dsimp only
    split
    · rw [List.flatMap_cons, List.nil_append, List.cons_append, ih]
    · rw [List.cons_append, ih]

variable {headings : Text → List Nat} {source : Text} {block : Block} {line : Line}

/-- The lines of the blocks of a source are lines of the source, whatever the headings are. -/
theorem mem_ofSource_of_mem_lines (hblock : block ∈ ofSource headings source)
    (hline : line ∈ block.lines) : line ∈ Line.ofSource source := by
  rw [← cut_append (opensAt (headings source)) (Line.ofSource source)]
  exact List.mem_append_right _ (List.mem_flatMap.2 ⟨block, hblock, hline⟩)

/-- The lines of the blocks of a source stand in the source. -/
theorem standsIn_of_mem_ofSource (hblock : block ∈ ofSource headings source)
    (hline : line ∈ block.lines) : line.StandsIn source :=
  Line.standsIn_of_mem_ofSource (mem_ofSource_of_mem_lines hblock hline)

end Block

end StudyGraph
