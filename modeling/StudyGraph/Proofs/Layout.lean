import StudyGraph.Proofs.Fault

/-!
# Blocks of bare lines

A block can be given as bare lines. Their spans are those that the lines have in the text to which
newlines join them : the first line starts with the text, one byte stands between neighbours
(`Line.isChain_layOut`), the last line ends with the text (`Line.stop_of_getLast?_layOut`), and each
span holds its line (`Line.standsIn_join_of_mem_layOut`). No line is read for this, so it may be
empty and may have newlines of its own. A block that fails names one of its lines, and so a place in
the joined text (`Block.spans_ofLines`).
-/

namespace StudyGraph

/-! ## Lines that are laid out -/

namespace Line

variable {line : Line} {texts : List Text}

/-- One byte stands between neighbours. -/
theorem isChain_layOut : ∀ (start : Nat) (texts : List Text),
    (layOut start texts).IsChain fun line next => next.start = line.stop + 1
  | _, [] => .nil
  | _, [_] => .singleton _
  | _, _ :: next :: texts => .cons_cons rfl (isChain_layOut _ (next :: texts))

/-- The last line ends with the joined text. -/
theorem stop_of_getLast?_layOut : ∀ (start : Nat) {texts : List Text},
    (layOut start texts).getLast? = some line →
      line.stop = start + Text.byteSize (Text.join ['\n'] texts)
  | _, [], h => by cases h
  | start, [t], h => by
    obtain rfl := Option.some.inj h
    rw [Text.join_singleton]
    rfl
  | start, t :: next :: texts, h => by
    have hnewline : Text.byteSize ['\n'] = 1 := rfl
    have hlast : (layOut (start + t.byteSize + 1) (next :: texts)).getLast? = some line := by
      rw [layOut, layOut, List.getLast?_cons_cons] at h
      exact h
    rw [stop_of_getLast?_layOut _ hlast, Text.join_cons _ _ (List.cons_ne_nil next texts),
      Text.byteSize_append, Text.byteSize_append, hnewline]
    omega

/-- A line stands in the joined text. -/
theorem standsIn_join_of_mem_layOut (h : line ∈ layOut 0 texts) :
    line.StandsIn (Text.join ['\n'] texts) := by
  obtain ⟨front, back, rfl, hstart⟩ := (mem_layOut_iff texts 0).1 h
  obtain ⟨after, hafter⟩ := Text.exists_join_cons_eq ['\n'] line.text back
  rw [Nat.zero_add] at hstart
  have hsource : Text.join ['\n'] (front ++ line.text :: back) =
      front.flatMap (· ++ ['\n']) ++ line.text ++ after := by
    rw [Text.join_append_cons, hafter, List.append_assoc]
  exact standsIn_of_start hsource hstart

end Line

/-! ## Blocks -/

namespace Block

/-- A block of bare lines has the spans of their joined text. It keeps the lines in order. The first
one starts with the text to which newlines join them and the last one ends with it, one byte stands
between neighbours, and the span of each line is in the text, starts and ends between characters and
holds the line. If the block fails, in any graph, then on one of these lines. -/
theorem spans_ofLines (texts : List Text) :
    let block := ofLines texts
    let source := Text.join ['\n'] texts
    block.lines.map Line.text = texts ∧
    (∀ line, block.lines.head? = some line → line.start = 0) ∧
    (block.lines.IsChain fun line next => next.start = line.stop + 1) ∧
    (∀ line, block.lines.getLast? = some line → line.stop = source.byteSize) ∧
    (∀ line ∈ block.lines, line.StandsIn source ∧ line.stop ≤ source.byteSize) ∧
    ∀ (g : Graph) file failure, g.compileBlock file block = .error failure →
      failure.file = file ∧ failure.line ∈ block.lines ∧ failure.line.StandsIn source ∧
      failure.line.stop ≤ source.byteSize := by
  intro block source
  have hstands : ∀ line ∈ block.lines, line.StandsIn source ∧ line.stop ≤ source.byteSize := by
    intro line hline
    have hstand := Line.standsIn_join_of_mem_layOut hline
    exact ⟨hstand, hstand.stop_le⟩
  refine ⟨Line.map_text_layOut 0 texts, ?_, Line.isChain_layOut 0 texts, ?_, hstands, ?_⟩
  · intro line hline
    cases texts with
    | nil => cases hline
    | cons t texts =>
      obtain rfl := Option.some.inj hline
      rfl
  · intro line hline
    rw [Line.stop_of_getLast?_layOut 0 hline, Nat.zero_add]
  · intro g file failure h
    obtain ⟨hfile, hfault⟩ := Graph.head?_faults_of_compileBlock h
    have hline := (blames_of_mem_faults (List.mem_of_mem_head? hfault)).line_mem
    exact ⟨hfile, hline, hstands failure.line hline⟩

/-- A blank that its sentence does not have, on a line between characters of several bytes and an
empty line. -/
theorem spans_ofLines_before_empty_line :
    let texts : List Text :=
      ["# @ 私 @ わたし".toList, "- @ é @ e".toList, "- @fill 木".toList, [], "本".toList]
    let block := ofLines texts
    let source := Text.join ['\n'] texts
    let failure : Failure := ⟨⟨.cut (.notFound "木"), ⟨"- @fill 木", 31⟩⟩, 3⟩
    Graph.empty.compileBlock 3 block = .error failure ∧ failure.line.stop = 42 ∧
      failure.line ∈ block.lines ∧ failure.line.StandsIn source := by
  intro texts block source failure
  have hfail : Graph.empty.compileBlock 3 block = .error failure := by decide +kernel
  obtain ⟨-, -, -, -, -, hfailure⟩ := spans_ofLines texts
  obtain ⟨-, hmem, hline, -⟩ := hfailure Graph.empty 3 failure hfail
  exact ⟨hfail, by decide +kernel, hmem, hline⟩

end Block

end StudyGraph
