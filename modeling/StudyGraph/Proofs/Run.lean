import StudyGraph.Proofs.Independence
import StudyGraph.Readers.Markdown.Heading
import StudyGraph.Session

/-!
# Runs over many blocks

How a block fails does not depend on the graph around it (`Graph.compileBlock_eq_error_iff`), so
the failures of a run are those that its blocks have alone (`Block.failure?`). A run that goes on
past failures collects all of them and leaves what the other blocks leave (`Graph.compileAll_eq`,
`Graph.compileAllSources_eq`). A run that stops at the first failure reports the head of that list
and leaves what the blocks before it leave (`Graph.compileUntil_eq`,
`Graph.compileSourcesUntil_eq`). The files of a session make the same runs
(`Session.compileFiles_keepGoing`, `Session.compileFiles_until`).
-/

namespace StudyGraph

/-! ## Numbered blocks -/

namespace Block

/-- The blocks of sources in order, each with the number of its file, the first of which is
`file`. -/
def ofSources (headings : Text → List Nat) (file : Nat) (sources : List Text) :
    List (Nat × Block) :=
  (sources.zipIdx file).flatMap fun (source, i) => (ofSource headings source).map (i, ·)

/-- How a numbered block fails when it is compiled alone, if it does. -/
def failure? (block : Nat × Block) : Option Failure :=
  match Graph.empty.compileBlock block.1 block.2 with
  | .ok _ => none
  | .error failure => some failure

/-- Whether a numbered block can be compiled alone. -/
def compiles (block : Nat × Block) : Bool :=
  (failure? block).isNone

theorem ofSources_cons (headings : Text → List Nat) (file : Nat) (source : Text)
    (sources : List Text) : ofSources headings file (source :: sources) =
      (ofSource headings source).map (file, ·) ++ ofSources headings (file + 1) sources := rfl

theorem compiles_iff {block : Nat × Block} : compiles block = true ↔ failure? block = none := by
  simp [compiles]

theorem not_compiles_of_failure? {block : Nat × Block} {failure : Failure}
    (h : failure? block = some failure) : ¬compiles block = true := by
  simp [compiles, h]

end Block

namespace Graph

/-- Compile a numbered block. -/
def compileNumbered (g : Graph) (block : Nat × Block) : Except Failure Graph :=
  g.compileBlock block.1 block.2

/-- A block fails in every graph as it fails alone. -/
theorem compileBlock_eq_error_iff {g : Graph} {file : Nat} {block : Block} {failure : Failure} :
    g.compileBlock file block = .error failure ↔ Block.failure? (file, block) = some failure := by
  have hagree := block.agree_contribution g empty
  unfold Block.failure?
  rw [compileBlock_eq, compileBlock_eq]
  generalize block.contribution g = x, block.contribution empty = y at hagree
  cases hagree with
  | fault e => simp
  | shape _ => simp

theorem exists_compileBlock_eq_ok_iff {g : Graph} {file : Nat} {block : Block} :
    (∃ g', g.compileBlock file block = .ok g') ↔ Block.failure? (file, block) = none := by
  cases hcompile : g.compileBlock file block with
  | error failure =>
    rw [compileBlock_eq_error_iff] at hcompile
    simp [hcompile]
  | ok g' =>
    cases hfailure : Block.failure? (file, block) with
    | none => simp
    | some failure =>
      rw [← compileBlock_eq_error_iff, hcompile] at hfailure
      cases hfailure

/-! ## One source -/

section

variable (file : Nat) (g : Graph) (blocks : List Block)

/-- Past all failures: the failures of the blocks alone, and the graph of the other blocks. -/
theorem compileAll_eq :
    (g.compileAll file blocks).2 = (blocks.map (file, ·)).filterMap Block.failure? ∧
    ((blocks.map (file, ·)).filter Block.compiles).foldlM compileNumbered g =
      .ok (g.compileAll file blocks).1 := by
  induction blocks generalizing g with
  | nil => exact ⟨rfl, rfl⟩
  | cons block blocks ih =>
    rw [compileAll, List.map_cons]
    cases hcompile : g.compileBlock file block with
    | error failure =>
      have hfailure := compileBlock_eq_error_iff.1 hcompile
      have hcompiles := Block.not_compiles_of_failure? hfailure
      obtain ⟨hfailures, hgraph⟩ := ih g
      refine ⟨?_, ?_⟩
      · rw [List.filterMap_cons_some hfailure, ← hfailures]
      · rw [List.filter_cons_of_neg hcompiles]
        exact hgraph
    | ok g' =>
      have hfailure := exists_compileBlock_eq_ok_iff.1 ⟨g', hcompile⟩
      have hstep : g.compileNumbered (file, block) = .ok g' := hcompile
      obtain ⟨hfailures, hgraph⟩ := ih g'
      refine ⟨?_, ?_⟩
      · rw [List.filterMap_cons_none hfailure]
        exact hfailures
      · rw [List.filter_cons_of_pos (Block.compiles_iff.2 hfailure), List.foldlM_cons, hstep]
        exact hgraph

/-- Up to the first failure: that failure, and the graph of the blocks before it. -/
theorem compileUntil_eq :
    (g.compileUntil file blocks).2 = ((blocks.map (file, ·)).filterMap Block.failure?).head? ∧
    ((blocks.map (file, ·)).takeWhile Block.compiles).foldlM compileNumbered g =
      .ok (g.compileUntil file blocks).1 := by
  induction blocks generalizing g with
  | nil => exact ⟨rfl, rfl⟩
  | cons block blocks ih =>
    rw [compileUntil, List.map_cons]
    cases hcompile : g.compileBlock file block with
    | error failure =>
      have hfailure := compileBlock_eq_error_iff.1 hcompile
      have hcompiles := Block.not_compiles_of_failure? hfailure
      refine ⟨?_, ?_⟩
      · rw [List.filterMap_cons_some hfailure, List.head?_cons]
      · rw [List.takeWhile_cons_of_neg hcompiles]
        rfl
    | ok g' =>
      have hfailure := exists_compileBlock_eq_ok_iff.1 ⟨g', hcompile⟩
      have hstep : g.compileNumbered (file, block) = .ok g' := hcompile
      obtain ⟨hfailures, hgraph⟩ := ih g'
      refine ⟨?_, ?_⟩
      · rw [List.filterMap_cons_none hfailure]
        exact hfailures
      · rw [List.takeWhile_cons_of_pos (Block.compiles_iff.2 hfailure), List.foldlM_cons, hstep]
        exact hgraph

end

/-! ## Many sources -/

section

variable (headings : Text → List Nat) (file : Nat) (g : Graph) (sources : List Text)

theorem compileAllSources_eq :
    (g.compileAllSources headings file sources).2 =
      (Block.ofSources headings file sources).filterMap Block.failure? ∧
    ((Block.ofSources headings file sources).filter Block.compiles).foldlM compileNumbered g =
      .ok (g.compileAllSources headings file sources).1 := by
  induction sources generalizing file g with
  | nil => exact ⟨rfl, rfl⟩
  | cons source sources ih =>
    let blocks := Block.ofSource headings source
    obtain ⟨hfailures, hgraph⟩ := compileAll_eq file g blocks
    obtain ⟨hmore, hrest⟩ := ih (file + 1) (g.compileAll file blocks).1
    rw [Block.ofSources_cons, List.filterMap_append, List.filter_append, List.foldlM_append,
      ← hfailures, ← hmore, hgraph]
    exact ⟨rfl, hrest⟩

/-- What comes behind a failure is not reached. -/
theorem takeWhile_compiles_append {blocks : List (Nat × Block)}
    (h : blocks.filterMap Block.failure? ≠ []) (more : List (Nat × Block)) :
    (blocks ++ more).takeWhile Block.compiles = blocks.takeWhile Block.compiles := by
  induction blocks with
  | nil => exact absurd rfl h
  | cons block blocks ih =>
    rw [List.cons_append]
    cases hfailure : Block.failure? block with
    | some failure =>
      have hcompiles := Block.not_compiles_of_failure? hfailure
      rw [List.takeWhile_cons_of_neg hcompiles, List.takeWhile_cons_of_neg hcompiles]
    | none =>
      rw [List.filterMap_cons_none hfailure] at h
      have hcompiles := Block.compiles_iff.2 hfailure
      rw [List.takeWhile_cons_of_pos hcompiles, List.takeWhile_cons_of_pos hcompiles, ih h]

theorem compileSourcesUntil_eq :
    (g.compileSourcesUntil headings file sources).2 =
      ((Block.ofSources headings file sources).filterMap Block.failure?).head? ∧
    ((Block.ofSources headings file sources).takeWhile Block.compiles).foldlM compileNumbered g =
      .ok (g.compileSourcesUntil headings file sources).1 := by
  induction sources generalizing file g with
  | nil => exact ⟨rfl, rfl⟩
  | cons source sources ih =>
    obtain ⟨hfailure, hgraph⟩ := compileUntil_eq file g (Block.ofSource headings source)
    rw [compileSourcesUntil, Block.ofSources_cons, List.filterMap_append]
    generalize hrun : g.compileUntil file (Block.ofSource headings source) = run at hfailure hgraph
    obtain ⟨g', _ | failure⟩ := run
    · have hnil := List.head?_eq_none_iff.1 hfailure.symm
      have hall : ∀ block ∈ (Block.ofSource headings source).map (file, ·),
          Block.compiles block = true := fun block hblock =>
        Block.compiles_iff.2 (List.filterMap_eq_nil_iff.1 hnil block hblock)
      obtain ⟨hmore, hrest⟩ := ih (file + 1) g'
      have hself := @List.takeWhile_append_of_pos _ Block.compiles _ [] hall
      rw [List.append_nil, List.takeWhile_nil, List.append_nil] at hself
      rw [hself] at hgraph
      rw [hnil, List.nil_append, ← hmore, List.takeWhile_append_of_pos hall, List.foldlM_append,
        hgraph]
      exact ⟨rfl, hrest⟩
    · have hne :
          ((Block.ofSource headings source).map (file, ·)).filterMap Block.failure? ≠ [] := by
        intro hnil
        simp [hnil] at hfailure
      rw [takeWhile_compiles_append hne, hgraph, List.head?_append, ← hfailure]
      exact ⟨rfl, rfl⟩

end

end Graph

/-! ## Sessions -/

/-- A file with the bytes of a text reads as the text. -/
theorem FileTree.read_file_toByteArray (s : String) :
    (file s.toByteArray).read = .ok s.toList := by
  have hs : String.fromUTF8? s.toByteArray = some s := by
    rw [String.fromUTF8?, dif_pos s.isValidUTF8]
    rfl
  simp only [read, hs]

namespace Session

variable {headings : Text → List Nat} {files : Files}

/-- A session that goes on past failures, on files that can all be read. -/
theorem compileFiles_keepGoing {paths sources : List Text} (p : Progress)
    (hread : paths.map files.read = sources.map .ok) :
    (compileFiles headings files true p paths).1.graph =
        (p.graph.compileAllSources headings p.sources.length sources).1 ∧
      (compileFiles headings files true p paths).1.failures =
        p.failures ++ (p.graph.compileAllSources headings p.sources.length sources).2 := by
  induction paths generalizing p sources with
  | nil =>
    obtain rfl : sources = [] := by simpa using hread
    exact ⟨rfl, (List.append_nil _).symm⟩
  | cons path paths ih =>
    cases sources with
    | nil => cases hread
    | cons source sources =>
      obtain ⟨hsource, hrest⟩ := List.cons.inj hread
      have hnext := ih (p.add headings true path source) hrest
      have hlength : (p.add headings true path source).sources.length = p.sources.length + 1 := by
        simp [Progress.add]
      rw [hlength] at hnext
      simp only [compileFiles, hsource, Bool.not_true, Bool.false_and, Bool.false_eq_true, if_false]
      exact ⟨hnext.1, hnext.2.trans (List.append_assoc ..)⟩

/-- A session that stops at the first failure, on files that can all be read. -/
theorem compileFiles_until {paths sources : List Text} (p : Progress) (hp : p.failures = [])
    (hread : paths.map files.read = sources.map .ok) :
    (compileFiles headings files false p paths).1.graph =
        (p.graph.compileSourcesUntil headings p.sources.length sources).1 ∧
      (compileFiles headings files false p paths).1.failures =
        (p.graph.compileSourcesUntil headings p.sources.length sources).2.toList := by
  induction paths generalizing p sources with
  | nil =>
    obtain rfl : sources = [] := by simpa using hread
    exact ⟨rfl, hp⟩
  | cons path paths ih =>
    cases sources with
    | nil => cases hread
    | cons source sources =>
      obtain ⟨hsource, hrest⟩ := List.cons.inj hread
      have hadd : (p.add headings false path source).graph =
          (p.graph.compileUntil p.sources.length (Block.ofSource headings source)).1 ∧
          (p.add headings false path source).failures =
            (p.graph.compileUntil p.sources.length (Block.ofSource headings source)).2.toList ∧
          (p.add headings false path source).sources.length = p.sources.length + 1 := by
        simp [Progress.add, hp]
      simp only [compileFiles, hsource, Graph.compileSourcesUntil]
      generalize p.graph.compileUntil p.sources.length (Block.ofSource headings source) = run
        at hadd ⊢
      generalize p.add headings false path source = q at hadd ⊢
      obtain ⟨hgraph, hfailures, hlength⟩ := hadd
      obtain ⟨g, _ | failure⟩ := run
      · have hnext := ih q hfailures hrest
        rw [hgraph, hlength] at hnext
        simpa [hfailures] using hnext
      · simp [hfailures, hgraph]

end Session

namespace Graph

/-- Keeping going and stopping at the first failure agree. From the empty graph, a run past all
failures collects the failures that the blocks have alone, in order, and leaves the graph of the
blocks that do not fail. A run up to the first failure reports the head of that list, and leaves the
graph of exactly the blocks before the one that fails. Sessions on files with these sources come to
the same graphs and failures. This holds for every reader of headings. -/
theorem compileSources_agree (headings : Text → List Nat) (sources : List Text) :
    let blocks := Block.ofSources headings 0 sources
    let failures := blocks.filterMap Block.failure?
    ((empty.compileAllSources headings 0 sources).2 = failures ∧
      (blocks.filter Block.compiles).foldlM compileNumbered empty =
        .ok (empty.compileAllSources headings 0 sources).1) ∧
    ((empty.compileSourcesUntil headings 0 sources).2 = failures.head? ∧
      (blocks.takeWhile Block.compiles).foldlM compileNumbered empty =
        .ok (empty.compileSourcesUntil headings 0 sources).1) ∧
    ∀ (files : Files) (paths : List Text), paths.map files.read = sources.map .ok →
      ((Session.compileFiles headings files true .start paths).1.graph =
          (empty.compileAllSources headings 0 sources).1 ∧
        (Session.compileFiles headings files true .start paths).1.failures = failures) ∧
      ((Session.compileFiles headings files false .start paths).1.graph =
          (empty.compileSourcesUntil headings 0 sources).1 ∧
        (Session.compileFiles headings files false .start paths).1.failures =
          failures.head?.toList) := by
  intro blocks failures
  obtain ⟨hall, hallGraph⟩ := compileAllSources_eq headings 0 empty sources
  obtain ⟨huntil, huntilGraph⟩ := compileSourcesUntil_eq headings 0 empty sources
  refine ⟨⟨hall, hallGraph⟩, ⟨huntil, huntilGraph⟩, fun files paths hread => ?_⟩
  obtain ⟨hkept, hfailures⟩ := Session.compileFiles_keepGoing .start hread
  obtain ⟨hstopped, hfailure⟩ := Session.compileFiles_until .start rfl hread
  exact ⟨⟨hkept, hfailures.trans hall⟩, hstopped, hfailure.trans (congrArg Option.toList huntil)⟩

/-- Two files, the first with a blank that is not in its sentence between two blocks that
compile. -/
theorem compileSources_agree_past_astray_blank :
    let first := "# @ a @ b\n\n# @ c\n- @fill d\n\n# @ e"
    let second := "# @ a @ f"
    let files : Files := fun path =>
      .ok (.file (if path = "first".toList then first.toByteArray else second.toByteArray))
    let paths := ["first".toList, "second".toList]
    let kept := (Session.compileFiles Markdown.headingStarts files true .start paths).1
    let stopped := (Session.compileFiles Markdown.headingStarts files false .start paths).1
    paths.map files.read = [.ok first.toList, .ok second.toList] ∧
    kept.failures.length = 1 ∧ kept.graph.size = 7 ∧
    stopped.failures.length = 1 ∧ stopped.graph.size = 3 := by
  intro first second files paths kept stopped
  have hread : paths.map files.read = [first.toList, second.toList].map .ok := by
    simp [paths, files, Files.read, bind, Except.bind, FileTree.read_file_toByteArray]
  obtain ⟨-, -, hsession⟩ :=
    compileSources_agree Markdown.headingStarts [first.toList, second.toList]
  obtain ⟨⟨hkept, hfailures⟩, hstopped, hfailure⟩ := hsession files paths hread
  rw [hkept, hfailures, hstopped, hfailure]
  exact ⟨hread, by decide +kernel, by decide +kernel, by decide +kernel, by decide +kernel⟩

end Graph

end StudyGraph
