import StudyGraph.Proofs.Fault
import StudyGraph.Readers

/-!
# Failures are reported

A run that keeps going reads its files in order up to the first that cannot be read
(`Session.sourcesRead`, `Session.unread?`) and collects the failures of their blocks
(`Session.failuresOf`, `Session.failures_compileFiles`). What it reports are the diagnostics among
its messages (`Outcome.reports`), and that of a failure points at the line at fault
(`Session.exists_pointsAt_of_mem_failuresOf`).

Reports are written when all files are read. A file that cannot be read ends the run before that,
so what failed in the files before it goes unreported (`Session.reports_eq_iff_of_run`).
-/

namespace StudyGraph

/-! ## Reports among other messages -/

/-- The diagnostic that a message reports, if it does. -/
def Message.report? : Message → Option Report
  | report r => some r
  | _ => none

/-- The diagnostics that a run reports, in order. -/
def Outcome.reports (outcome : Outcome) : List Report :=
  outcome.errors.filterMap Message.report?

/-- The report points at a line of a source: its one label counts the source among the sources of
the report and has the span of the line, which stands there. -/
def Report.PointsAt (report : Report) (source : Source) (line : Line) : Prop :=
  ∃ file, report.diagnostic.labels = [⟨file, line.start, line.stop⟩] ∧
    report.sources[file]? = some source ∧ line.StandsIn source.text

theorem Message.filterMap_report?_event (events : List Event) :
    (events.map event).filterMap report? = [] := by
  rw [List.filterMap_map]
  exact List.filterMap_eq_nil_iff.2 fun _ _ => rfl

theorem Message.filterMap_report?_report {α : Type} (f : α → Report) (as : List α) :
    (as.map fun a => report (f a)).filterMap report? = as.map f := by
  rw [List.filterMap_map]
  exact congrFun List.filterMap_eq_map as

namespace Session

/-! ## What is read and what fails -/

/-- The files that are read: all up to the first that cannot be. -/
def sourcesRead (files : Files) : List Text → List Source
  | [] => []
  | path :: paths =>
    match files.read path with
    | .ok text => ⟨path, text⟩ :: sourcesRead files paths
    | .error _ => []

/-- The first file that cannot be read, and why. -/
def unread? (files : Files) : List Text → Option (Text × ReadError)
  | [] => none
  | path :: paths =>
    match files.read path with
    | .ok _ => unread? files paths
    | .error e => some (path, e)

/-- The failures of the blocks of sources, each as if it were compiled alone, in the order of the
sources and their blocks. -/
def failuresOf (headings : Text → List Nat) (sources : List Source) : List Failure :=
  (Block.ofSources headings 0 (sources.map Source.text)).filterMap Block.failure?

variable {headings : Text → List Nat} {files : Files}

theorem unread?_eq_none_iff {paths : List Text} :
    unread? files paths = none ↔ ∀ path ∈ paths, ∃ text, files.read path = .ok text := by
  induction paths with
  | nil => simp [unread?]
  | cons path paths ih =>
    rw [unread?, List.forall_mem_cons]
    cases files.read path with
    | error e => simp
    | ok text => simp [ih]

theorem map_read_sourcesRead (files : Files) (paths : List Text) :
    ((sourcesRead files paths).map Source.path).map files.read =
      ((sourcesRead files paths).map Source.text).map .ok := by
  induction paths with
  | nil => rfl
  | cons path paths ih =>
    rw [sourcesRead]
    cases hread : files.read path with
    | error e => rfl
    | ok text => simp [hread, ih]

/-- A session that keeps going compiles the files that are read. -/
theorem compileFiles_eq (p : Progress) (paths : List Text) :
    compileFiles headings files true p paths =
      ((compileFiles headings files true p ((sourcesRead files paths).map Source.path)).1,
        unread? files paths) := by
  induction paths generalizing p with
  | nil => rfl
  | cons path paths ih =>
    rw [sourcesRead, unread?, compileFiles]
    cases hread : files.read path with
    | error e => rfl
    | ok text => simp [compileFiles, hread, ih (p.add headings true path text)]

theorem sources_compileFiles (p : Progress) (paths : List Text) :
    (compileFiles headings files true p paths).1.sources =
      p.sources ++ sourcesRead files paths := by
  induction paths generalizing p with
  | nil => exact (List.append_nil _).symm
  | cons path paths ih =>
    rw [sourcesRead, compileFiles]
    cases hread : files.read path with
    | error e => exact (List.append_nil _).symm
    | ok text => simp [ih, Progress.add]

/-- The failures are those of the files that are read, whether or not others follow. -/
theorem failures_compileFiles (headings : Text → List Nat) (files : Files) (paths : List Text) :
    (compileFiles headings files true .start paths).1.failures =
      failuresOf headings (sourcesRead files paths) := by
  have hread := map_read_sourcesRead files paths
  have hfailures : (compileFiles headings files true .start _).1.failures = _ :=
    (compileFiles_keepGoing .start hread).2
  rw [compileFiles_eq]
  exact hfailures.trans (Graph.compileAllSources_eq headings 0 Graph.empty _).1

/-- The report of a failure has the wording of its cause and points at the line at fault, which is
one of a block that fails in every graph. -/
theorem exists_pointsAt_of_mem_failuresOf {sources : List Source} {failure : Failure}
    (h : failure ∈ failuresOf headings sources) (noColor : Bool) :
    ∃ source block, block ∈ Block.ofSource headings source.text ∧
      (∀ g : Graph, g.compileBlock failure.file block = .error failure) ∧
      failure.line ∈ block.lines ∧
      (reportOf noColor sources failure).PointsAt source failure.line ∧
      (reportOf noColor sources failure).diagnostic.message = failure.cause.message := by
  obtain ⟨⟨file, block⟩, hblock, hfailure⟩ := List.mem_filterMap.1 h
  obtain ⟨⟨text, file'⟩, htext, hblock⟩ := List.mem_flatMap.1 hblock
  obtain ⟨block', hmem, heq⟩ := List.mem_map.1 hblock
  obtain ⟨rfl, rfl⟩ := Prod.mk.inj heq
  have hfails : ∀ g : Graph, g.compileBlock file' block' = .error failure := fun g =>
    Graph.compileBlock_eq_error_iff.2 hfailure
  obtain ⟨rfl, hfault⟩ := Graph.head?_faults_of_compileBlock (hfails .empty)
  have hline := (Block.blames_of_mem_faults (List.mem_of_mem_head? hfault)).line_mem
  have htext := List.mk_mem_zipIdx_iff_getElem?.1 htext
  rw [List.getElem?_map] at htext
  obtain ⟨source, hsource, rfl⟩ := Option.map_eq_some_iff.1 htext
  exact ⟨source, block', hmem, hfails, hline,
    ⟨failure.file, rfl, hsource, Block.standsIn_of_mem_ofSource hmem hline⟩, rfl⟩

/-! ## What is reported -/

section Compile

variable {options : CompileOptions}

/-- When all files are read, their failures are reported, and decide about the exit code. -/
theorem reports_compile_of_read (headings : Text → List Nat) (noColor : Bool)
    (hkeep : options.keepGoing = true) (hread : unread? files options.files = none) :
    let sources := sourcesRead files options.files
    let failures := failuresOf headings sources
    let outcome := compile headings files noColor options
    outcome.reports = failures.map (reportOf noColor sources) ∧
      (outcome.code = 0 ↔ failures = []) := by
  intro sources failures outcome
  obtain ⟨p, hp⟩ : ∃ p, (compileFiles headings files true .start options.files).1 = p := ⟨_, rfl⟩
  have hsources : p.sources = sources := hp ▸ sources_compileFiles .start options.files
  have hfailures : p.failures = failures := hp ▸ failures_compileFiles headings files options.files
  have hcompiled : compileFiles headings files true .start options.files = (p, none) :=
    Prod.ext hp (by rw [compileFiles_eq, hread])
  simp only [outcome, compile, hkeep, hcompiled, hsources, hfailures, Outcome.reports]
  rw [List.filterMap_append, List.filterMap_append, Message.filterMap_report?_event,
    Message.filterMap_report?_report, List.nil_append]
  refine ⟨?_, ?_⟩
  · split
    · exact List.append_nil _
    · exact List.append_nil _
  · cases failures <;> simp

/-- When a file cannot be read, nothing is reported. -/
theorem reports_compile_of_unread (headings : Text → List Nat) (noColor : Bool)
    {unread : Text × ReadError} (hkeep : options.keepGoing = true)
    (hread : unread? files options.files = some unread) :
    (compile headings files noColor options).reports = [] ∧
      (compile headings files noColor options).code = 1 := by
  rw [compile, hkeep, compileFiles_eq, hread]
  refine ⟨?_, rfl⟩
  dsimp only [Outcome.reports]
  rw [List.filterMap_append, Message.filterMap_report?_event]
  rfl

end Compile

/-- The log is opened in front of what a command writes. -/
theorem run_compile {readers : Readers} {arguments : List Text} {options : CompileOptions}
    {noColor verbose : Bool}
    (harguments : readers.arguments (CommandLine.insertCompile arguments) =
      .run ⟨.compile options, noColor, verbose⟩) (files : Files) (environment : Option Text) :
    (run readers files environment arguments).code =
        (compile readers.headings files noColor options).code ∧
      (run readers files environment arguments).reports =
        (compile readers.headings files noColor options).reports := by
  rw [run, harguments]
  exact ⟨rfl, rfl⟩

/-- A run that keeps going reports the failures of the files that it reads, one by one and in order,
exactly if it can read all files or nothing fails; otherwise it reports nothing. Each report points
at the line at fault, of a block that fails in every graph, and has colours if that is asked for.
The exit code is zero exactly if all files are read and nothing fails. All of this holds for all
readers, and whatever the filter of the log is. -/
theorem reports_eq_iff_of_run {readers : Readers} {arguments : List Text}
    {options : CompileOptions} {noColor verbose : Bool}
    (harguments : readers.arguments (CommandLine.insertCompile arguments) =
      .run ⟨.compile options, noColor, verbose⟩)
    (hkeep : options.keepGoing = true) (files : Files) (environment : Option Text) :
    let outcome := run readers files environment arguments
    let sources := sourcesRead files options.files
    let failures := failuresOf readers.headings sources
    let readable := ∀ path ∈ options.files, ∃ text, files.read path = .ok text
    (outcome.reports = failures.map (reportOf noColor sources) ↔ readable ∨ failures = []) ∧
    (¬readable → outcome.reports = []) ∧
    (∀ failure ∈ failures, ∃ source block, block ∈ Block.ofSource readers.headings source.text ∧
      (∀ g : Graph, g.compileBlock failure.file block = .error failure) ∧
      failure.line ∈ block.lines ∧
      (reportOf noColor sources failure).PointsAt source failure.line ∧
      (reportOf noColor sources failure).diagnostic.message = failure.cause.message) ∧
    (outcome.code = 0 ↔ readable ∧ failures = []) := by
  intro outcome sources failures readable
  obtain ⟨hcode, hreports⟩ : outcome.code = _ ∧ outcome.reports = _ :=
    run_compile harguments files environment
  have hpoints : ∀ failure ∈ failures, _ := fun failure hfailure =>
    exists_pointsAt_of_mem_failuresOf hfailure noColor
  rw [hcode, hreports]
  -- Whether all files are read decides what ends standard error.
  cases hread : unread? files options.files with
  | none =>
    have hreadable : readable := unread?_eq_none_iff.1 hread
    obtain ⟨hall, hzero⟩ := reports_compile_of_read readers.headings noColor hkeep hread
    exact ⟨iff_of_true hall (Or.inl hreadable), absurd hreadable, hpoints,
      hzero.trans (and_iff_right hreadable).symm⟩
  | some unread =>
    have hreadable : ¬readable := fun h => by simp [unread?_eq_none_iff.2 h] at hread
    obtain ⟨hnone, hone⟩ := reports_compile_of_unread readers.headings noColor hkeep hread
    refine ⟨?_, fun _ => hnone, hpoints, iff_of_false (by simp [hone]) fun h => hreadable h.1⟩
    rw [hnone, or_iff_right hreadable, eq_comm, List.map_eq_nil_iff]

/-- Two files with a failing block each, both of which are reported. -/
theorem reports_eq_iff_of_run_two_files :
    let files : Files := fun path =>
      .ok (.file (if path = "a".toList then ⟨#[35, 32, 64, 32]⟩ else ⟨#[120, 10, 35, 32, 64, 32]⟩))
    let sources := sourcesRead files ["a", "b"]
    let outcome := run Readers.standard files (some "off") ["compile", "--keep-going", "a", "b"]
    outcome.reports =
      [⟨.auto, sources, ⟨"header has no prompt", [⟨0, 0, 4⟩]⟩⟩,
        ⟨.auto, sources, ⟨"header has no prompt", [⟨1, 2, 6⟩]⟩⟩] ∧
    outcome.code ≠ 0 := by
  intro files sources outcome
  have hreadable : ∀ path ∈ ["a".toList, "b".toList], ∃ text, files.read path = .ok text := by
    intro path hpath
    rcases List.mem_pair.1 hpath with rfl | rfl
    · exact ⟨"# @ ", by decide +kernel⟩
    · exact ⟨"x\n# @ ", by decide +kernel⟩
  let options : CompileOptions := ⟨["a", "b"], true, false, false, false⟩
  have harguments : Readers.standard.arguments
      (CommandLine.insertCompile ["compile", "--keep-going", "a", "b"]) =
        .run ⟨.compile options, false, false⟩ := by
    decide +kernel
  obtain ⟨hreports, -, -, hzero⟩ := reports_eq_iff_of_run harguments rfl files (some "off")
  have hfailures : (failuresOf Markdown.headingStarts sources).map (reportOf false sources) =
      [⟨.auto, sources, ⟨"header has no prompt", [⟨0, 0, 4⟩]⟩⟩,
        ⟨.auto, sources, ⟨"header has no prompt", [⟨1, 2, 6⟩]⟩⟩] := by
    decide +kernel
  refine ⟨(hreports.2 (Or.inl hreadable)).trans hfailures, fun h => ?_⟩
  have hnil : failuresOf Markdown.headingStarts sources = [] := (hzero.1 h).2
  rw [hnil] at hfailures
  cases hfailures

/-- The failure in a file goes unreported when the next file cannot be read. -/
theorem reports_ne_of_unread_file :
    let files : Files := fun path =>
      if path = "a".toList then .ok (.file ⟨#[35, 32, 64, 32]⟩) else .error .notFound
    let outcome := run Readers.standard files (some "off") ["compile", "--keep-going", "a", "b"]
    failuresOf Markdown.headingStarts (sourcesRead files ["a", "b"]) =
      [⟨⟨.missingPrompt, ⟨"# @ ", 0⟩⟩, 0⟩] ∧
    outcome.reports = [] ∧
    outcome.errors = [.openLog "off", .event (.file "a"),
      .event (.skippedBlock "a" ⟨⟨.missingPrompt, ⟨"# @ ", 0⟩⟩, 0⟩),
      .line "error: cannot read 'b': No such file or directory (os error 2)"] := by
  decide +kernel

end Session

end StudyGraph
