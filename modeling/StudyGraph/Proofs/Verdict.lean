import StudyGraph.Proofs.Discovery
import StudyGraph.Proofs.Expectation
import StudyGraph.Proofs.Run
import StudyGraph.Proofs.Selection
import StudyGraph.Readers

/-!
# The verdict on fixtures

A file passes if it can be read as a fixture and compiling its text comes to what is expected
(`Session.Passes`), and this is when its result has no reason to fail
(`Session.reason_eq_none_iff`). The results of a run are those of the files of the selected
categories, one by one (`Session.map_path_resultsOf`), and its exit code is that all of them passed
and some category was selected (`Session.code_outcomeOf_iff`). `Session.verdict_exact` says this of
a folder, whose files stand in one category each.
-/

namespace StudyGraph

namespace Categories

variable {all : Categories} {requests : List Text}

/-- The requests select a category : without requests all are, and otherwise those that some request
stands for. -/
def Selects (requests : List Text) (category : Text) : Prop :=
  requests = [] ∨ ∃ request ∈ requests, StandsFor request category

instance (requests : List Text) (category : Text) : Decidable (Selects requests category) :=
  inferInstanceAs (Decidable (_ ∨ ∃ request ∈ requests, _))

theorem selected_select (all : Categories) (requests : List Text) :
    (all.select requests).selected = all.filter fun category => Selects requests category := by
  cases requests with
  | nil => exact (SortedMap.filter_eq_self fun _ _ => by simp [Selects]).symm
  | cons request requests =>
    rw [selected_select_of_ne_nil (List.cons_ne_nil request requests)]
    exact SortedMap.ext_mem fun e => by
      simp only [mem_entries_requested, SortedMap.mem_entries_filter, Selects, reduceCtorEq,
        false_or, decide_eq_true_eq]

end Categories

namespace Session

variable {readers : Readers} {files : Files} {noColor : Bool} {selected : Categories}

/-! ## Results -/

/-- The file can be read as a fixture, and its text comes to what is expected. -/
def Passes (readers : Readers) (files : Files) (path : Text) : Prop :=
  ∃ content fixture, files.read path = .ok content ∧
    Fixture.read readers.settings content = .ok fixture ∧
    fixture.expectations.MetBy (compileText readers.headings fixture.source)

theorem fixture_check_eq_none_iff {headings : Text → List Nat} {fixture : Fixture} :
    fixture.check headings = none ↔
      fixture.expectations.MetBy (compileText headings fixture.source) :=
  Expectations.check_eq_none_iff fun _ => wellFormed_of_compileText

/-- The result of a file has no reason to fail exactly if the file passes. -/
theorem reason_eq_none_iff {path : Text} :
    (runFixture readers path (files.read path)).reason = none ↔ Passes readers files path := by
  unfold runFixture Passes
  cases files.read path with
  | error e => simp
  | ok content =>
    cases hread : Fixture.read readers.settings content with
    | error e => simp [hread]
    | ok fixture => simp [hread, fixture_check_eq_none_iff]

theorem exitCode_eq_zero_iff {results : List Result} :
    exitCode results = 0 ↔ ∀ r ∈ results, r.reason = none := by
  simp [exitCode]

theorem path_runFixture (readers : Readers) (path : Text) (content : Except ReadError Text) :
    (runFixture readers path content).path = path := by
  unfold runFixture
  split
  · rfl
  · split <;> rfl

/-- The files of the selected categories are run one by one. -/
theorem map_path_resultsOf (readers : Readers) (files : Files) (selected : Categories) :
    ((resultsOf readers files selected).flatMap Prod.snd).map Result.path =
      selected.entries.flatMap Prod.snd := by
  rw [resultsOf, List.flatMap_map, List.map_flatMap]
  refine congrArg (List.flatMap · selected.entries) (funext fun e => ?_)
  rw [List.map_map]
  exact (List.map_congr_left fun path _ => path_runFixture readers path _).trans (List.map_id _)

theorem mem_resultsOf_iff {r : Result} : r ∈ (resultsOf readers files selected).flatMap Prod.snd ↔
    ∃ e ∈ selected.entries, ∃ path ∈ e.2, runFixture readers path (files.read path) = r := by
  simp [resultsOf]

/-- The exit code says that a category was selected and that all of its files pass. -/
theorem code_outcomeOf_iff : (outcomeOf readers files noColor selected).code = 0 ↔
    selected.entries ≠ [] ∧ ∀ e ∈ selected.entries, ∀ path ∈ e.2, Passes readers files path := by
  unfold outcomeOf
  split
  · next hempty =>
    have hnil : selected.entries = [] := List.isEmpty_iff.1 hempty
    simp [hnil]
  · next hempty =>
    have hne : selected.entries ≠ [] := fun hnil => hempty (List.isEmpty_iff.2 hnil)
    rw [exitCode_eq_zero_iff]
    simp only [mem_resultsOf_iff, ne_eq, hne, not_false_eq_true, true_and]
    constructor
    · intro h e he path hpath
      exact reason_eq_none_iff.1 (h _ ⟨e, he, path, hpath, rfl⟩)
    · rintro h _ ⟨e, he, path, hpath, rfl⟩
      exact reason_eq_none_iff.2 (h e he path hpath)

theorem errors_outcomeOf (h : selected.entries ≠ []) :
    (outcomeOf readers files noColor selected).errors =
      (resultsOf readers files selected).flatMap (fun e => categoryLines noColor e.1 e.2) ++
        reportLines noColor ((resultsOf readers files selected).flatMap Prod.snd) := by
  have hempty : ¬selected.isEmpty = true := fun hempty => h (List.isEmpty_iff.1 hempty)
  rw [outcomeOf, if_neg hempty]

/-! ## Folders -/

/-- What a run on a folder comes to is what its selected categories come to, with the warnings in
front. A folder without fixtures has no categories. -/
theorem test_folder_eq {options : TestOptions} {entries : List (Text × FileTree)}
    (hfolder : files options.path = .ok (.folder entries))
    (hlist : options.listCategories = false) :
    test readers files noColor options =
      if (discover options.path (.folder entries)).isEmpty then
        { code := 1, output := [], errors := [.line (nothingFound options.path)] }
      else testCategories readers files noColor (discover options.path (.folder entries))
        options.categories := by
  simp only [test, Files.isFile, hfolder, hlist, discoverAt]

/-- A fixture passes exactly if its expectations hold. The check of an outcome is silent exactly if
the outcome is as expected, and where it reports numbers, it names those that differ. A run on a
folder succeeds exactly if some category is selected and all files of the selected categories pass.
It runs each of these files once, however the requests overlap, and reports all results. This holds
for all readers. -/
theorem verdict_exact (readers : Readers) :
    (∀ (e : Expectations) (source : Text),
      let compiled := compileText readers.headings source
      (e.check compiled = none ↔ e.MetBy compiled) ∧
      ∀ differences, e.check compiled = some (.counts differences) →
        ∃ g, compiled = .ok g ∧ e.error = none ∧ differences ≠ [] ∧ e.Names g differences) ∧
    ∀ (files : Files) (noColor : Bool) (options : TestOptions)
      (entries : List (Text × FileTree)), files options.path = .ok (.folder entries) →
      FileTree.NamedEntries entries → options.listCategories = false →
      let all := discover options.path (.folder entries)
      let selected := all.filter fun category => Categories.Selects options.categories category
      let results := resultsOf readers files selected
      let ran := (results.flatMap Prod.snd).map Result.path
      let outcome := test readers files noColor options
      (outcome.code = 0 ↔ selected.entries ≠ [] ∧
        ∀ e ∈ selected.entries, ∀ path ∈ e.2, Passes readers files path) ∧
      (selected.entries ≠ [] → outcome.errors =
        (all.select options.categories).missed.map
            (fun request => .line (all.missedWarning request)) ++
          (results.flatMap (fun e => categoryLines noColor e.1 e.2) ++
            reportLines noColor (results.flatMap Prod.snd))) ∧
      (∀ r ∈ results.flatMap Prod.snd, r = runFixture readers r.path (files.read r.path)) ∧
      ran.Nodup ∧ ∀ path, path ∈ ran ↔ ∃ e ∈ selected.entries, path ∈ e.2 := by
  refine ⟨fun e source => ⟨Expectations.check_eq_none_iff fun _ => wellFormed_of_compileText,
    fun differences => Expectations.names_of_check fun _ => wellFormed_of_compileText⟩, ?_⟩
  intro files noColor options entries hfolder hnamed hlist all selected results ran outcome
  have hran : ran = selected.entries.flatMap Prod.snd := map_path_resultsOf readers files selected
  have houtcome : outcome = if all.isEmpty then
        { code := 1, output := [], errors := [.line (nothingFound options.path)] }
      else testCategories readers files noColor all options.categories :=
    test_folder_eq hfolder hlist
  have hsome : selected.entries ≠ [] → ¬all.isEmpty = true := by
    intro hne hempty
    have hnil : all.entries = [] := List.isEmpty_iff.1 hempty
    exact hne (by simp only [selected, SortedMap.filter, hnil, List.filter_nil])
  rw [testCategories_eq, Categories.selected_select] at houtcome
  refine ⟨?_, fun hne => ?_, fun r hr => ?_, ?_, fun path => ?_⟩
  · rw [houtcome]
    split
    · next hempty => exact iff_of_false Nat.one_ne_zero fun h => hsome h.1 hempty
    · exact code_outcomeOf_iff
  · rw [houtcome, if_neg (hsome hne), ← errors_outcomeOf hne]
  · obtain ⟨e, -, path, -, rfl⟩ := mem_resultsOf_iff.1 hr
    rw [path_runFixture]
  · rw [hran]
    have hsublist : selected.entries.Sublist all.entries := List.filter_sublist
    have htree : (FileTree.folder entries).Named := by rwa [FileTree.Named]
    exact (nodup_discover options.path htree).sublist (hsublist.flatMap _)
  · rw [hran, List.mem_flatMap]

/-- Two requests for one category, beside a category whose name is longer and whose fixture would
fail. -/
theorem verdict_exact_of_overlapping_requests :
    let content := "---\nexpect_nodes = 3\nexpect_edge_parents = 3\n---\n# @ a @ b\n"
    let entries : List (Text × FileTree) :=
      [("a", .folder [("x.test.md", .file content.toByteArray)]),
        ("ab", .folder [("y.test.md", .file "".toByteArray)])]
    let files : Files := fun path =>
      if path = "t".toList then .ok (.folder entries) else .ok (.file content.toByteArray)
    let options : TestOptions := ⟨"t", ["a", "a/"], false⟩
    let selected := (discover options.path (.folder entries)).filter fun category =>
      Categories.Selects options.categories category
    let ran := ((resultsOf Readers.standard files selected).flatMap Prod.snd).map Result.path
    selected.entries = [("a".toList, ["t/a/x.test.md".toList])] ∧
    (test Readers.standard files true options).code = 0 ∧
    ran.Nodup ∧ "t/a/x.test.md".toList ∈ ran := by
  intro content entries files options selected ran
  have hnamed : FileTree.NamedEntries entries := by
    simp [entries, FileTree.NamedEntries, FileTree.Named]
  have hselected : selected.entries = [("a".toList, ["t/a/x.test.md".toList])] := by
    decide +kernel
  have hread : files.read "t/a/x.test.md" = .ok content.toList := by
    simp [files, Files.read, bind, Except.bind, FileTree.read_file_toByteArray]
  let fixture : Fixture := ⟨{ nodes := some 3, edgeParents := some 3 }, "# @ a @ b\n"⟩
  have hcheck : fixture.check Markdown.headingStarts = none := by decide +kernel
  have hpasses : Passes Readers.standard files "t/a/x.test.md" :=
    ⟨content.toList, fixture, hread, by decide +kernel, fixture_check_eq_none_iff.1 hcheck⟩
  obtain ⟨hcode, -, -, hnodup, hmem⟩ :=
    (verdict_exact Readers.standard).2 files true options entries rfl hnamed rfl
  refine ⟨hselected, hcode.2 ?_, hnodup, (hmem _).2 ?_⟩
  · rw [hselected]
    simpa using hpasses
  · rw [hselected]
    simp

end Session

end StudyGraph
