import StudyGraph.Proofs.Conventions
import StudyGraph.Readers

/-!
# The command that goes without saying

Files are compiled also where the command is left out, since `compile` is put in front of the first
word (`CommandLine.insertCompile_append`). Flags in front of that word then stand in front of the
command. Where arguments are read by the conventions, only flags of the program are accepted there,
and behind the command all flags are. So a run is the same with the command left out exactly if all
flags are of the program (`Session.run_append_eq_iff`).
-/

namespace StudyGraph

namespace CommandLine

variable {arguments names : List Text} {flags : List Flag}

/-- `compile` is put behind the flags. -/
theorem insertCompile_append (h : List.Forall₂ Spells arguments flags) {name : Text}
    (hname : IsFile name) (names : List Text) : insertCompile (arguments ++ name :: names) =
      arguments ++ "compile".toList :: name :: names := by
  induction h with
  | nil => rw [List.nil_append, List.nil_append, insertCompile, if_neg hname.1, if_neg hname.2]
  | cons hspells _ ih =>
    rw [List.cons_append, List.cons_append, insertCompile, if_pos (head?_of_spells hspells), ih]

/-- Flags that files follow come to stand in front of the command. -/
theorem compileLine_append (h : List.Forall₂ Spells arguments flags) (hne : names ≠ [])
    (hnames : ∀ name ∈ names, IsFile name) :
    CompileLine (insertCompile (arguments ++ names)) flags [] names := by
  refine ⟨arguments, [], h, .nil, ?_, hne, hnames⟩
  obtain ⟨name, names, rfl⟩ := List.exists_cons_of_ne_nil hne
  exact insertCompile_append h (hnames name List.mem_cons_self) names

/-- Behind the command, flags stay where they are. -/
theorem compileLine_cons (h : List.Forall₂ Spells arguments flags) (hne : names ≠ [])
    (hnames : ∀ name ∈ names, IsFile name) :
    CompileLine (insertCompile ("compile".toList :: (arguments ++ names))) [] flags names :=
  ⟨[], arguments, .nil, h, rfl, hne, hnames⟩

end CommandLine

namespace Session

open CommandLine

variable {readers : Readers} {files : Files} {environment : Option Text}
  {arguments names : List Text} {flags : List Flag}

/-- Arguments that are not accepted end with the exit code 2. -/
theorem code_run_of_rejected (hreaders : Conventional readers.arguments)
    (h : ∃ code errors, readers.arguments (insertCompile arguments) = .rejected code errors) :
    (run readers files environment arguments).code = 2 := by
  obtain ⟨code, errors, hread⟩ := h
  rw [run, hread]
  exact hreaders.code hread

theorem code_compile_le (headings : Text → List Nat) (files : Files) (noColor : Bool)
    (options : CompileOptions) : (compile headings files noColor options).code ≤ 1 := by
  unfold compile
  split
  · exact Nat.le_refl 1
  · dsimp only
    split
    · exact Nat.le_refl 1
    · exact Nat.zero_le 1

/-- Files that are compiled never end with the exit code for arguments that are not accepted. -/
theorem code_run_of_run
    (h : readers.arguments (insertCompile arguments) = .run (invocationOf flags names)) :
    (run readers files environment arguments).code ≠ 2 := by
  rw [run, h]
  exact Nat.ne_of_lt (Nat.lt_succ_of_le (code_compile_le _ files _ _))

/-- Flags that are given once are accepted behind the command, and where it is left out exactly if
all of them are of the program; then the runs are the same. -/
theorem run_append_of_nodup (hreaders : Conventional readers.arguments)
    (h : List.Forall₂ Spells arguments flags) (hne : names ≠ [])
    (hnames : ∀ name ∈ names, IsFile name) (hnodup : flags.Nodup) :
    let bare := run readers files environment (arguments ++ names)
    let named := run readers files environment ("compile".toList :: (arguments ++ names))
    (bare = named ↔ ∀ flag ∈ flags, flag ∈ programFlags) ∧
    (bare.code = 2 ↔ ∃ flag ∈ flags, flag ∉ programFlags) ∧
    named.code ≠ 2 := by
  intro bare named
  have hbare := compileLine_append h hne hnames
  have hrun := hreaders.accepts (compileLine_cons h hne hnames) (by simp) hnodup
  have hnamed : named.code ≠ 2 := code_run_of_run hrun
  by_cases hprogram : ∀ flag ∈ flags, flag ∈ programFlags
  · have hsame := hreaders.accepts hbare hprogram (by rwa [List.append_nil])
    rw [List.append_nil] at hsame
    have heq : bare = named := by
      simp only [bare, named, run, hsame, hrun, List.nil_append]
    have hnone : ¬∃ flag ∈ flags, flag ∉ programFlags := by simpa using hprogram
    exact ⟨iff_of_true heq hprogram, iff_of_false (heq ▸ hnamed) hnone, hnamed⟩
  · have hforeign : ∃ flag ∈ flags, flag ∉ programFlags := by simpa using hprogram
    have hrefused : bare.code = 2 :=
      code_run_of_rejected hreaders (hreaders.refuses hbare hforeign)
    have hdiffer : bare ≠ named := fun heq => hnamed (heq ▸ hrefused)
    exact ⟨iff_of_false hdiffer hprogram, iff_of_true hrefused hforeign, hnamed⟩

/-- Where arguments are read by the conventions, files with flags in front of them are compiled as
they are behind the command exactly if all of the flags are of the program. Any other flag is
refused in front of the files, where the command is left out, and accepted behind the command. A
flag that is given twice is refused in either place, if the reader refuses repeats. -/
theorem run_append_eq_iff (hreaders : Conventional readers.arguments)
    (h : List.Forall₂ Spells arguments flags) (hne : names ≠ [])
    (hnames : ∀ name ∈ names, IsFile name) (files : Files) (environment : Option Text) :
    let bare := run readers files environment (arguments ++ names)
    let named := run readers files environment ("compile".toList :: (arguments ++ names))
    (flags.Nodup →
      (bare = named ↔ ∀ flag ∈ flags, flag ∈ programFlags) ∧
      (bare.code = 2 ↔ ∃ flag ∈ flags, flag ∉ programFlags) ∧
      named.code ≠ 2) ∧
    (RefusesRepeats readers.arguments → ¬flags.Nodup → bare.code = 2 ∧ named.code = 2) := by
  intro bare named
  refine ⟨run_append_of_nodup hreaders h hne hnames, fun hrepeats htwice => ?_⟩
  have hbare := hrepeats (compileLine_append h hne hnames) (Or.inl htwice)
  have hnamed := hrepeats (compileLine_cons h hne hnames) (Or.inr htwice)
  exact ⟨code_run_of_rejected hreaders hbare, code_run_of_rejected hreaders hnamed⟩

/-- Flags of the program in front of a file are read as behind the command; with a flag of the
command beside them, or given twice, they are refused. -/
theorem run_append_eq_iff_with_check :
    let run := run Readers.standard (fun _ => .error .notFound) none
    run ["-v", "--no-color", "a.md"] = run ["compile", "-v", "--no-color", "a.md"] ∧
      (run ["-v", "--check", "a.md"]).code = 2 ∧
      (run ["compile", "-v", "--check", "a.md"]).code ≠ 2 ∧
      (run ["-v", "--verbose", "a.md"]).code = 2 := by
  intro run
  have hletter : Spells "-v".toList .verbose := ⟨by decide, .inr ⟨'v', rfl, rfl⟩⟩
  have hcolor : List.Forall₂ Spells ["-v".toList, "--no-color".toList] [.verbose, .noColor] :=
    .cons hletter (.cons ⟨by decide, .inl rfl⟩ .nil)
  have hcheck : List.Forall₂ Spells ["-v".toList, "--check".toList] [.verbose, .check] :=
    .cons hletter (.cons ⟨by decide, .inl rfl⟩ .nil)
  have htwice : List.Forall₂ Spells ["-v".toList, "--verbose".toList] [.verbose, .verbose] :=
    .cons hletter (.cons ⟨by decide, .inl rfl⟩ .nil)
  have hnames : ∀ name ∈ ["a.md".toList], IsFile name := by
    simp only [IsFile]
    decide
  have hreaders : Conventional Readers.standard.arguments := Arguments.conventional_read
  let files : Files := fun _ => .error .notFound
  have hequal := (run_append_eq_iff hreaders hcolor (by simp) hnames files none).1 (by decide)
  have hdiffer := (run_append_eq_iff hreaders hcheck (by simp) hnames files none).1 (by decide)
  have hrefused := (run_append_eq_iff hreaders htwice (by simp) hnames files none).2
    Arguments.refusesRepeats_read (by decide)
  exact ⟨hequal.1.2 (by decide), hdiffer.2.1.2 ⟨.check, by decide, by decide⟩, hdiffer.2.2,
    hrefused.1⟩

/-- A flag of the command in front of a file is refused, and behind the command it is not. -/
theorem run_ne_of_keepGoing :
    let files : Files := fun path =>
      if path = "a.md".toList then .ok (.file ⟨#[35, 32, 64, 32, 97, 32, 64, 32, 98, 10]⟩)
      else .error .notFound
    let run := run Readers.standard files (some "off")
    (run ["--keep-going", "a.md"]).code = 2 ∧
      (run ["compile", "--keep-going", "a.md"]).code = 0 ∧
      (run ["compile", "--keep-going", "a.md"]).output =
        ["nodes: 3 (3 cards, 0 clozes, 0 matches)", "edges: 4 from 3 parent(s)"] := by
  decide +kernel

end Session

end StudyGraph
