import Mathlib.Data.List.Forall2
import Mathlib.Data.List.Nodup
import StudyGraph.Readers.Arguments

/-!
# Conventions of command lines

What is relied on where arguments with the command to compile are read (`CommandLine.Conventional`):
flags of the program are accepted on either side of the command, flags of the command behind it
alone, and what is not accepted ends with the exit code 2. Of a flag that is given twice nothing is
said by that; it is refused as well where that is relied on too (`CommandLine.RefusesRepeats`).

`Arguments.read` keeps to both (`Arguments.conventional_read`, `Arguments.refusesRepeats_read`). A
spelled flag is noted if the level knows it and has not seen it (`Arguments.readLevel_cons`), so
flags are read if the level knows them all and none is given twice (`Arguments.readLevel_append`).
-/

namespace StudyGraph

namespace CommandLine

/-- The flags that tell how to compile files, those of the program included. -/
def runFlags : List Flag := [.noColor, .verbose, .keepGoing, .dump, .check, .raws]

/-- The argument is a spelling of a flag that tells how to compile files : its name behind two
hyphens, or its letter behind one. -/
def Spells (argument : Text) (flag : Flag) : Prop :=
  flag ∈ runFlags ∧ (argument = '-' :: '-' :: flag.long ∨
    ∃ letter, flag.letter? = some letter ∧ argument = ['-', letter])

/-- The argument can only be a file. -/
def IsFile (name : Text) : Prop :=
  name.head? ≠ some '-' ∧ name ∉ commandNames

/-- The run that flags ask for, wherever they stand. -/
def invocationOf (flags : List Flag) (names : List Text) : Invocation where
  command := .compile
    { files := names
      keepGoing := .keepGoing ∈ flags
      dump := .dump ∈ flags
      check := .check ∈ flags
      raws := .raws ∈ flags }
  noColor := .noColor ∈ flags
  verbose := .verbose ∈ flags

/-- The arguments have the command to compile, with flags in front of it and behind it, and then
files. -/
def CompileLine (arguments : List Text) (program command : List Flag) (names : List Text) : Prop :=
  ∃ front back, List.Forall₂ Spells front program ∧ List.Forall₂ Spells back command ∧
    arguments = front ++ "compile".toList :: (back ++ names) ∧
    names ≠ [] ∧ ∀ name ∈ names, IsFile name

/-- What is relied on of a reader of arguments. -/
structure Conventional (read : List Text → Reading) : Prop where
  /-- Flags of the program are accepted on either side of the command, and flags of the command
  behind it. -/
  accepts {arguments names : List Text} {program command : List Flag} :
    CompileLine arguments program command names → (∀ flag ∈ program, flag ∈ programFlags) →
      (program ++ command).Nodup → read arguments = .run (invocationOf (program ++ command) names)
  /-- Flags of the command are not accepted in front of it. -/
  refuses {arguments names : List Text} {program command : List Flag} :
    CompileLine arguments program command names → (∃ flag ∈ program, flag ∉ programFlags) →
      ∃ code errors, read arguments = .rejected code errors
  /-- What is not accepted ends with the exit code 2. -/
  code {arguments errors : List Text} {code : Nat} :
    read arguments = .rejected code errors → code = 2

/-- No flag is accepted twice on one side of the command. -/
def RefusesRepeats (read : List Text → Reading) : Prop :=
  ∀ {arguments names : List Text} {program command : List Flag},
    CompileLine arguments program command names → ¬program.Nodup ∨ ¬command.Nodup →
      ∃ code errors, read arguments = .rejected code errors

theorem head?_of_spells {argument : Text} {flag : Flag} (h : Spells argument flag) :
    argument.head? = some '-' := by
  rcases h.2 with rfl | ⟨letter, -, rfl⟩ <;> rfl

theorem mem_runFlags_of_spells {arguments : List Text} {flags : List Flag}
    (h : List.Forall₂ Spells arguments flags) : ∀ flag ∈ flags, flag ∈ runFlags := by
  induction h with
  | nil => simp
  | cons hspells _ ih => exact List.forall_mem_cons.2 ⟨hspells.1, ih⟩

end CommandLine

namespace Arguments

open CommandLine

variable {argument : Text} {arguments names errors : List Text} {flag : Flag}
  {flags known : List Flag} {level program : Level} {room : Option Nat} {stops : Bool} {code : Nat}

/-! ## Levels -/

/-- A spelled flag is read exactly where it is known. -/
theorem flagArgument_of_spells (h : Spells argument flag)
    (hknown : known = programFlags ∨ known = compileFlags) :
    argument ≠ ['-', '-'] ∧ isFlag argument = true ∧ flagArgument known argument =
      if flag ∈ known then ([flag], .nothing) else ([], .unknown) := by
  obtain ⟨hflag, h⟩ := h
  have hletters : ∀ letter, flag.letter? = some letter →
      flag = .verbose ∧ letter = 'v' ∨ flag = .keepGoing ∧ letter = 'k' := by
    simp only [runFlags, List.mem_cons, List.not_mem_nil, or_false] at hflag
    rcases hflag with rfl | rfl | rfl | rfl | rfl | rfl <;> simp [Flag.letter?, eq_comm]
  rcases h with rfl | ⟨letter, hletter, rfl⟩
  · simp only [runFlags, List.mem_cons, List.not_mem_nil, or_false] at hflag
    rcases hknown with rfl | rfl <;> rcases hflag with rfl | rfl | rfl | rfl | rfl | rfl <;> decide
  · rcases hknown with rfl | rfl <;>
      rcases hletters letter hletter with ⟨rfl, rfl⟩ | ⟨rfl, rfl⟩ <;> decide

theorem addFlag_of_mem (hflag : flag ∈ runFlags) : level.addFlag flag =
    if flag ∈ level.flags then .error (repeated flag)
    else .ok { level with flags := level.flags ++ [flag] } := by
  simp only [runFlags, List.mem_cons, List.not_mem_nil, or_false] at hflag
  rcases hflag with rfl | rfl | rfl | rfl | rfl | rfl <;> rfl

/-- A spelled flag is noted if it is known and was not noted before. -/
theorem readLevel_cons (h : Spells argument flag)
    (hknown : known = programFlags ∨ known = compileFlags) (rest : List Text) :
    readLevel known room stops level (argument :: rest) =
      if flag ∈ known then
        if flag ∈ level.flags then .error (repeated flag)
        else readLevel known room stops { level with flags := level.flags ++ [flag] } rest
      else .error (unexpected argument) := by
  obtain ⟨hhyphens, hisFlag, hread⟩ := flagArgument_of_spells h hknown
  rw [readLevel, if_neg hhyphens, if_pos hisFlag, hread]
  by_cases hmem : flag ∈ known
  · rw [if_pos hmem, if_pos hmem]
    simp only [List.foldlM_cons, List.foldlM_nil, addFlag_of_mem h.1]
    by_cases htwice : flag ∈ level.flags
    · rw [if_pos htwice, if_pos htwice]
      rfl
    · rw [if_neg htwice, if_neg htwice]
      rfl
  · rw [if_neg hmem, if_neg hmem]
    rfl

/-- Flags are read if the level knows them all and none is given twice, and otherwise there is an
error. -/
theorem readLevel_append (h : List.Forall₂ Spells arguments flags)
    (hknown : known = programFlags ∨ known = compileFlags) (hlevel : level.flags.Nodup)
    (rest : List Text) :
    ((∀ flag ∈ flags, flag ∈ known) ∧ (level.flags ++ flags).Nodup →
      readLevel known room stops level (arguments ++ rest) =
        readLevel known room stops { level with flags := level.flags ++ flags } rest) ∧
    (¬((∀ flag ∈ flags, flag ∈ known) ∧ (level.flags ++ flags).Nodup) →
      ∃ message, readLevel known room stops level (arguments ++ rest) =
        .error (.error message)) := by
  induction h generalizing level with
  | nil => simp [hlevel]
  | @cons argument flag arguments flags hspells _ ih =>
    rw [List.cons_append, readLevel_cons hspells hknown]
    by_cases hmem : flag ∈ known
    · rw [if_pos hmem]
      by_cases htwice : flag ∈ level.flags
      · have hno : ¬(level.flags ++ flag :: flags).Nodup := fun hnodup =>
          List.disjoint_of_nodup_append hnodup htwice List.mem_cons_self
        rw [if_pos htwice]
        exact ⟨fun h => absurd h.2 hno, fun _ => ⟨_, rfl⟩⟩
      · have hnext : (level.flags ++ [flag]).Nodup :=
          List.nodup_append'.2 ⟨hlevel, List.nodup_singleton flag, by simpa using htwice⟩
        rw [if_neg htwice]
        simpa [hmem] using @ih { level with flags := level.flags ++ [flag] } hnext
    · rw [if_neg hmem]
      exact ⟨fun h => absurd (h.1 flag List.mem_cons_self) hmem, fun _ => ⟨_, rfl⟩⟩

/-- Behind the flags, files are words. -/
theorem readLevel_names (hnames : ∀ name ∈ names, IsFile name) :
    readLevel known none false level names =
      .ok ({ level with words := level.words ++ names }, []) := by
  induction names generalizing level with
  | nil => simp [readLevel]
  | cons name names ih =>
    obtain ⟨⟨hname, -⟩, hnames⟩ := List.forall_mem_cons.1 hnames
    have hflag : isFlag name = false := by
      unfold isFlag
      split
      · exact absurd rfl hname
      · rfl
    have hhyphens : name ≠ ['-', '-'] := by
      rintro rfl
      exact hname rfl
    rw [readLevel, if_neg hhyphens, hflag]
    exact (ih hnames).trans (by simp)

/-! ## Commands -/

/-- What is read behind the command decides, behind flags of the program that are read. -/
theorem read_append {front : List Text} {program : List Flag}
    (h : List.Forall₂ Spells front program) (hprogram : ∀ flag ∈ program, flag ∈ programFlags)
    (hnodup : program.Nodup) (rest : List Text) :
    read (front ++ "compile".toList :: rest) =
      readCommand ⟨program, [], ["compile".toList]⟩ "compile" rest := by
  have hfront : readLevel programFlags (some 1) true .empty (front ++ "compile".toList :: rest) =
      .ok (⟨program, [], ["compile".toList]⟩, rest) :=
    (readLevel_append h (.inl rfl) List.nodup_nil _).1 ⟨hprogram, hnodup⟩
  rw [read, hfront]

/-- Flags in front of the command are an error if one is not of the program or is given twice. -/
theorem exists_read_eq_rejected {front : List Text} {program : List Flag}
    (h : List.Forall₂ Spells front program)
    (hprogram : ¬((∀ flag ∈ program, flag ∈ programFlags) ∧ program.Nodup)) (rest : List Text) :
    ∃ code errors, read (front ++ "compile".toList :: rest) = .rejected code errors := by
  obtain ⟨message, hfront⟩ : ∃ message, readLevel programFlags (some 1) true .empty
      (front ++ "compile".toList :: rest) = .error (.error message) :=
    (readLevel_append h (.inl rfl) List.nodup_nil _).2 hprogram
  rw [read, hfront]
  exact ⟨_, _, rfl⟩

/-- Flags of the program in front of the command ask for the same as behind it. -/
theorem readCompile_eq {program command : List Flag} {words : List Text}
    (hprogram : ∀ flag ∈ program, flag ∈ programFlags) (hne : names ≠ []) :
    readCompile ⟨program, [], words⟩ ⟨command, [], names⟩ =
      .run (invocationOf (program ++ command) names) := by
  have hnone : ∀ flag, flag ∉ programFlags → flag ∉ program := fun flag hflag hmem =>
    hflag (hprogram flag hmem)
  have hnames : ¬names.isEmpty = true := by simpa using hne
  simp [readCompile, hnames, runWith, invocationOf, hnone .keepGoing (by decide),
    hnone .dump (by decide), hnone .check (by decide), hnone .raws (by decide)]

/-! ## Exit codes -/

theorem Stop.code_of_reading {page : Page} {stop : Stop}
    (h : stop.reading page = .rejected code errors) : code = 2 := by
  cases stop with
  | help => cases h
  | version => cases h
  | error message =>
    cases h
    rfl

theorem code_of_readCompile (h : readCompile program level = .rejected code errors) :
    code = 2 := by
  unfold readCompile at h
  split at h
  · cases h
    rfl
  · cases h

theorem code_of_readTest (h : readTest program level = .rejected code errors) : code = 2 := by
  unfold readTest at h
  split at h
  · cases h
  · cases h
    rfl

theorem code_of_readHelp (h : readHelp arguments = .rejected code errors) : code = 2 := by
  unfold readHelp at h
  split at h
  · cases h
  · split at h
    · cases h
    · cases h
      rfl
  · cases h
    rfl

theorem code_of_readCommand {name : Text}
    (h : readCommand program name arguments = .rejected code errors) : code = 2 := by
  unfold readCommand at h
  split at h
  · split at h
    · exact Stop.code_of_reading h
    · exact code_of_readCompile h
  · split at h
    · split at h
      · exact Stop.code_of_reading h
      · exact code_of_readTest h
    · split at h
      · exact code_of_readHelp h
      · cases h
        rfl

theorem code_of_read (h : read arguments = .rejected code errors) : code = 2 := by
  unfold read at h
  split at h
  · exact Stop.code_of_reading h
  · split at h
    · cases h
      rfl
    · exact code_of_readCommand h

/-! ## The conventions -/

/-- Arguments that are read by levels keep the conventions. -/
theorem conventional_read : Conventional read where
  accepts := by
    rintro _ names program command ⟨front, back, hfront, hback, rfl, hne, hnames⟩ hprogram hnodup
    obtain ⟨hprogramNodup, hcommandNodup, -⟩ := List.nodup_append'.1 hnodup
    have hsubset : ∀ flag ∈ runFlags, flag ∈ compileFlags := by decide
    have hcommand : ∀ flag ∈ command, flag ∈ compileFlags := fun flag hflag =>
      hsubset flag (mem_runFlags_of_spells hback flag hflag)
    have hlevel : readLevel compileFlags none false .empty (back ++ names) =
        readLevel compileFlags none false ⟨command, [], []⟩ names :=
      (readLevel_append hback (.inr rfl) List.nodup_nil _).1 ⟨hcommand, hcommandNodup⟩
    rw [read_append hfront hprogram hprogramNodup, readCommand, if_pos rfl, hlevel,
      readLevel_names hnames]
    exact readCompile_eq hprogram hne
  refuses := by
    rintro _ names program command ⟨front, back, hfront, -, rfl, -⟩ ⟨flag, hflag, hforeign⟩
    exact exists_read_eq_rejected hfront (fun h => hforeign (h.1 flag hflag)) _
  code := code_of_read

theorem refusesRepeats_read : RefusesRepeats read := by
  rintro _ names program command ⟨front, back, hfront, hback, rfl, -⟩ htwice
  by_cases hprogram : (∀ flag ∈ program, flag ∈ programFlags) ∧ program.Nodup
  · have hcommand : ¬command.Nodup := htwice.resolve_left (not_not_intro hprogram.2)
    obtain ⟨message, hlevel⟩ : ∃ message, readLevel compileFlags none false .empty
        (back ++ names) = .error (.error message) :=
      (readLevel_append hback (.inr rfl) List.nodup_nil _).2 fun h => hcommand h.2
    rw [read_append hfront hprogram.1 hprogram.2, readCommand, if_pos rfl, hlevel]
    exact ⟨_, _, rfl⟩
  · exact exists_read_eq_rejected hfront hprogram _

end Arguments

end StudyGraph
