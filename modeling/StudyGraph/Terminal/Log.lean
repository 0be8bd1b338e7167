import StudyGraph.Event
import StudyGraph.Terminal.Pattern.Meaning

/-!
# The log

Which events are written, and how. `Log.Filter.ofText` reads which ones are wanted: directives
`target=level` between commas, of which the one with the longest target that leads the target of an
event decides about it, and behind a slash a pattern that the text of an event has to show.
`Event.entry` is what is written about an event.
-/

namespace StudyGraph

/-! ## Entries -/

/-- The place of a level: a higher one matters less. -/
def Level.rank : Level → Nat
  | error => 1
  | warn => 2
  | info => 3
  | debug => 4
  | trace => 5

/-- The word for a level. -/
def Level.word : Level → Text
  | error => "ERROR"
  | warn => "WARN"
  | info => "INFO"
  | debug => "DEBUG"
  | trace => "TRACE"

/-- What the log says about an event. Further lines of its text are indented. -/
def Event.entry (event : Event) : Text :=
  '[' :: Text.padRight 5 event.level.word ++ ' ' :: event.target ++ "] " ++
    Text.join "\n    " (Text.splitOn '\n' event.text)

/-! ## Filters -/

namespace Log

/-- Which events with a leading part of their target are wanted: those up to a level, or none. -/
structure Directive where
  /-- The leading part of the target; a directive for all targets has none. -/
  target : Option Text
  /-- The rank of the last level that is wanted. -/
  limit : Nat
  deriving DecidableEq

/-- The size of the target, in bytes. -/
def Directive.targetSize (d : Directive) : Nat :=
  (d.target.getD []).byteSize

/-- Which events are wanted. -/
structure Filter where
  /-- The directives, the longest target last. -/
  directives : List Directive
  /-- A pattern that occurs in the text of every wanted event. -/
  pattern : Option Pattern
  deriving DecidableEq

/-- A text in lower case, as far as ASCII goes. -/
def lower (t : Text) : Text :=
  t.map Char.toLower

/-- The words for limits. -/
def limits : List (Text × Nat) :=
  [("off", 0), ("error", 1), ("warn", 2), ("info", 3), ("debug", 4), ("trace", 5)]

/-- The limit that a word sets, in any case. -/
def limit? (word : Text) : Option Nat :=
  (limits.find? fun e => e.1 = lower word).map Prod.snd

/-- The limit that lets all events through. -/
def allEvents : Nat := 5

namespace Filter

/-- Read a directive: a level for all targets, a target with a level, or a target by itself, all of
whose events are wanted. Otherwise the text at fault is given. -/
def directive (t : Text) : Except Text Directive :=
  match Text.splitOn '=' t with
  | [word] =>
    match limit? word with
    | some limit => .ok ⟨none, limit⟩
    | none => .ok ⟨some word, allEvents⟩
  | [target, word] =>
    let word := Text.trim word
    if word.isEmpty then .ok ⟨some target, allEvents⟩
    else
      match limit? word with
      | some limit => .ok ⟨some target, limit⟩
      | none => .error word
  | _ => .error t

/-- Add a directive, in place of one for the same target. -/
def add (directives : List Directive) (d : Directive) : List Directive :=
  if directives.any (·.target = d.target) then
    directives.map fun e => if e.target = d.target then d else e
  else directives ++ [d]

/-- The directives in a text and the texts at fault in it. -/
def parseDirectives (t : Text) : List Directive × List Text :=
  (((Text.splitOn ',' t).map Text.trim).filter (!·.isEmpty)).foldl
    (fun (found, faults) part =>
      match directive part with
      | .ok d => (add found d, faults)
      | .error fault => (found, faults ++ [fault]))
    ([], [])

/-- The filter with the given directives. Without directives errors alone are wanted. -/
def make (directives : List Directive) (pattern : Option Pattern) : Filter where
  directives :=
    if directives.isEmpty then [⟨none, 1⟩]
    else directives.mergeSort fun a b => a.targetSize ≤ b.targetSize
  pattern := pattern

/-- The pattern behind the slash in a filter, if it can be read, and otherwise what is wrong. -/
def parsePattern (t : Text) : Option Pattern × List Text :=
  match Pattern.ofText t with
  | .ok p => (some p, [])
  | .error e => (none, ["invalid regex filter - " ++ e.message t])

/-- Read a filter, with the warnings about what is wrong in its text. Behind a slash stands a
pattern for the text of the wanted events. -/
def ofText (t : Text) : Filter × List Text :=
  let warning (fault : Text) : Text := "invalid logging spec '" ++ fault ++ "'"
  match Text.splitOn '/' t with
  | [specs] =>
    let (directives, faults) := parseDirectives specs
    (make directives none, faults.map warning)
  | [specs, written] =>
    let (directives, faults) := parseDirectives specs
    let (pattern, warnings) := parsePattern written
    (make directives pattern, faults.map warning ++ warnings)
  | _ => (make [] none, [warning t ++ " (too many '/'s)"])

/-- Whether an event is wanted. -/
def wants (filter : Filter) (event : Event) : Bool :=
  let deciding := filter.directives.reverse.find? fun d =>
    (d.target.getD []).isPrefixOf event.target
  (deciding.any fun d => event.level.rank ≤ d.limit) &&
    filter.pattern.all fun pattern => pattern.occursIn event.text

end Filter

end Log

end StudyGraph
