import StudyGraph.Terminal.Diagnostic
import StudyGraph.Terminal.Log

/-!
# What a terminal shows

The lines of what a run writes to standard error, on a terminal that shows no colours for
diagnostics. Nothing of the log is shown before it is opened.
-/

namespace StudyGraph.Terminal

/-- The warning about a fault in the text of a log filter. -/
def filterWarning (fault : Text) : Text :=
  "warning: " ++ fault ++ ", ignoring it"

/-- The lines of messages, while the log is open with a filter or not. -/
def lines (filter : Option Log.Filter) : List Message → List Text
  | [] => []
  | .line text :: rest => text :: lines filter rest
  | .openLog text :: rest =>
    let (filter, faults) := Log.Filter.ofText text
    faults.map filterWarning ++ lines (some filter) rest
  | .event event :: rest =>
    if filter.any (·.wants event) then event.entry :: lines filter rest else lines filter rest
  | .report report :: rest => report.diagnostic.render report.sources ++ lines filter rest

/-- Lines, each with its ending. -/
def join (lines : List Text) : Text :=
  lines.flatMap (· ++ ['\n'])

/-- The text on standard output. -/
def output (outcome : Outcome) : Text :=
  join outcome.output

/-- The text on standard error. -/
def errors (outcome : Outcome) : Text :=
  join (lines none outcome.errors)

end StudyGraph.Terminal
