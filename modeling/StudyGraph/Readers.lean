import StudyGraph.Readers.Arguments
import StudyGraph.Readers.Markdown.Heading
import StudyGraph.Readers.Settings
import StudyGraph.Session

/-!
# Readers at hand

The readers that the program is run with. What holds of a run for all readers, or for all that keep
certain conventions, holds for these.
-/

namespace StudyGraph

/-- Markdown by its first pass, settings in TOML, and arguments by levels. -/
def Readers.standard : Readers where
  headings := Markdown.headingStarts
  settings := Settings.read
  arguments := Arguments.read

end StudyGraph
