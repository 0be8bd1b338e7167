import StudyGraph.Ordered.Sorted
import StudyGraph.Text.Search

/-!
# Categories of fixtures

Fixtures are filed in categories, which are nested like folders: `a/b` lies in `a`. A request names
a category and stands for it and for all that lies in it. `select` keeps the categories that some
request stands for, or all if nothing is requested, and notes the requests that add nothing to the
selection.
-/

namespace StudyGraph

/-- Fixtures by category. -/
abbrev Categories := SortedMap (List Text)

/-- A selection of categories. -/
structure Selection where
  /-- The categories that are selected. -/
  selected : Categories
  /-- The requests that added nothing. -/
  missed : List Text

/-- The name under which a category is listed: the one without a name holds what lies at the
root. -/
def categoryLabel (category : Text) : Text :=
  if category.isEmpty then "(root)" else category

namespace Categories

/-- A request without slashes at its ends. -/
def trimSlashes (request : Text) : Text :=
  ((request.dropWhile (· == '/')).reverse.dropWhile (· == '/')).reverse

/-- Whether a category is the requested one or lies in it. -/
def matchesRequest (request category : Text) : Bool :=
  category = request || (request ++ ['/']).isPrefixOf category

/-- Add the categories of a request to a selection, or note that there are none to add. -/
def addRequest (all : Categories) (selection : Selection) (request : Text) : Selection :=
  let request := trimSlashes request
  let found := all.entries.filter fun e => matchesRequest request e.1
  let selected := found.foldl (fun m e => m.insert e.1 e.2) selection.selected
  if selected.entries.length = selection.selected.entries.length then
    { selected, missed := selection.missed ++ [request] }
  else { selection with selected }

/-- The categories that the requests stand for. -/
def select (all : Categories) (requests : List Text) : Selection :=
  if requests.isEmpty then ⟨all, []⟩ else requests.foldl (addRequest all) ⟨.empty, []⟩

/-- The warning for a request that added nothing. -/
def missedWarning (all : Categories) (request : Text) : Text :=
  "warning: category '" ++ request ++ "' not found (available: " ++
    Text.join ", " (all.keys.map categoryLabel) ++ ")"

end Categories

end StudyGraph
