import StudyGraph.Fixture
import StudyGraph.Readers.Toml

/-!
# Settings of fixtures

The reader of the settings in front of a fixture: statements in TOML, each of which sets one
expectation.
-/

namespace StudyGraph.Settings

/-- A count, from a setting. -/
def count? : Toml.Value → Option Nat
  | .integer (.ofNat n) => some n
  | _ => none

/-- A text, from a setting. -/
def text? : Toml.Value → Option Text
  | .string t => some t
  | _ => none

/-- Add a setting. -/
def set? (e : Expectations) (key : Text) (value : Toml.Value) : Option Expectations :=
  if key = "description".toList then (text? value).map fun t => { e with description := some t }
  else if key = "expect_error".toList then (text? value).map fun t => { e with error := some t }
  else if key = "expect_nodes".toList then (count? value).map fun n => { e with nodes := some n }
  else if key = "expect_cards".toList then (count? value).map fun n => { e with cards := some n }
  else if key = "expect_clozes".toList then (count? value).map fun n => { e with clozes := some n }
  else if key = "expect_matches".toList then
    (count? value).map fun n => { e with matchings := some n }
  else if key = "expect_edge_parents".toList then
    (count? value).map fun n => { e with edgeParents := some n }
  else if key = "expect_edges".toList then (count? value).map fun n => { e with edges := some n }
  else none

/-- The expectations in settings, or what is wrong with the settings. -/
def read (t : Text) : Except Text Expectations :=
  match Toml.parse? t with
  | none => .error "invalid statement"
  | some settings => settings.foldlM (fun e (key, value) =>
      match set? e key value with
      | some e => .ok e
      | none => .error ("invalid setting `" ++ key ++ "`")) {}

end StudyGraph.Settings
