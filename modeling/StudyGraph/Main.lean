import StudyGraph.Readers
import StudyGraph.Terminal

/-!
# The program

Runs a session on the real files: what a path leads to is read from the disk before the session
starts, for the paths among the arguments.
-/

open System (FilePath)

namespace StudyGraph.Main

/-- The error of reading a path that leads to no folder. -/
def readError (e : IO.Error) : ReadError :=
  match e with
  | .noFileOrDirectory .. => .notFound
  | .noSuchThing .. => .notFound
  | .inappropriateType .. => .notAFolder
  | .permissionDenied .. => .notPermitted
  | .invalidArgument .. => .nameTooLong
  | e => .other (toString e).toList

/-- What a path leads to: a folder with all that is in it, or a file. -/
partial def load (path : FilePath) : IO (Except ReadError FileTree) := do
  try
    if ← path.isDir then
      let mut entries : List (Text × FileTree) := []
      for entry in ← path.readDir do
        if let .ok tree ← load entry.path then
          entries := (entry.fileName.toList, tree) :: entries
      return .ok (.folder entries)
    else
      return .ok (.file (← IO.FS.readBinFile path))
  catch e =>
    return .error (readError e)

end StudyGraph.Main

open StudyGraph in
/-- Run the program. -/
def main (arguments : List String) : IO UInt32 := do
  let mut loaded : List (Text × Except ReadError FileTree) := []
  for argument in arguments do
    loaded := (argument.toList, ← Main.load argument) :: loaded
  let outcome := Session.run Readers.standard (.ofKnown loaded)
    ((← IO.getEnv "RUST_LOG").map String.toList) (arguments.map String.toList)
  (← IO.getStdout).putStr (String.ofList (Terminal.output outcome))
  (← IO.getStderr).putStr (String.ofList (Terminal.errors outcome))
  return outcome.code.toUInt32
