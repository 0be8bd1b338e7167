import StudyGraph.Ordered.Sorted
import StudyGraph.Text.Scan

/-!
# Files and folders

The files that a run of the program sees: a tree whose leaves are files and whose other nodes are
folders. A path is resolved name by name (`FileTree.descend`); empty names and single dots stay
where they are, and double dots go back up. `Files` says what each path leads to.
-/

namespace StudyGraph

/-! ## Paths -/

namespace Text

/-- A path and a name below it. -/
def joinPath (path name : Text) : Text :=
  if path.getLast? = some '/' then path ++ name else path ++ '/' :: name

/-- The names on the way from a path to one at or below it. -/
def namesBelow? (path deeper : Text) : Option (List Text) :=
  match afterPrefix? path deeper with
  | some [] => some []
  | some ('/' :: rest) => some (splitOn '/' rest)
  | some rest => if path.getLast? = some '/' then some (splitOn '/' rest) else none
  | none => none

/-- The last name of a path. -/
def fileName (path : Text) : Text :=
  (((splitOn '/' path).filter fun name => !name.isEmpty && name != ['.']).getLast?).getD []

/-- The last name of a path without its extension. A dot at the start of a name opens no
extension. -/
def fileStem (path : Text) : Text :=
  let name := fileName path
  let back := name.reverse
  match back.dropWhile (· != '.') with
  | _ :: stem => if stem.isEmpty then name else stem.reverse
  | [] => name

end Text

/-! ## Files -/

/-- The most bytes that a name has. -/
def nameLimit : Nat := 255

/-- The number of bytes from which on a path is too long. -/
def pathLimit : Nat := 4096

/-- A file, or a folder with named entries. -/
inductive FileTree where
  | file (content : ByteArray)
  | folder (entries : List (Text × FileTree))

/-- Why a path cannot be read. -/
inductive ReadError where
  | notFound
  | notAFolder
  | isAFolder
  | notPermitted
  | nameTooLong
  /-- The bytes of the file are not the encoding of a text. -/
  | notText
  | other (message : Text)
  deriving DecidableEq

/-- The wording of an error. -/
def ReadError.message : ReadError → Text
  | notFound => "No such file or directory (os error 2)"
  | notAFolder => "Not a directory (os error 20)"
  | isAFolder => "Is a directory (os error 21)"
  | notPermitted => "Permission denied (os error 13)"
  | nameTooLong => "File name too long (os error 36)"
  | notText => "stream did not contain valid UTF-8"
  | other message => message

namespace FileTree

/-- The folder with nothing in it. -/
def empty : FileTree := folder []

instance : Inhabited FileTree := ⟨empty⟩

/-- The entries of a folder. -/
def entries : FileTree → List (Text × FileTree)
  | file _ => []
  | folder entries => entries

/-- A tree with a file at a path, in place of what was there. -/
def insertAt (content : ByteArray) : List Text → FileTree → FileTree
  | [], _ => file content
  | name :: path, tree =>
    folder (SortedMap.change name (fun old => insertAt content path (old.getD empty)) tree.entries)

/-- The folder with the files at the given paths. -/
def ofFiles (files : List (Text × ByteArray)) : FileTree :=
  files.foldl (fun tree (path, content) => tree.insertAt content (Text.splitOn '/' path)) empty

/-- Go down a path from a tree in the given folders, innermost first. -/
def descend (tree : FileTree) (above : List FileTree) : List Text → Except ReadError FileTree
  | [] => .ok tree
  | name :: path =>
    match tree with
    | file _ => .error .notAFolder
    | folder entries =>
      if name = [] || name = ['.'] then descend tree above path
      else if name = ['.', '.'] then
        match above with
        | [] => descend tree [] path
        | outer :: above => descend outer above path
      else
        match SortedMap.find? name entries with
        | none => .error (if nameLimit < name.byteSize then .nameTooLong else .notFound)
        | some inner => descend inner (tree :: above) path

/-- What a path leads to. A path from the root of all folders leads out of the tree, and nothing is
known there but the root. -/
def resolve (tree : FileTree) (path : Text) : Except ReadError FileTree :=
  if pathLimit ≤ path.byteSize then .error .nameTooLong
  else
    match path with
    | [] => .error .notFound
    | '/' :: path => empty.descend [] (Text.splitOn '/' path)
    | path => tree.descend [] (Text.splitOn '/' path)

/-- The text of a file. -/
def read : FileTree → Except ReadError Text
  | folder _ => .error .isAFolder
  | file content =>
    match String.fromUTF8? content with
    | some s => .ok s.toList
    | none => .error .notText

end FileTree

/-- What each path leads to. -/
abbrev Files := Text → Except ReadError FileTree

namespace Files

/-- What paths lead to, for paths at or below those of which it is known where they lead. -/
def ofKnown (known : List (Text × Except ReadError FileTree)) : Files := fun path =>
  let found := known.findSome? fun (start, found) =>
    (Text.namesBelow? start path).map fun names => found.bind fun tree => tree.descend [] names
  found.getD (.error .notFound)

/-- The text at a path. -/
def read (files : Files) (path : Text) : Except ReadError Text := do
  (← files path).read

/-- Whether a path leads to a file. -/
def isFile (files : Files) (path : Text) : Bool :=
  match files path with
  | .ok (.file _) => true
  | _ => false

end Files

end StudyGraph
