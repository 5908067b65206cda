import FunctionBounds.Bytes
import FunctionBounds.Text.Quoted

/-!
# Files

What a program can know of the file system without changing it.

* `FileState`: what a path stands for.
* `collapsePath`: a path without what does not matter.
* `Files`: what every path stands for.
* `Files.contents`: what is read at a path.
* `Files.ofStates`: what is known about some paths.
* `Files.ofTree`: what there is at some paths, and the directories above them.
-/

namespace FunctionBounds

/-- What a path stands for. -/
inductive FileState where
  | absent
  | directory
  | file (contents : Bytes)
  /-- What can be read and written like a file, but keeps nothing. -/
  | sink
  deriving DecidableEq, Repr

/-- What every path stands for, and where relative paths start. -/
structure Files where
  look : String → FileState
  current : String := "/"

/-- The parts of a path between slashes, without empty ones and single dots. -/
def pathParts (path : String) : List String :=
  (path.splitOn "/").filter fun p => !p.isEmpty && p != "."

/-- The slashes that a path from the root starts with: two, if there are no more, are a root of
their own. -/
def pathRoot (path : String) : String :=
  match path.toList with
  | '/' :: '/' :: '/' :: _ => "/"
  | '/' :: '/' :: _ => "//"
  | '/' :: _ => "/"
  | _ => ""

/-- A path from its parts. -/
def joinPath (root : String) (parts : List String) : String :=
  let path := root ++ "/".intercalate parts
  if path.isEmpty then "." else path

/-- A path without repeated slashes, single dots and a slash at its end. -/
def collapsePath (path : String) : String := joinPath (pathRoot path) (pathParts path)

/-- The directory that a path lies in. -/
def parentPath (path : String) : String := joinPath (pathRoot path) (pathParts path).dropLast

/-- The parts of a path without those that a double dot takes back. -/
def withoutParents (parts : List String) : List String :=
  (parts.foldl (fun done p => if p == ".." then done.drop 1 else p :: done) []).reverse

/-- A path from the root, without double dots. -/
def Files.resolve (f : Files) (path : String) : String :=
  let whole := if path.startsWith "/" then path else f.current ++ "/" ++ path
  "/" ++ "/".intercalate (withoutParents (pathParts whole))

/-- Why nothing can be read at a path. -/
inductive FileError where
  | absent (path : String)
  | directory (path : String)
  deriving DecidableEq, Repr

/-- The sentence that reports an error. -/
def FileError.message : FileError → String
  | absent path => s!"[Errno 2] No such file or directory: {Text.quoted path}"
  | directory path => s!"[Errno 21] Is a directory: {Text.quoted path}"

/-- What is read at a path. -/
def Files.contents (f : Files) (path : String) : Except FileError Bytes :=
  match f.look path with
  | .file d => .ok d
  | .sink => .ok #[]
  | .absent => .error (.absent (collapsePath path))
  | .directory => .error (.directory (collapsePath path))

/-- What is known about some paths; all others are absent. -/
def Files.ofStates (current : String) (states : List (String × FileState)) : Files where
  look := fun path => (states.lookup path).getD .absent
  current

/-- What a path leads to, part by part from a directory whose own parts are `here`. Nothing leads on
from a file. -/
def follow (state : List String → FileState) (here : List String) : List String → FileState
  | [] => state here
  | part :: rest =>
    match state here with
    | .directory =>
      follow state
        (if part.isEmpty || part == "." then here
          else if part == ".." then here.dropLast
          else here ++ [part])
        rest
    | _ => .absent

/-- Whether a path that starts anywhere leads to a directory whatever there is: it is made of single
and double dots. -/
def isDotted (path : String) : Bool :=
  !path.isEmpty && (pathParts path).all (· == "..")

/-- What there is at some paths from the root, and the directories above them. Of paths that do not
start from the root only those made of dots lead anywhere. -/
def Files.ofTree (current : String) (tree : List (String × FileState)) : Files where
  look := fun path =>
    let known := tree.map fun (path, state) => (pathParts path, state)
    let state := fun here =>
      if known.any fun (parts, _) => here != parts && here.isPrefixOf parts then .directory
      else (known.lookup here).getD .absent
    if path.startsWith "/" then follow state [] (path.splitOn "/")
    else if isDotted path then .directory
    else .absent
  current

end FunctionBounds
