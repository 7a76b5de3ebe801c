import Chip8.Files
import Chip8.Files.Path

/-!
# Trees of files

A file system that is held as a value: which places there are, and what is at
each of them.

* `Entry`, `FileTree` — what is at a place, and all places
* `FileTree.locate` — the place that a path leads to
* `FileTree.read`, `FileTree.write`, `FileTree.abandon` — what can be done with a file
* `FileTree.disk` — a tree of files as a file system
-/

namespace Chip8

/-- What is at a place. -/
inductive Entry where
  /-- A file. -/
  | file (content : Content)
  /-- A file that must not be opened. -/
  | locked
  /-- A directory. -/
  | directory

/-- A place: the components on the way to it from the root. -/
abbrev Place := List String

/-- The places that there are, and the working directory. -/
structure FileTree where
  /-- What is at each place but the root. -/
  entries : List (Place × Entry)
  /-- The place at which relative paths start. -/
  workingDirectory : Place := []

namespace FileTree

/-- The most bytes in a component. -/
def maxName : Nat := 255

/-- The most bytes in a path. -/
def maxPath : Nat := 4095

/-- What is at a place. The root is a directory. -/
def entry? (t : FileTree) (place : Place) : Option Entry :=
  if place = [] then some .directory
  else (t.entries.find? (·.1 = place)).map (·.2)

/-- Goes on from a place by the components of a path. Every place that something follows
must be a directory. -/
def walk (t : FileTree) (place : Place) : List String → Except FileError Place
  | [] => .ok place
  | component :: rest =>
    match t.entry? place with
    | none => .error .notFound
    | some (.file _) | some .locked => .error .notADirectory
    | some .directory =>
      if component = "" ∨ component = "." then walk t place rest
      else if component = ".." then walk t place.dropLast rest
      else if maxName < component.utf8ByteSize then .error .nameTooLong
      else walk t (place ++ [component]) rest

/-- The place that a path leads to, whether or not there is something. -/
def locate (t : FileTree) (path : String) : Except FileError Place :=
  if holdsNul path then .error .nulInPath
  else if path.isEmpty then .error .notFound
  else if maxPath < path.utf8ByteSize then .error .nameTooLong
  else t.walk (if Path.isAbsolute path then [] else t.workingDirectory) (Path.components path)

/-- The bytes of the file at a path. Only files that hold bytes have any. -/
def read (t : FileTree) (path : String) : Except FileError (Array UInt8) := do
  match t.entry? (← t.locate path) with
  | none => .error .notFound
  | some .directory => .error .isADirectory
  | some .locked => .error .permissionDenied
  | some (.file (.bytes bs)) => .ok bs
  | some (.file _) => .ok #[]

/-- The tree with a file at a place. -/
def put (t : FileTree) (place : Place) (content : Content) : FileTree :=
  { t with entries := (place, .file content) :: t.entries.filter (·.1 ≠ place) }

/-- The tree with a content in the file at a path, which need not be there before. -/
def write (t : FileTree) (path : String) (content : Content) : Except FileError FileTree := do
  let place ← t.locate path
  match t.entry? place with
  | some .directory => .error .isADirectory
  | some .locked => .error .permissionDenied
  | some (.file _) | none => .ok (t.put place content)

/-- The tree after the file at a path was opened for writing and given up. -/
def abandon (t : FileTree) (path : String) : Except FileError FileTree := do
  let place ← t.locate path
  match t.entry? place with
  | some .directory => .error .isADirectory
  | some .locked => .error .permissionDenied
  | some (.file _) => .ok (t.put place (.bytes #[]))
  | none => .ok t

/-- What an operation makes of the tree that is the state. -/
def change (f : FileTree → Except FileError FileTree) :
    StateM FileTree (Except FileError Unit) := do
  match f (← get) with
  | .ok t => set t; return .ok ()
  | .error e => return .error e

/-- A tree of files as a file system: the tree is the state. -/
def disk : Disk (StateM FileTree) where
  read path := do return (← get).read path
  write path content := change (·.write path content)
  abandon path := change (·.abandon path)
  room := .usual

end FileTree

end Chip8
