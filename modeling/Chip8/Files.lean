import Chip8.Picture
import Chip8.Session.Log
import Chip8.Text.Quoted

/-!
# Files

What the program asks of the file system: to read the bytes of a file, to put
something into a file, and to begin a file that is then given up. All can fail.

* `FileError` — why a file cannot be opened
* `Content` — what can be in a file
* `Disk` — a file system, as the things that it does
* `holdsNul` — whether a path can be handed to a file system at all
-/

namespace Chip8

/-- Why a file cannot be opened. -/
inductive FileError where
  /-- Nothing is at the path. -/
  | notFound
  /-- The file must not be opened. -/
  | permissionDenied
  /-- A component that should be a directory is none. -/
  | notADirectory
  /-- The path leads to a directory. -/
  | isADirectory
  /-- A component, or the whole path, is too long. -/
  | nameTooLong
  /-- The character of number zero is in the path. It would end the path for the operating
  system, which is therefore not asked. -/
  | nulInPath
deriving DecidableEq, Repr

namespace FileError

/-- The number and the description of the error in the table of the operating system, if
it is one of that table. -/
def entry? : FileError → Option (Nat × String)
  | notFound => some (2, "No such file or directory")
  | permissionDenied => some (13, "Permission denied")
  | notADirectory => some (20, "Not a directory")
  | isADirectory => some (21, "Is a directory")
  | nameTooLong => some (36, "File name too long")
  | nulInPath => none

/-- The description of an error. -/
def description (e : FileError) : String :=
  match e.entry? with
  | some (_, text) => text
  | none => "embedded null byte"

/-- The report of an error with the path that it concerns. -/
def message (e : FileError) (path : String) : String :=
  match e.entry? with
  | some (number, text) => "[Errno " ++ toString number ++ "] " ++ text ++ ": " ++ Quoted.quote path
  | none => e.description

end FileError

/-- Whether the character of number zero is in a path. -/
def holdsNul (path : String) : Bool := path.toList.contains '\x00'

/-- What can be in a file. -/
inductive Content where
  /-- Bytes. -/
  | bytes (bs : Array UInt8)
  /-- A picture. -/
  | picture (p : Picture)
  /-- The lines of a log. -/
  | log (entries : Array LogEntry)

/-- A file system, whose operations run in `m`, and the room for the pictures that are put
into its files. -/
structure Disk (m : Type → Type) where
  /-- The bytes of the file at a path. -/
  read : String → m (Except FileError (Array UInt8))
  /-- Puts a content into the file at a path, in place of what was there. -/
  write : String → Content → m (Except FileError Unit)
  /-- Opens the file at a path for writing and gives up: a file that was there is left
  empty, and none is left where there was none. -/
  abandon : String → m (Except FileError Unit)
  /-- How large pictures can be. -/
  room : Room

end Chip8
