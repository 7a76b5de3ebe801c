import Chip8.Text.Lower

/-!
# Paths

A path is written as components between slashes. A path that begins with a slash
starts at the root, and any other at the working directory.

* `Path.components` — the components of a path, empty ones included
* `Path.isAbsolute` — whether a path starts at the root
* `Path.normalize` — the path without empty components, `.` and `..`, by the text alone
* `Path.stemAndSuffix` — the last component, cut at its last dot
* `Path.extension` — what follows the cut, in small letters
-/

namespace Chip8.Path

/-- The components of a path. Two slashes in a row, or one at an end, enclose an empty
component. -/
def components (path : String) : List String := (path.toList.splitOn '/').map String.ofList

/-- Whether a path starts at the root. -/
def isAbsolute (path : String) : Bool := path.toList.head? == some '/'

/-- One more component of a normalized path, whose last component is the head of `done`.
Above the root there is nothing to go up to. -/
def push (absolute : Bool) (done : List String) (component : String) : List String :=
  if component = "" ∨ component = "." then done
  else if component = ".." then
    match done with
    | [] => if absolute then [] else [".."]
    | last :: rest => if last = ".." then ".." :: done else rest
  else component :: done

/-- The path without empty components and `.`, with each `..` and the component before it
taken out. It need not lead to the same place when that component is no directory. -/
def normalize (path : String) : String :=
  let absolute := isAbsolute path
  let kept := ((components path).foldl (push absolute) []).reverse
  if absolute then "/" ++ "/".intercalate kept
  else if kept.isEmpty then "."
  else "/".intercalate kept

/-- The last component of a path in two parts, the second of which begins with the last
dot. Dots at the beginning of the component do not count; without any other the second part
is empty. -/
def stemAndSuffix (path : String) : List Char × List Char :=
  let name := ((components path).getLastD "").toList
  let tail := (name.reverse.takeWhile (· ≠ '.')).reverse
  let stem := name.take (name.length - tail.length - 1)
  if stem.all (· = '.') then (name, []) else (stem, '.' :: tail)

/-- The extension of a path: the second part of its last component, in small letters. -/
def extension (path : String) : String := String.ofList (Text.lower (stemAndSuffix path).2)

end Chip8.Path
