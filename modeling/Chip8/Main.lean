import Chip8.CommandLine.Report
import Chip8.Picture.Png

/-!
# The program

The command line on the files of the computer.

* `localDisk` — the file system of the computer
* `main` — carries out a command line
-/

namespace Chip8

/-- Whether an error code stands for the error of a number. Codes come with either sign. -/
def isError (code number : UInt32) : Bool := code = number || code = 0 - number

/-- The error that the operating system reports. -/
def fileErrorOf : IO.Error → FileError
  | .noFileOrDirectory .. => .notFound
  | .permissionDenied .. => .permissionDenied
  | .inappropriateType (some _) code _ | .inappropriateType none code _ =>
    if isError code 21 then .isADirectory else .notADirectory
  | .invalidArgument _ code _ => if isError code 36 then .nameTooLong else .permissionDenied
  | _ => .permissionDenied

/-- The bytes of a content as they are put into a file. -/
def Content.toBytes : Content → ByteArray
  | bytes bs => ⟨bs⟩
  | picture p => Png.encode p
  | log entries =>
    (String.join (entries.toList.map fun entry => entry.text ++ "\n")).toUTF8

/-- Does something with the file at a path, if it is a path at all. -/
def withPath {α : Type} (path : String) (act : IO α) : IO (Except FileError α) := do
  if holdsNul path then return .error .nulInPath
  try return .ok (← act)
  catch e => return .error (fileErrorOf e)

/-- Opens the file at a path for writing and gives up. Only a file that was not there
before is taken away again. -/
def giveUp (path : String) : IO Unit := do
  try
    let _ ← IO.FS.Handle.mk path .writeNew
    IO.FS.removeFile path
  catch
    | .alreadyExists .. => IO.FS.writeBinFile path .empty
    | e => throw e

/-- The file system of the computer. -/
def localDisk : Disk IO where
  read path := withPath path do return (← IO.FS.readBinFile path).data
  write path content := withPath path (IO.FS.writeBinFile path content.toBytes)
  abandon path := withPath path (giveUp path)
  room := .usual

/-- A number made of random bytes. -/
def entropy : IO Nat := do
  let bytes ← IO.getRandomBytes 16
  return bytes.foldl (fun n b => 256 * n + b.toNat) 0

end Chip8

open Chip8 in
/-- Carries out a command line and ends with its status. -/
def main (words : List String) : IO UInt32 := do
  let r ← CommandLine.report localDisk words (← entropy)
  IO.print r.output
  for line in r.errors do
    IO.eprintln line
  match r.status with
  | .exit code => return UInt32.ofNat code
  | .aborted failure =>
    IO.eprintln failure.message
    return 1
