import Chip8.Listing

/-!
# Control flow of a listing

Which lines of a listing jump, call or skip, read off the words alone.

* `Flow` — the transfers of control that a listing shows
* `Flow.ofLines` — those of a list of lines; lines of data are passed over
-/

namespace Chip8

/-- The transfers of control that a listing shows. -/
structure Flow where
  /-- Each jump with its target. -/
  jumps : List (Int × Int) := []
  /-- Each call with its target. -/
  calls : List (Int × Int) := []
  /-- The lines that may skip the next one. -/
  branches : List Int := []
  /-- The jumps that do not go forward. -/
  loops : List (Int × Int) := []
deriving DecidableEq, Repr

namespace Flow

/-- The transfer of control of one instruction at an address. -/
def ofInstruction (address : Int) : Instruction → Flow
  | .jump nnn =>
    { jumps := [(address, nnn.val)]
      loops := if (nnn.val : Int) ≤ address then [(address, nnn.val)] else [] }
  | .call nnn => { calls := [(address, nnn.val)] }
  | .skipIfByte .. | .skipUnlessByte .. | .skipIfEqual .. | .skipUnlessEqual ..
  | .skipIfDown .. | .skipUnlessDown .. => { branches := [address] }
  | _ => {}

/-- The transfers of two parts of a listing, the first before the second. -/
def append (f g : Flow) : Flow where
  jumps := f.jumps ++ g.jumps
  calls := f.calls ++ g.calls
  branches := f.branches ++ g.branches
  loops := f.loops ++ g.loops

/-- Whether a line shows data and no instruction. -/
def isData (line : Line) : Bool :=
  line.assembly.mnemonic == "DW" || line.assembly.mnemonic == "DB"

/-- The transfers of one line. -/
def ofLine (line : Line) : Except DecodeError Flow :=
  if isData line then .ok {}
  else (Instruction.decode line.word).map (ofInstruction line.address)

/-- The transfers of a list of lines, in their order. The first line that is neither data
nor an instruction is an error. -/
def ofLines : List Line → Except DecodeError Flow
  | [] => .ok {}
  | line :: rest => do
    let first ← ofLine line
    let others ← ofLines rest
    .ok (first.append others)

end Flow

end Chip8
