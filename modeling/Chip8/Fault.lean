import Chip8.Memory
import Chip8.Word

/-!
# Faults

The reasons for which a cycle of the machine fails: the bytes at the program
counter cannot be fetched, the word is no instruction, or the instruction cannot
be carried out.

* `Fault` — one constructor per cause
* `Fault.isCrash` — whether the program is to blame
* `Fault.message` — the report of a fault
-/

namespace Chip8

/-- Why a cycle fails. -/
inductive Fault where
  /-- A range of memory that is not inside the store. -/
  | access (range : OutOfRange)
  /-- A word that no instruction pattern matches. -/
  | unknownInstruction (word : Word)
  /-- A call of machine code. -/
  | unknownSubroutine (nnn : Address)
  /-- A return without a call before it. -/
  | emptyStack
  /-- A call when the stack holds as many addresses as it can. -/
  | stackOverflow (depth : Nat)
  /-- A sprite that goes on past the end of the store. -/
  | spriteOverflow (index : Int) (length : Nat)
  /-- A value that no register can hold. A program cannot bring this about, since all that
  it computes is reduced to a byte, and it sets timers from registers. -/
  | tooWide (value : Int)
deriving DecidableEq, Repr

/-- Whether the program is to blame for a fault, and not whoever set its machine up. -/
def Fault.isCrash : Fault → Bool
  | tooWide _ => false
  | _ => true

/-- The report of a fault. -/
def Fault.message : Fault → String
  | access range => range.message
  | unknownInstruction word => "unknown instruction: 0x" ++ Hex.numeral 4 word.toNat
  | unknownSubroutine nnn => "unknown machine code subroutine: 0x" ++ Hex.numeral 3 nnn.val
  | emptyStack => "attempted to return from a subroutine when the stack is empty"
  | stackOverflow depth =>
    s!"call stack overflow: {depth} return addresses already stored"
  | spriteOverflow index length =>
    "sprite read beyond the end of memory at index 0x" ++ Hex.signed 3 index ++
      " with length " ++ toString length
  | tooWide value => s!"a register cannot hold {value}, which is not a byte"

end Chip8
