import Chip8.Fault
import Chip8.Instruction.Text

/-!
# The log

A session can note each instruction before it is carried out, and it always
notes the fault that stops the machine.

* `LogEntry` — what was noted
* `LogEntry.isWarning` — whether it is noted in every session
* `LogEntry.text` — the line of an entry, with its level and where it comes from
-/

namespace Chip8

/-- Something noted during a session. -/
inductive LogEntry where
  /-- An instruction is about to be carried out. -/
  | executing (word : Word) (pc : Int) (instruction : Instruction)
  /-- The machine stopped with a fault. -/
  | crashed (pc : Int) (fault : Fault)
deriving DecidableEq, Repr

namespace LogEntry

/-- Whether the entry is noted in every session, and not only in those that trace. -/
def isWarning : LogEntry → Bool
  | executing .. => false
  | crashed .. => true

/-- The line of an entry. -/
def text : LogEntry → String
  | executing word pc instruction =>
    "DEBUG chip8vm.cpu: Executing: 0x" ++ Hex.numeral 4 word.toNat ++ " at PC=0x" ++
      Hex.signed 3 pc ++ " -> " ++ instruction.record
  | crashed pc fault =>
    "WARNING chip8vm.host: Machine crashed at PC=0x" ++ Hex.signed 3 pc ++ ": " ++ fault.message

end LogEntry

end Chip8
