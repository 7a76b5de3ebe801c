import Chip8.Instruction.Encoding
import Chip8.Text.Hex

/-!
# Instructions as text

An instruction has two written forms: the record form of the trace, which names
it and its operands in decimal, and the assembly form of listings, a mnemonic
and its operands in base sixteen.

* `Instruction.name`, `Instruction.operands`, `Instruction.record` — the record form
* `Assembly` — a mnemonic and its operand text
* `Instruction.assembly` — the assembly form of an instruction
* `Assembly.ofWord` — the assembly form of a word; an undecodable word is data
-/

namespace Chip8

namespace Instruction

/-- The name of an instruction in the trace. -/
def name : Instruction → String
  | sys _ => "MachineSubroutine"
  | cls => "Clear"
  | ret => "Return"
  | jump _ => "Jump"
  | call _ => "Call"
  | skipIfByte _ _ => "SkipEqualValue"
  | skipUnlessByte _ _ => "SkipNotEqualValue"
  | skipIfEqual _ _ => "SkipEqualRegister"
  | setByte _ _ => "LoadValue"
  | addByte _ _ => "AddValue"
  | copy _ _ => "LoadRegister"
  | or _ _ => "Or"
  | and _ _ => "And"
  | xor _ _ => "Xor"
  | add _ _ => "AddRegister"
  | sub _ _ => "SubRegisterXY"
  | shiftRight _ _ => "ShiftRight"
  | subFrom _ _ => "SubRegisterYX"
  | shiftLeft _ _ => "ShiftLeft"
  | skipUnlessEqual _ _ => "SkipNotEqualRegister"
  | setIndex _ => "LoadIntoI"
  | jumpOffset _ => "JumpAdd"
  | random _ _ => "LoadRandom"
  | draw _ _ _ => "DrawSprite"
  | skipIfDown _ => "SkipIfKey"
  | skipUnlessDown _ => "SkipIfNotKey"
  | getDelay _ => "LoadDelay"
  | awaitKey _ => "WaitForKey"
  | setDelay _ => "SetDelay"
  | setSound _ => "SetSound"
  | addIndex _ => "AddToI"
  | digitSprite _ => "LoadDigitSprite"
  | storeDecimal _ => "StoreBCD"
  | storeBlock _ => "StoreRegisters"
  | loadBlock _ => "LoadRegisters"

/-- The operands of an instruction, each with its label, in the order of its pattern. -/
def operands : Instruction → List (String × Nat)
  | cls | ret => []
  | sys nnn | jump nnn | call nnn | setIndex nnn | jumpOffset nnn => [("nnn", nnn.val)]
  | skipIfByte x nn | skipUnlessByte x nn | setByte x nn | addByte x nn | random x nn =>
    [("vx", x.val), ("nn", nn.toNat)]
  | skipIfEqual x y | copy x y | or x y | and x y | xor x y | add x y | sub x y
  | shiftRight x y | subFrom x y | shiftLeft x y | skipUnlessEqual x y =>
    [("vx", x.val), ("vy", y.val)]
  | draw x y n => [("vx", x.val), ("vy", y.val), ("n", n.val)]
  | skipIfDown x | skipUnlessDown x | getDelay x | awaitKey x | setDelay x | setSound x
  | addIndex x | digitSprite x | storeDecimal x | storeBlock x | loadBlock x =>
    [("vx", x.val)]

/-- The record form: the name, and the operands with their labels in brackets. -/
def record (i : Instruction) : String :=
  i.name ++ "(" ++ ", ".intercalate (i.operands.map fun (l, v) => l ++ "=" ++ toString v) ++ ")"

end Instruction

/-- A line of assembly: a mnemonic and the text of its operands. -/
structure Assembly where
  /-- What is to be done. -/
  mnemonic : String
  /-- What it is done to; empty when there is nothing to name. -/
  operands : String
deriving DecidableEq, Repr

namespace Assembly

/-- The text of a register. -/
def register (x : Register) : String := "V" ++ Hex.numeral 1 x.val

/-- The text of a byte. -/
def byte (nn : UInt8) : String := "#" ++ Hex.numeral 2 nn.toNat

/-- The text of an address. -/
def address (nnn : Address) : String := "$" ++ Hex.numeral 3 nnn.val

/-- The text of two operands. -/
def pair (first second : String) : String := first ++ ", " ++ second

end Assembly

open Assembly in
/-- The assembly form of an instruction. -/
def Instruction.assembly : Instruction → Assembly
  | sys nnn => ⟨"SYS", address nnn⟩
  | cls => ⟨"CLS", ""⟩
  | ret => ⟨"RET", ""⟩
  | jump nnn => ⟨"JP", address nnn⟩
  | call nnn => ⟨"CALL", address nnn⟩
  | skipIfByte x nn => ⟨"SE", pair (register x) (byte nn)⟩
  | skipUnlessByte x nn => ⟨"SNE", pair (register x) (byte nn)⟩
  | skipIfEqual x y => ⟨"SE", pair (register x) (register y)⟩
  | setByte x nn => ⟨"LD", pair (register x) (byte nn)⟩
  | addByte x nn => ⟨"ADD", pair (register x) (byte nn)⟩
  | copy x y => ⟨"LD", pair (register x) (register y)⟩
  | or x y => ⟨"OR", pair (register x) (register y)⟩
  | and x y => ⟨"AND", pair (register x) (register y)⟩
  | xor x y => ⟨"XOR", pair (register x) (register y)⟩
  | add x y => ⟨"ADD", pair (register x) (register y)⟩
  | sub x y => ⟨"SUB", pair (register x) (register y)⟩
  | shiftRight x y => ⟨"SHR", pair (register x) (register y)⟩
  | subFrom x y => ⟨"SUBN", pair (register x) (register y)⟩
  | shiftLeft x y => ⟨"SHL", pair (register x) (register y)⟩
  | skipUnlessEqual x y => ⟨"SNE", pair (register x) (register y)⟩
  | setIndex nnn => ⟨"LD", pair "I" (address nnn)⟩
  | jumpOffset nnn => ⟨"JP", pair "V0" (address nnn)⟩
  | random x nn => ⟨"RND", pair (register x) (byte nn)⟩
  | draw x y n => ⟨"DRW", pair (register x) (pair (register y) ("#" ++ Hex.numeral 1 n.val))⟩
  | skipIfDown x => ⟨"SKP", register x⟩
  | skipUnlessDown x => ⟨"SKNP", register x⟩
  | getDelay x => ⟨"LD", pair (register x) "DT"⟩
  | awaitKey x => ⟨"LD", pair (register x) "K"⟩
  | setDelay x => ⟨"LD", pair "DT" (register x)⟩
  | setSound x => ⟨"LD", pair "ST" (register x)⟩
  | addIndex x => ⟨"ADD", pair "I" (register x)⟩
  | digitSprite x => ⟨"LD", pair "F" (register x)⟩
  | storeDecimal x => ⟨"LD", pair "B" (register x)⟩
  | storeBlock x => ⟨"LD", pair "[I]" (register x)⟩
  | loadBlock x => ⟨"LD", pair (register x) "[I]"⟩

namespace Assembly

/-- A word that is no instruction, written as data. -/
def dataWord (w : Word) : Assembly := ⟨"DW", "$" ++ Hex.numeral 4 w.toNat⟩

/-- A byte that is no part of a word, written as data. -/
def dataByte (b : UInt8) : Assembly := ⟨"DB", byte b⟩

/-- The assembly form of a word. A word that no pattern matches is written as data. -/
def ofWord (w : Word) : Assembly :=
  match Instruction.decode? w with
  | some i => i.assembly
  | none => dataWord w

end Assembly

end Chip8
