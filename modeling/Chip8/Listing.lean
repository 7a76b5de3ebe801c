import Chip8.Instruction.Text
import Chip8.Memory
import Chip8.Text.Blank

/-!
# Listings

A listing shows the bytes of a program two at a time as lines of assembly. A
word that is no instruction is shown as data, and so is a byte left over at the
end.

* `Line`, `Line.text` — a line, and how it is written
* `Listing.ofBytes` — the lines of a list of bytes
* `Listing.text` — the lines of a listing, one below the other
-/

namespace Chip8

/-- A line of a listing. The word is an integer, since lines may be made by hand. -/
structure Line where
  /-- The address of the first byte. -/
  address : Int
  /-- The word, or the byte left over. -/
  word : Int
  /-- What the word means. -/
  assembly : Assembly
deriving DecidableEq, Repr

/-- The line as text: address and word in base sixteen, and the assembly without blanks
at its end. -/
def Line.text (line : Line) : String :=
  let assembly := line.assembly.mnemonic ++ " " ++ line.assembly.operands
  Hex.signed 3 line.address ++ ": " ++ Hex.signed 4 line.word ++ "  " ++
    String.ofList (Text.trimRight assembly.toList)

namespace Listing

/-- The lines of a list of bytes that starts at an address. -/
def ofBytes : List UInt8 → (address : Int) → List Line
  | high :: low :: rest, address =>
    let word := Word.ofBytes high low
    ⟨address, word.toNat, .ofWord word⟩ :: ofBytes rest (address + 2)
  | [last], address => [⟨address, last.toNat, .dataByte last⟩]
  | [], _ => []

/-- The lines of a program where it is loaded. -/
def ofProgram (program : Program) : List Line := ofBytes program.bytes.toList programStart

/-- The lines of a listing, one below the other. -/
def text (lines : List Line) : String := "\n".intercalate (lines.map Line.text)

end Listing

end Chip8
