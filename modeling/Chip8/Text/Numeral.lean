import Chip8.Text.Blank
import Chip8.Text.Digit

/-!
# Reading integers

An integer is written with an optional sign, an optional base marker (`0x`, `0o`
or `0b`) and digits, where single underscores may stand between digits. Blanks
around it are ignored, and decimal digits of every script count as digits.

* `Numeral.plain` — the text with digits and blanks of other scripts made ASCII
* `Numeral.digitsValue` — the value of a run of digits
* `Numeral.read` — an integer in a given base
* `Numeral.readMarked` — an integer whose base is told by its marker
-/

namespace Chip8.Numeral

/-- The ASCII character that stands for `c`: decimal digits of any script become the
digits `0`–`9`, blanks become spaces, and what means nothing in a numeral becomes `?`. -/
def plain (c : Char) : Char :=
  if c.toNat < 127 then c
  else if Text.isBlank c then ' '
  else match Text.decimalValue? c with
    | some d => Char.ofNat (48 + d)
    | none => '?'

/-- The value of a digit, where letters of either case go on from ten. -/
def digitValue? (c : Char) : Option Nat :=
  if '0' ≤ c ∧ c ≤ '9' then some (c.toNat - 48)
  else if 'a' ≤ c ∧ c ≤ 'z' then some (c.toNat - 87)
  else if 'A' ≤ c ∧ c ≤ 'Z' then some (c.toNat - 55)
  else none

/-- The value of a digit of the given base. -/
def digitIn? (base : Nat) (c : Char) : Option Nat :=
  (digitValue? c).filter (· < base)

/-- Reads on after a digit: each further digit may have one underscore before it, and
the text ends with a digit. `acc` is the value of the digits so far. -/
def digitsFrom (base acc : Nat) : List Char → Option Nat
  | [] => some acc
  | '_' :: c :: cs => (digitIn? base c).bind fun d => digitsFrom base (acc * base + d) cs
  | c :: cs => (digitIn? base c).bind fun d => digitsFrom base (acc * base + d) cs

/-- The value of a run of digits with single underscores between some of them. -/
def digitsValue (base : Nat) : List Char → Option Nat
  | [] => none
  | c :: cs => (digitIn? base c).bind fun d => digitsFrom base d cs

/-- The most digits a decimal numeral may have. -/
def maxDecimalDigits : Nat := 4300

/-- The value of a decimal run of digits, which must not be longer than
`maxDecimalDigits`. -/
def decimalValue (cs : List Char) : Option Nat :=
  if maxDecimalDigits < cs.countP (· != '_') then none else digitsValue 10 cs

/-- The digits after a base marker, which may be set off by one underscore. -/
def afterMarker : List Char → List Char
  | '_' :: cs => cs
  | cs => cs

/-- A magnitude in base sixteen, with or without its marker. -/
def hexMagnitude : List Char → Option Nat
  | '0' :: 'x' :: cs | '0' :: 'X' :: cs => digitsValue 16 (afterMarker cs)
  | cs => digitsValue 16 cs

/-- A magnitude whose base is told by its marker. Without a marker the base is ten,
and then only zero may begin with the digit `0`. -/
def markedMagnitude : List Char → Option Nat
  | '0' :: 'x' :: cs | '0' :: 'X' :: cs => digitsValue 16 (afterMarker cs)
  | '0' :: 'o' :: cs | '0' :: 'O' :: cs => digitsValue 8 (afterMarker cs)
  | '0' :: 'b' :: cs | '0' :: 'B' :: cs => digitsValue 2 (afterMarker cs)
  | '0' :: cs => (decimalValue ('0' :: cs)).filter (· = 0)
  | cs => decimalValue cs

/-- An integer: a magnitude after an optional sign, with blanks around both. -/
def readWith (magnitude : List Char → Option Nat) (text : List Char) : Option Int :=
  match Text.trimBy Text.isAsciiBlank (text.map plain) with
  | '-' :: cs => (magnitude cs).map fun n => -(n : Int)
  | '+' :: cs => (magnitude cs).map Int.ofNat
  | cs => (magnitude cs).map Int.ofNat

/-- An integer in base ten. -/
def read (text : List Char) : Option Int := readWith decimalValue text

/-- An integer in base sixteen. -/
def readHex (text : List Char) : Option Int := readWith hexMagnitude text

/-- An integer whose base is told by its marker. -/
def readMarked (text : List Char) : Option Int := readWith markedMagnitude text

end Chip8.Numeral
