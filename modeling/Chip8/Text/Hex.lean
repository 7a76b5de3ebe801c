/-!
# Hexadecimal numerals

Addresses, instruction words and data bytes are written in base sixteen with
the capital digits `0`–`9` and `A`–`F`, padded with zeros on the left.

* `Hex.digits` — the digits of a natural number, most significant first
* `Hex.numeral` — a natural number, at least `width` characters long
* `Hex.signed` — an integer: a minus sign counts towards the width
* `Hex.lower` — the same numeral with small letters, for byte dumps and escapes
-/

namespace Chip8.Hex

/-- The digits of `n` in base sixteen, most significant first, with capital letters. -/
def digits (n : Nat) : List Char :=
  (Nat.toDigits 16 n).map Char.toUpper

/-- `text` with zeros in front up to `width` characters; longer texts are kept whole. -/
def padded (width : Nat) (text : List Char) : List Char :=
  List.replicate (width - text.length) '0' ++ text

/-- A natural number in base sixteen, at least `width` digits long. -/
def numeral (width n : Nat) : String :=
  String.ofList (padded width (digits n))

/-- An integer in base sixteen. A negative number is a minus sign followed by its
magnitude, and the sign takes one of the `width` characters. -/
def signed (width : Nat) (n : Int) : String :=
  if n < 0 then
    String.ofList ('-' :: padded (width - 1) (digits n.natAbs))
  else
    numeral width n.toNat

/-- A natural number in base sixteen with small letters, at least `width` digits long. -/
def lower (width n : Nat) : String :=
  String.ofList (padded width (Nat.toDigits 16 n))

end Chip8.Hex
