/-!
# Blank characters

The characters that count as white space around a text, and trimming.

* `isAsciiBlank` — the six blanks of plain ASCII
* `isBlank` — every Unicode white-space character, and the four separators
  `U+001C`–`U+001F`
* `trim`, `trimRight` — a text without the blanks at its ends
-/

namespace Chip8.Text

/-- The six blanks of plain ASCII: tab, line feed, vertical tab, form feed, carriage
return and space. -/
def isAsciiBlank (c : Char) : Bool :=
  (9 ≤ c.toNat && c.toNat ≤ 13) || c.toNat == 32

/-- White space in the Unicode sense: the ASCII blanks, the information separators
`U+001C`–`U+001F`, the next-line and no-break characters, and the space separators. -/
def isBlank (c : Char) : Bool :=
  isAsciiBlank c || (0x1C ≤ c.toNat && c.toNat ≤ 0x1F) || c.toNat == 0x85 || c.toNat == 0xA0 ||
    c.toNat == 0x1680 || (0x2000 ≤ c.toNat && c.toNat ≤ 0x200A) || c.toNat == 0x2028 ||
    c.toNat == 0x2029 || c.toNat == 0x202F || c.toNat == 0x205F || c.toNat == 0x3000

/-- The characters of a text without those at its end that satisfy `drop`. -/
def trimRightBy (drop : Char → Bool) (cs : List Char) : List Char :=
  (cs.reverse.dropWhile drop).reverse

/-- The characters of a text without those at either end that satisfy `drop`. -/
def trimBy (drop : Char → Bool) (cs : List Char) : List Char :=
  trimRightBy drop (cs.dropWhile drop)

/-- A text without the blanks at both ends. -/
def trim (cs : List Char) : List Char := trimBy isBlank cs

/-- A text without the blanks at its end. -/
def trimRight (cs : List Char) : List Char := trimRightBy isBlank cs

end Chip8.Text
