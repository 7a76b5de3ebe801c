import Chip8.Text.Hex
import Chip8.Text.Printable

/-!
# Quoted text

Messages show a piece of the user's text between quotation marks. The mark is
the apostrophe, unless the text holds an apostrophe and no quotation mark.
Inside, the mark and the backslash are written with a backslash before them, and
characters that do not print are written as escapes.

* `Quoted.mark` — the quotation mark chosen for a text
* `Quoted.numbered` — a character as its number
* `Quoted.escape` — how one character is written
* `Quoted.quote` — the whole quoted text
-/

namespace Chip8.Quoted

/-- The mark around a text: an apostrophe, unless the text holds one and no quotation
mark. -/
def mark (cs : List Char) : Char :=
  if cs.contains '\'' && !cs.contains '"' then '"' else '\''

/-- A character as its number, in as many digits as the number needs. -/
def numbered (c : Char) : List Char :=
  if c.toNat < 0x100 then '\\' :: 'x' :: (Hex.lower 2 c.toNat).toList
  else if c.toNat < 0x10000 then '\\' :: 'u' :: (Hex.lower 4 c.toNat).toList
  else '\\' :: 'U' :: (Hex.lower 8 c.toNat).toList

/-- One character of a text quoted with `mark`. -/
def escape (mark c : Char) : List Char :=
  if c = mark ∨ c = '\\' then ['\\', c]
  else if c = '\t' then ['\\', 't']
  else if c = '\n' then ['\\', 'n']
  else if c = '\r' then ['\\', 'r']
  else if Text.isPrintable c then [c]
  else numbered c

/-- A text between quotation marks, with what does not print escaped. -/
def quote (text : String) : String :=
  let cs := text.toList
  String.ofList (mark cs :: cs.flatMap (escape (mark cs)) ++ [mark cs])

end Chip8.Quoted
