import Chip8.Text.Quoted

/-!
# Text in seven bits

Some texts must be made of the one hundred and twenty-eight characters of ASCII. A
text that is not is refused by its first characters that are none of them.

* `Ascii.isAscii` — whether a character is one of them
* `NotAscii` — the first characters of a text that are not
* `Ascii.offence?` — what a text is refused by
-/

namespace Chip8

/-- The first characters of a text that are not of ASCII. -/
structure NotAscii where
  /-- The number of characters before them. -/
  position : Nat
  /-- The first of them. -/
  first : Char
  /-- The number of those that follow it at once. -/
  more : Nat
deriving DecidableEq, Repr

/-- The report of a text that is not in ASCII. One character is shown by its number, and
of several the places are told. -/
def NotAscii.message (e : NotAscii) : String :=
  let what :=
    if e.more = 0 then
      s!"character '{String.ofList (Quoted.numbered e.first)}' in position {e.position}"
    else s!"characters in position {e.position}-{e.position + e.more}"
  s!"'ascii' codec can't encode {what}: ordinal not in range(128)"

namespace Ascii

/-- Whether a character is of ASCII. -/
def isAscii (c : Char) : Bool := c.toNat < 128

/-- The first characters of a text that are not of ASCII, if there are any. -/
def offence? (cs : List Char) : Option NotAscii :=
  match cs.dropWhile isAscii with
  | [] => none
  | first :: rest =>
    some ⟨(cs.takeWhile isAscii).length, first, (rest.takeWhile (!isAscii ·)).length⟩

end Ascii

end Chip8
