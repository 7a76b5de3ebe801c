import Chip8.Text.Case

/-!
# Small letters

A text in small letters: every character is replaced by its small form. Two
letters need more than a table. The dotted capital `İ` becomes two characters, and
the capital sigma has a form of its own at the end of a word.

* `endsWord` — whether a letter stands at the end of a word
* `lower` — a text in small letters
-/

namespace Chip8.Text

/-- Whether a letter with `before` in front of it, the nearest first, and `after` behind
it ends a word: a letter with a case comes before and none comes after, where characters
that are passed over do not count. -/
def endsWord (before after : List Char) : Bool :=
  (before.dropWhile isCaseIgnorable).head?.any isCased &&
    !(after.dropWhile isCaseIgnorable).head?.any isCased

/-- The small form of a character between others. -/
def lowerBetween (before : List Char) (c : Char) (after : List Char) : List Char :=
  if c = 'İ' then ['i', '\u0307']
  else if c = 'Σ' then [if endsWord before after then 'ς' else 'σ']
  else [smallOf c]

/-- What comes after `before`, the nearest first, in small letters. -/
def lowerFrom (before : List Char) : List Char → List Char
  | [] => []
  | c :: rest => lowerBetween before c rest ++ lowerFrom (c :: before) rest

/-- A text in small letters. -/
def lower (cs : List Char) : List Char := lowerFrom [] cs

end Chip8.Text
