import Chip8.Text.Numeral
import Chip8.Text.Quoted

/-!
# Colours

A colour has three components, red, green and blue, each a byte. In text it is
six hexadecimal digits, two for each component, after an optional `#`.

* `Colour` — three bytes
* `Colour.ofComponents?` — a colour from a list of integers
* `Colour.components` — its components as integers
* `Colour.parse` — the components that a text names
-/

namespace Chip8

/-- A colour. -/
structure Colour where
  /-- The red component. -/
  red : UInt8
  /-- The green component. -/
  green : UInt8
  /-- The blue component. -/
  blue : UInt8
deriving DecidableEq, Repr

/-- Why a text names no colour. -/
inductive ColourError where
  /-- Apart from blanks at its ends and marks before it, the text is not six characters
  long. -/
  | length (text : String)
  /-- Two characters that are no number in base sixteen. -/
  | component (pair : String)
deriving DecidableEq, Repr

/-- The report of a text that names no colour. -/
def ColourError.message : ColourError → String
  | length text => "expected a colour like #RRGGBB, got " ++ Quoted.quote text
  | component pair => "invalid literal for int() with base 16: " ++ Quoted.quote pair

namespace Colour

/-- White. -/
def white : Colour := ⟨255, 255, 255⟩

/-- Black. -/
def black : Colour := ⟨0, 0, 0⟩

/-- Whether an integer can be a component of a colour. -/
def isComponent (c : Int) : Bool := 0 ≤ c && c ≤ 255

/-- The colour with the given components, if there are three and each is a byte. -/
def ofComponents? : List Int → Option Colour
  | [r, g, b] =>
    if [r, g, b].all isComponent then
      some ⟨UInt8.ofNat r.toNat, UInt8.ofNat g.toNat, UInt8.ofNat b.toNat⟩
    else none
  | _ => none

/-- The components of a colour. -/
def components (c : Colour) : List Int := [c.red.toNat, c.green.toNat, c.blue.toNat]

/-- The component that two characters stand for. Each pair is read as an integer of its
own, so that a blank or a sign may stand in it. -/
def component (c d : Char) : Except ColourError Int :=
  match Numeral.readHex [c, d] with
  | some n => .ok n
  | none => .error (.component (String.ofList [c, d]))

/-- The components that a text names: blanks around it and every `#` before it do not
count, and six characters must be left. -/
def parse (text : String) : Except ColourError (List Int) :=
  match (Text.trim text.toList).dropWhile (· = '#') with
  | [a, b, c, d, e, f] => do
    let red ← component a b
    let green ← component c d
    let blue ← component e f
    .ok [red, green, blue]
  | _ => .error (.length text)

theorem ofComponents?_components (c : Colour) : ofComponents? c.components = some c := by
  obtain ⟨r, g, b⟩ := c
  have hr := r.toNat_lt
  have hg := g.toNat_lt
  have hb := b.toNat_lt
  simp only [components, ofComponents?, isComponent, List.all_cons, List.all_nil, Bool.and_true]
  rw [if_pos (by simp; omega)]
  simp

end Colour

end Chip8
