/-!
# The keypad

Sixteen keys, numbered by their hexadecimal digits, each up or down.

* `Keypad`, `Keypad.released` — the state of every key, and all keys up
* `Keypad.ofList?`, `Keypad.states` — a keypad from a list with one entry for each key, and back
* `Keypad.firstReleased?` — the lowest key that went up between two states
* `Keypad.ofKeyName?` — the key that a key of a keyboard stands for
-/

namespace Chip8

/-- The number of a key. -/
abbrev Key := Fin 16

/-- For each key whether it is down. -/
structure Keypad where
  /-- The state of each key. -/
  down : Vector Bool 16
deriving DecidableEq

namespace Keypad

/-- The keypad with every key up. -/
def released : Keypad := ⟨Vector.replicate 16 false⟩

/-- Whether a key is down. -/
def isDown (k : Keypad) (key : Key) : Bool := k.down[key]

/-- The keypad with one key down or up. -/
def set (k : Keypad) (key : Key) (pressed : Bool) : Keypad := ⟨k.down.set key pressed⟩

/-- The keypad of a list with exactly one entry for each key. -/
def ofList? (states : List Bool) : Option Keypad :=
  if h : states.length = 16 then some ⟨⟨states.toArray, by simpa using h⟩⟩ else none

/-- For each key whether it is down, as a list. -/
def states (k : Keypad) : List Bool := k.down.toList

/-- The lowest key that was down before and is up now. -/
def firstReleased? (before now : Keypad) : Option Key :=
  (List.finRange 16).find? fun key => before.isDown key && !now.isDown key

/-- The key of the pad that a key of a keyboard stands for. The pad takes the four
columns under the digits `1` to `4`, and capital letters count as small ones. -/
def ofKeyName? (name : String) : Option Key :=
  match name.toLower with
  | "1" => some 0x1
  | "2" => some 0x2
  | "3" => some 0x3
  | "4" => some 0xC
  | "q" => some 0x4
  | "w" => some 0x5
  | "e" => some 0x6
  | "r" => some 0xD
  | "a" => some 0x7
  | "s" => some 0x8
  | "d" => some 0x9
  | "f" => some 0xE
  | "z" => some 0xA
  | "x" => some 0x0
  | "c" => some 0xB
  | "v" => some 0xF
  | _ => none

@[simp] theorem isDown_released (key : Key) : released.isDown key = false := by
  simp [isDown, released]

theorem ofList?_of_length {states : List Bool} (h : states.length = 16) :
    ∃ k, ofList? states = some k :=
  ⟨_, dif_pos h⟩

@[simp] theorem length_states (k : Keypad) : k.states.length = 16 := Vector.length_toList

@[simp] theorem ofList?_states (k : Keypad) : ofList? k.states = some k := by
  rw [ofList?, dif_pos (length_states k)]
  rfl

/-- With no key down before, no key was released. -/
theorem firstReleased?_of_released (now : Keypad) : firstReleased? released now = none := by
  simp [firstReleased?]

end Keypad

end Chip8
