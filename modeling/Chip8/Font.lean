/-!
# The digit font

Each hexadecimal digit has a built-in sprite of five rows, four pixels wide. The
sixteen sprites stand one after another at the start of memory.

* `Font.sprites` — the rows of all sprites, digit by digit
* `Font.address` — where the sprite of a digit starts
-/

namespace Chip8.Font

/-- The number of rows of a digit sprite. -/
def height : Nat := 5

/-- The rows of the sprites of the digits `0` to `F`, the leftmost pixel in the highest
bit. -/
def sprites : Vector UInt8 80 :=
  #v[0xF0, 0x90, 0x90, 0x90, 0xF0,
     0x20, 0x60, 0x20, 0x20, 0x70,
     0xF0, 0x10, 0xF0, 0x80, 0xF0,
     0xF0, 0x10, 0xF0, 0x10, 0xF0,
     0x90, 0x90, 0xF0, 0x10, 0x10,
     0xF0, 0x80, 0xF0, 0x10, 0xF0,
     0xF0, 0x80, 0xF0, 0x90, 0xF0,
     0xF0, 0x10, 0x20, 0x40, 0x40,
     0xF0, 0x90, 0xF0, 0x90, 0xF0,
     0xF0, 0x90, 0xF0, 0x10, 0xF0,
     0xF0, 0x90, 0xF0, 0x90, 0x90,
     0xE0, 0x90, 0xE0, 0x90, 0xE0,
     0xF0, 0x80, 0x80, 0x80, 0xF0,
     0xE0, 0x90, 0x90, 0x90, 0xE0,
     0xF0, 0x80, 0xF0, 0x80, 0xF0,
     0xF0, 0x80, 0xF0, 0x80, 0x80]

/-- The address of the sprite of a digit. Of other numbers the lowest hexadecimal digit
counts. -/
def address (digit : Int) : Int := digit % 16 * height

/-- Every digit sprite lies inside the font. -/
theorem address_mem (digit : Int) : 0 ≤ address digit ∧ address digit + height ≤ 80 := by
  simp only [address, height]
  omega

end Chip8.Font
