import Chip8.Word

/-!
# The instruction set

The thirty-five instructions, each with the operands that its word carries. In
the patterns below `X` and `Y` are register numbers, `N` a digit, `NN` a byte
and `NNN` an address; `I` is the index register and `VF` the flag register.

* `Instruction` — one constructor per instruction
-/

namespace Chip8

/-- An instruction of the machine. -/
inductive Instruction where
  /-- `0NNN`: call machine code, which this machine cannot run. -/
  | sys (nnn : Address)
  /-- `00E0`: switch every pixel off. -/
  | cls
  /-- `00EE`: return from a subroutine. -/
  | ret
  /-- `1NNN`: go on at `NNN`. -/
  | jump (nnn : Address)
  /-- `2NNN`: call the subroutine at `NNN`. -/
  | call (nnn : Address)
  /-- `3XNN`: skip the next instruction if `VX` is `NN`. -/
  | skipIfByte (x : Register) (nn : UInt8)
  /-- `4XNN`: skip the next instruction unless `VX` is `NN`. -/
  | skipUnlessByte (x : Register) (nn : UInt8)
  /-- `5XY0`: skip the next instruction if `VX` is `VY`. -/
  | skipIfEqual (x y : Register)
  /-- `6XNN`: set `VX` to `NN`. -/
  | setByte (x : Register) (nn : UInt8)
  /-- `7XNN`: add `NN` to `VX`, without a flag. -/
  | addByte (x : Register) (nn : UInt8)
  /-- `8XY0`: set `VX` to `VY`. -/
  | copy (x y : Register)
  /-- `8XY1`: bitwise or of `VY` into `VX`. -/
  | or (x y : Register)
  /-- `8XY2`: bitwise and of `VY` into `VX`. -/
  | and (x y : Register)
  /-- `8XY3`: bitwise exclusive or of `VY` into `VX`. -/
  | xor (x y : Register)
  /-- `8XY4`: add `VY` to `VX`; the flag is the carry. -/
  | add (x y : Register)
  /-- `8XY5`: take `VY` from `VX`; the flag tells that nothing was borrowed. -/
  | sub (x y : Register)
  /-- `8XY6`: set `VX` to half of `VY`; the flag is the bit shifted out. -/
  | shiftRight (x y : Register)
  /-- `8XY7`: set `VX` to `VY` less `VX`; the flag tells that nothing was borrowed. -/
  | subFrom (x y : Register)
  /-- `8XYE`: set `VX` to twice `VY`; the flag is the bit shifted out. -/
  | shiftLeft (x y : Register)
  /-- `9XY0`: skip the next instruction unless `VX` is `VY`. -/
  | skipUnlessEqual (x y : Register)
  /-- `ANNN`: set `I` to `NNN`. -/
  | setIndex (nnn : Address)
  /-- `BNNN`: go on at `NNN` plus `V0`. -/
  | jumpOffset (nnn : Address)
  /-- `CXNN`: set `VX` to a random byte masked with `NN`. -/
  | random (x : Register) (nn : UInt8)
  /-- `DXYN`: draw `N` rows of sprite from `I` on at column `VX` and row `VY`. -/
  | draw (x y : Register) (n : Nibble)
  /-- `EX9E`: skip the next instruction if the key `VX` is down. -/
  | skipIfDown (x : Register)
  /-- `EXA1`: skip the next instruction unless the key `VX` is down. -/
  | skipUnlessDown (x : Register)
  /-- `FX07`: set `VX` to the delay timer. -/
  | getDelay (x : Register)
  /-- `FX0A`: wait for a key to be released and set `VX` to it. -/
  | awaitKey (x : Register)
  /-- `FX15`: set the delay timer to `VX`. -/
  | setDelay (x : Register)
  /-- `FX18`: set the sound timer to `VX`. -/
  | setSound (x : Register)
  /-- `FX1E`: add `VX` to `I`. -/
  | addIndex (x : Register)
  /-- `FX29`: set `I` to the sprite of the digit `VX`. -/
  | digitSprite (x : Register)
  /-- `FX33`: store the three decimal digits of `VX` from `I` on. -/
  | storeDecimal (x : Register)
  /-- `FX55`: store `V0` to `VX` from `I` on, and move `I` past them. -/
  | storeBlock (x : Register)
  /-- `FX65`: load `V0` to `VX` from `I` on, and move `I` past them. -/
  | loadBlock (x : Register)
deriving DecidableEq, Repr

end Chip8
