/-!
# Double-precision numbers

The positive finite numbers of the binary64 format, held exactly as a mantissa
times a power of two, and rounding of exact ratios to them.

* `Binary64` — a mantissa below `2 ^ 53` and an exponent of at least `-1074`
* `Binary64.ratio` — the number as a ratio of naturals
* `Binary64.nearest?` — the number nearest to a ratio, halves going to the even mantissa
* `Binary64.inverse?` — the number nearest to one over a number
-/

namespace Chip8

/-- The number `mantissa * 2 ^ exponent`. -/
structure Binary64 where
  /-- The mantissa, below `2 ^ 53`, and at least `2 ^ 52` unless the exponent is least. -/
  mantissa : Nat
  /-- The exponent of two, from `-1074` to `971`. -/
  exponent : Int
deriving DecidableEq, Repr

namespace Binary64

/-- The exponent of the smallest positive numbers. -/
def minExponent : Int := -1074

/-- The exponent of the largest numbers. -/
def maxExponent : Int := 971

/-- The number after the largest mantissa, `2 ^ 53`. -/
def mantissaEnd : Nat := 0x20000000000000

/-- `num / den * base ^ exponent` as a ratio of naturals. -/
def scaled (base num den : Nat) (exponent : Int) : Nat × Nat :=
  if exponent < 0 then (num, den * Nat.pow base exponent.natAbs)
  else (num * Nat.pow base exponent.natAbs, den)

/-- The number as a ratio of naturals. -/
def ratio (v : Binary64) : Nat × Nat := scaled 2 v.mantissa 1 v.exponent

/-- `num / den` rounded to a natural number; a half goes to the even neighbour. -/
def roundHalfEven (num den : Nat) : Nat :=
  let q := num / den
  let r := num % den
  if 2 * r < den ∨ (2 * r = den ∧ q % 2 = 0) then q else q + 1

/-- The exponent of the power of two at or just below `num / den`. -/
def floorLog2 (num den : Nat) : Int :=
  let e : Int := (num.log2 : Int) - den.log2
  let (a, b) := scaled 2 num den (-e)
  if b ≤ a then e else e - 1

/-- The double-precision number nearest to the positive ratio `num / den`, a half going
to the even mantissa; `none` when the ratio is too large for the format. -/
def nearest? (num den : Nat) : Option Binary64 :=
  let exponent := max minExponent (floorLog2 num den - 52)
  let (a, b) := scaled 2 num den (-exponent)
  let mantissa := roundHalfEven a b
  let result : Binary64 :=
    if mantissa = mantissaEnd then ⟨mantissaEnd / 2, exponent + 1⟩ else ⟨mantissa, exponent⟩
  if maxExponent < result.exponent then none else some result

/-- The double-precision number nearest to one over `v`. -/
def inverse? (v : Binary64) : Option Binary64 :=
  nearest? v.ratio.2 v.ratio.1

end Binary64

end Chip8
