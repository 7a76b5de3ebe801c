/-!
# Integers of 64 bits

Some quantities are kept in signed numbers of 64 bits, which not every integer
fits into.

* `fitsInt64` — whether an integer fits
* `wrapInt64` — what is left of an integer when it is made to fit
* `wrapInt64_of_fits` — an integer that fits is left as it is
-/

namespace Chip8

/-- Whether an integer fits into a signed 64-bit number. -/
def fitsInt64 (n : Int) : Bool := -0x8000000000000000 ≤ n && n ≤ 0x7FFFFFFFFFFFFFFF

/-- What is left of an integer in a signed 64-bit number: its bits above are lost. -/
def wrapInt64 (n : Int) : Int := n.bmod 0x10000000000000000

/-- An integer that fits is left as it is. -/
theorem wrapInt64_of_fits {n : Int} (h : fitsInt64 n = true) : wrapInt64 n = n := by
  simp only [fitsInt64, Bool.and_eq_true, decide_eq_true_eq] at h
  exact Int.bmod_eq_of_le (by omega) (by omega)

end Chip8
