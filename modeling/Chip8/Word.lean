/-!
# Instruction words

An instruction word is sixteen bits, written as four hexadecimal digits. The
first digit tells the family of the instruction; the others are its operands,
alone or joined into a byte or an address.

* `Word` — four hexadecimal digits
* `Word.ofBytes`, `Word.toNat`, `Word.ofInt?` — words, bytes and numbers
* `Word.nn`, `Word.nnn` — the byte and the address that a word ends in
* `Word.withByte`, `Word.withAddress` — the word with a given byte or address
-/

namespace Chip8

/-- The number of a register, `V0` to `VF`. -/
abbrev Register := Fin 16

/-- One hexadecimal digit. -/
abbrev Nibble := Fin 16

/-- There are digits, so that numerals stand for them. -/
instance digitsNonempty : @NeZero Nat ⟨0⟩ 16 := ⟨Nat.succ_ne_zero 15⟩

/-- An address that fits into an instruction: three hexadecimal digits. -/
abbrev Address := Fin 4096

/-- A sixteen-bit word as its four hexadecimal digits, most significant first. -/
structure Word where
  /-- The first digit, which tells the family. -/
  family : Nibble
  /-- The second digit, most often the number of a register. -/
  x : Nibble
  /-- The third digit, often the number of a second register. -/
  y : Nibble
  /-- The last digit. -/
  n : Nibble
deriving DecidableEq, Repr

namespace Word

/-- The high digit of a byte. -/
def highDigit (b : UInt8) : Nibble := ⟨b.toNat / 16, by have := b.toNat_lt; omega⟩

/-- The low digit of a byte. -/
def lowDigit (b : UInt8) : Nibble := ⟨b.toNat % 16, by omega⟩

/-- The byte written with two digits. -/
def byteOf (high low : Nibble) : UInt8 := UInt8.ofNat (16 * high.val + low.val)

/-- The word of two bytes, the more significant first. -/
def ofBytes (high low : UInt8) : Word :=
  ⟨highDigit high, lowDigit high, highDigit low, lowDigit low⟩

/-- The two bytes of a word, the more significant first. -/
def bytes (w : Word) : UInt8 × UInt8 := (byteOf w.family w.x, byteOf w.y w.n)

/-- The word as a number below `2 ^ 16`. -/
def toNat (w : Word) : Nat :=
  4096 * w.family.val + 256 * w.x.val + 16 * w.y.val + w.n.val

/-- The word of a number below `2 ^ 16`. -/
def ofNat (k : Nat) (h : k < 65536) : Word :=
  ⟨⟨k / 4096, by omega⟩, ⟨k / 256 % 16, by omega⟩, ⟨k / 16 % 16, by omega⟩, ⟨k % 16, by omega⟩⟩

/-- The word of an integer, if the integer fits into sixteen bits. -/
def ofInt? (k : Int) : Option Word :=
  if h : 0 ≤ k ∧ k < 65536 then some (ofNat k.toNat (by omega)) else none

/-- The byte made of the last two digits. -/
def nn (w : Word) : UInt8 := byteOf w.y w.n

/-- The address made of the last three digits. -/
def nnn (w : Word) : Address := ⟨256 * w.x.val + 16 * w.y.val + w.n.val, by omega⟩

/-- The word of a family with a register and a byte. -/
def withByte (family x : Nibble) (nn : UInt8) : Word :=
  ⟨family, x, highDigit nn, lowDigit nn⟩

/-- The word of a family with an address. -/
def withAddress (family : Nibble) (nnn : Address) : Word :=
  ⟨family, ⟨nnn.val / 256, by omega⟩, ⟨nnn.val / 16 % 16, by omega⟩, ⟨nnn.val % 16, by omega⟩⟩

/-! ## Digits and bytes -/

@[simp] theorem byteOf_digits (b : UInt8) : byteOf (highDigit b) (lowDigit b) = b := by
  apply UInt8.toNat_inj.1
  have := b.toNat_lt
  simp only [byteOf, highDigit, lowDigit, UInt8.toNat_ofNat']
  omega

@[simp] theorem highDigit_byteOf (high low : Nibble) : highDigit (byteOf high low) = high := by
  apply Fin.ext
  simp only [byteOf, highDigit, UInt8.toNat_ofNat']
  omega

@[simp] theorem lowDigit_byteOf (high low : Nibble) : lowDigit (byteOf high low) = low := by
  apply Fin.ext
  simp only [byteOf, lowDigit, UInt8.toNat_ofNat']
  omega

/-! ## Operands -/

@[simp] theorem nn_withByte (family x : Nibble) (nn : UInt8) :
    (withByte family x nn).nn = nn := by
  simp [withByte, Word.nn]

@[simp] theorem nnn_withAddress (family : Nibble) (nnn : Address) :
    (withAddress family nnn).nnn = nnn := by
  apply Fin.ext
  simp only [withAddress, Word.nnn]
  omega

@[simp] theorem withByte_nn (w : Word) : withByte w.family w.x w.nn = w := by
  simp [withByte, nn]

@[simp] theorem withAddress_nnn (w : Word) : withAddress w.family w.nnn = w := by
  obtain ⟨family, x, y, n⟩ := w
  simp only [withAddress, nnn, mk.injEq, true_and]
  refine ⟨Fin.ext ?_, Fin.ext ?_, Fin.ext ?_⟩ <;> simp only <;> omega

/-! ## Numbers -/

theorem toNat_lt (w : Word) : w.toNat < 65536 := by
  simp only [toNat]
  omega

@[simp] theorem toNat_ofNat (k : Nat) (h : k < 65536) : (ofNat k h).toNat = k := by
  simp only [ofNat, toNat]
  omega

@[simp] theorem ofNat_toNat (w : Word) : ofNat w.toNat w.toNat_lt = w := by
  obtain ⟨family, x, y, n⟩ := w
  simp only [ofNat, toNat, mk.injEq]
  refine ⟨Fin.ext ?_, Fin.ext ?_, Fin.ext ?_, Fin.ext ?_⟩ <;> simp only <;> omega

@[simp] theorem ofInt?_toNat (w : Word) : ofInt? w.toNat = some w := by
  have := w.toNat_lt
  rw [ofInt?, dif_pos (by omega)]
  simp

theorem toNat_inj {w w' : Word} (h : w.toNat = w'.toNat) : w = w' := by
  have hword := ofInt?_toNat w
  rw [h, ofInt?_toNat] at hword
  exact (Option.some.inj hword).symm

theorem ofInt?_eq_none_iff (k : Int) : ofInt? k = none ↔ k < 0 ∨ 65535 < k := by
  simp only [ofInt?, dite_eq_right_iff, reduceCtorEq, imp_false]
  omega

end Word

end Chip8
