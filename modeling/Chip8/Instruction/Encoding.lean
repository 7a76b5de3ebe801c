import Chip8.Instruction
import Chip8.Text.Hex

/-!
# Words and instructions

Decoding reads the pattern of a word off its digits; encoding writes the operands
back into the pattern.

* `Instruction.decode?` — the instruction of a word, if a pattern matches it
* `Instruction.encode` — the word of an instruction
* `Instruction.decode` — the instruction of an integer, or why there is none
* `encode_of_decode?` — decoding loses no operand
* `decode?_encode` — every instruction is decoded from its word, but `0NNN` at the
  two addresses whose words mean something else
-/

namespace Chip8

/-- Why an integer is no instruction. -/
inductive DecodeError where
  /-- The integer does not fit into a word. -/
  | outOfRange (n : Int)
  /-- No pattern matches the word. -/
  | unknown (word : Word)
deriving DecidableEq, Repr

/-- The report of an integer that is no instruction. -/
def DecodeError.message : DecodeError → String
  | outOfRange n => s!"instruction word out of range: {n}"
  | unknown word => "unknown instruction: 0x" ++ Hex.numeral 4 word.toNat

namespace Instruction

/-- The instruction of a word; `none` when no pattern matches. The words `00E0` and
`00EE` are instructions of their own before they are calls of machine code. -/
def decode? (w : Word) : Option Instruction :=
  match w with
  | ⟨0x0, 0x0, 0xE, 0x0⟩ => some cls
  | ⟨0x0, 0x0, 0xE, 0xE⟩ => some ret
  | ⟨0x0, _, _, _⟩ => some (sys w.nnn)
  | ⟨0x1, _, _, _⟩ => some (jump w.nnn)
  | ⟨0x2, _, _, _⟩ => some (call w.nnn)
  | ⟨0x3, x, _, _⟩ => some (skipIfByte x w.nn)
  | ⟨0x4, x, _, _⟩ => some (skipUnlessByte x w.nn)
  | ⟨0x5, x, y, 0x0⟩ => some (skipIfEqual x y)
  | ⟨0x6, x, _, _⟩ => some (setByte x w.nn)
  | ⟨0x7, x, _, _⟩ => some (addByte x w.nn)
  | ⟨0x8, x, y, 0x0⟩ => some (copy x y)
  | ⟨0x8, x, y, 0x1⟩ => some (or x y)
  | ⟨0x8, x, y, 0x2⟩ => some (and x y)
  | ⟨0x8, x, y, 0x3⟩ => some (xor x y)
  | ⟨0x8, x, y, 0x4⟩ => some (add x y)
  | ⟨0x8, x, y, 0x5⟩ => some (sub x y)
  | ⟨0x8, x, y, 0x6⟩ => some (shiftRight x y)
  | ⟨0x8, x, y, 0x7⟩ => some (subFrom x y)
  | ⟨0x8, x, y, 0xE⟩ => some (shiftLeft x y)
  | ⟨0x9, x, y, 0x0⟩ => some (skipUnlessEqual x y)
  | ⟨0xA, _, _, _⟩ => some (setIndex w.nnn)
  | ⟨0xB, _, _, _⟩ => some (jumpOffset w.nnn)
  | ⟨0xC, x, _, _⟩ => some (random x w.nn)
  | ⟨0xD, x, y, n⟩ => some (draw x y n)
  | ⟨0xE, x, 0x9, 0xE⟩ => some (skipIfDown x)
  | ⟨0xE, x, 0xA, 0x1⟩ => some (skipUnlessDown x)
  | ⟨0xF, x, 0x0, 0x7⟩ => some (getDelay x)
  | ⟨0xF, x, 0x0, 0xA⟩ => some (awaitKey x)
  | ⟨0xF, x, 0x1, 0x5⟩ => some (setDelay x)
  | ⟨0xF, x, 0x1, 0x8⟩ => some (setSound x)
  | ⟨0xF, x, 0x1, 0xE⟩ => some (addIndex x)
  | ⟨0xF, x, 0x2, 0x9⟩ => some (digitSprite x)
  | ⟨0xF, x, 0x3, 0x3⟩ => some (storeDecimal x)
  | ⟨0xF, x, 0x5, 0x5⟩ => some (storeBlock x)
  | ⟨0xF, x, 0x6, 0x5⟩ => some (loadBlock x)
  | _ => none

/-- The instruction of an integer. -/
def decode (n : Int) : Except DecodeError Instruction :=
  match Word.ofInt? n with
  | none => .error (.outOfRange n)
  | some word =>
    match decode? word with
    | none => .error (.unknown word)
    | some i => .ok i

theorem decode_toNat (w : Word) :
    decode w.toNat = match decode? w with
      | some i => .ok i
      | none => .error (.unknown w) := by
  rw [decode, Word.ofInt?_toNat]
  cases hdecode : decode? w with
  | none => simp only [hdecode]
  | some i => simp only [hdecode]

/-- The word whose pattern the instruction fills in. -/
def encode : Instruction → Word
  | sys nnn => .withAddress 0x0 nnn
  | cls => ⟨0x0, 0x0, 0xE, 0x0⟩
  | ret => ⟨0x0, 0x0, 0xE, 0xE⟩
  | jump nnn => .withAddress 0x1 nnn
  | call nnn => .withAddress 0x2 nnn
  | skipIfByte x nn => .withByte 0x3 x nn
  | skipUnlessByte x nn => .withByte 0x4 x nn
  | skipIfEqual x y => ⟨0x5, x, y, 0x0⟩
  | setByte x nn => .withByte 0x6 x nn
  | addByte x nn => .withByte 0x7 x nn
  | copy x y => ⟨0x8, x, y, 0x0⟩
  | or x y => ⟨0x8, x, y, 0x1⟩
  | and x y => ⟨0x8, x, y, 0x2⟩
  | xor x y => ⟨0x8, x, y, 0x3⟩
  | add x y => ⟨0x8, x, y, 0x4⟩
  | sub x y => ⟨0x8, x, y, 0x5⟩
  | shiftRight x y => ⟨0x8, x, y, 0x6⟩
  | subFrom x y => ⟨0x8, x, y, 0x7⟩
  | shiftLeft x y => ⟨0x8, x, y, 0xE⟩
  | skipUnlessEqual x y => ⟨0x9, x, y, 0x0⟩
  | setIndex nnn => .withAddress 0xA nnn
  | jumpOffset nnn => .withAddress 0xB nnn
  | random x nn => .withByte 0xC x nn
  | draw x y n => ⟨0xD, x, y, n⟩
  | skipIfDown x => ⟨0xE, x, 0x9, 0xE⟩
  | skipUnlessDown x => ⟨0xE, x, 0xA, 0x1⟩
  | getDelay x => ⟨0xF, x, 0x0, 0x7⟩
  | awaitKey x => ⟨0xF, x, 0x0, 0xA⟩
  | setDelay x => ⟨0xF, x, 0x1, 0x5⟩
  | setSound x => ⟨0xF, x, 0x1, 0x8⟩
  | addIndex x => ⟨0xF, x, 0x1, 0xE⟩
  | digitSprite x => ⟨0xF, x, 0x2, 0x9⟩
  | storeDecimal x => ⟨0xF, x, 0x3, 0x3⟩
  | storeBlock x => ⟨0xF, x, 0x5, 0x5⟩
  | loadBlock x => ⟨0xF, x, 0x6, 0x5⟩

/-- Writing the operands of a decoded word back into the pattern gives the word. -/
theorem encode_of_decode? {w : Word} {i : Instruction} (h : decode? w = some i) :
    encode i = w := by
  unfold decode? at h
  split at h <;> cases h <;>
    first
      | rfl
      | exact Word.withByte_nn ⟨_, _, _, _⟩
      | exact Word.withAddress_nnn ⟨_, _, _, _⟩

/-- A word of family zero is a call of machine code unless it is `00E0` or `00EE`. -/
theorem decode?_family_zero {x y n : Nibble} (hcls : (⟨0, x, y, n⟩ : Word) ≠ ⟨0, 0, 0xE, 0⟩)
    (hret : (⟨0, x, y, n⟩ : Word) ≠ ⟨0, 0, 0xE, 0xE⟩) :
    decode? ⟨0, x, y, n⟩ = some (sys (Word.nnn ⟨0, x, y, n⟩)) := by
  unfold decode?
  split
  · next heq => exact absurd heq hcls
  · next heq => exact absurd heq hret
  · rfl
  all_goals try (rename_i heq; exact absurd (Word.mk.inj heq).1 (by decide))
  · exact (‹∀ x' y' n' : Nibble, (⟨0, x, y, n⟩ : Word) = ⟨0, x', y', n'⟩ → False› _ _ _ rfl).elim

/-- Every instruction is decoded from its word, but for the calls of machine code at the
addresses `0E0` and `0EE`, whose words clear the screen and return. -/
theorem decode?_encode {i : Instruction} (hcls : i ≠ sys 0x0E0) (hret : i ≠ sys 0x0EE) :
    decode? (encode i) = some i := by
  cases i with
  | sys nnn =>
    have h : decode? (Word.withAddress 0 nnn) = some (sys (Word.withAddress 0 nnn).nnn) := by
      refine decode?_family_zero (fun hw => hcls ?_) (fun hw => hret ?_) <;>
        · rw [← Word.nnn_withAddress 0 nnn]
          exact congrArg (fun w => sys (Word.nnn w)) hw
    rw [Word.nnn_withAddress] at h
    exact h
  | jump nnn => exact congrArg (some ∘ jump) (Word.nnn_withAddress 0x1 nnn)
  | call nnn => exact congrArg (some ∘ call) (Word.nnn_withAddress 0x2 nnn)
  | setIndex nnn => exact congrArg (some ∘ setIndex) (Word.nnn_withAddress 0xA nnn)
  | jumpOffset nnn => exact congrArg (some ∘ jumpOffset) (Word.nnn_withAddress 0xB nnn)
  | skipIfByte x nn => exact congrArg (some ∘ skipIfByte x) (Word.nn_withByte 0x3 x nn)
  | skipUnlessByte x nn => exact congrArg (some ∘ skipUnlessByte x) (Word.nn_withByte 0x4 x nn)
  | setByte x nn => exact congrArg (some ∘ setByte x) (Word.nn_withByte 0x6 x nn)
  | addByte x nn => exact congrArg (some ∘ addByte x) (Word.nn_withByte 0x7 x nn)
  | random x nn => exact congrArg (some ∘ random x) (Word.nn_withByte 0xC x nn)
  | _ => rfl

/-- Of the words `0NNN`, all but two are calls of machine code. -/
theorem decode?_withAddress_zero_iff {nnn : Address} :
    decode? (.withAddress 0x0 nnn) = some (sys nnn) ↔ nnn ≠ 0x0E0 ∧ nnn ≠ 0x0EE := by
  constructor
  · intro h
    constructor
    · rintro rfl
      exact absurd (Option.some.inj h) (by decide : cls ≠ sys 0x0E0)
    · rintro rfl
      exact absurd (Option.some.inj h) (by decide : ret ≠ sys 0x0EE)
  · rintro ⟨hcls, hret⟩
    exact decode?_encode (i := sys nnn) (by simpa using hcls) (by simpa using hret)

theorem decode?_withAddress_two (nnn : Address) :
    decode? (.withAddress 0x2 nnn) = some (call nnn) :=
  decode?_encode (i := call nnn) (by simp) (by simp)

end Instruction

end Chip8
