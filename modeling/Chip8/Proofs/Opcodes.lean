import Chip8.Instruction.Text
import Chip8.Proofs.Patterns

/-!
# Opcodes

The instruction set is documented with opcodes. An opcode is written with four symbols. A symbol
is a hexadecimal digit or the letter of an operand: `X` and `Y` are numbers of registers, and as
many `N` as there are stand for one number, digit by digit.

* `Opcode.Symbol`, `Opcode` — opcodes as they are written, and the words that they match
* `Opcode.write` — the number in which operands replace the letters
* `Instruction.opcode`, `opcodes` — the opcode of an instruction, and all thirty-five of them
* `Instruction.write_operands` — the operands of an instruction replace the letters by the digits
  of its word
* `Instruction.opcode_of_decode?` — opcodes are told apart, but for those that `0NNN` includes
* `Instruction.decode_exact` — what is decoded, what is not, and which instructions that gives
-/

namespace Chip8

/-! ## Opcodes as they are written -/

/-- A symbol of an opcode. -/
inductive Opcode.Symbol where
  /-- A digit. -/
  | digit (d : Nibble)
  /-- The number of a register. -/
  | X
  /-- The number of a second register. -/
  | Y
  /-- A digit of a number. -/
  | N
deriving DecidableEq, Repr

/-- Numerals stand for digits. -/
instance symbolsOfNat (d : Nat) : OfNat Opcode.Symbol d := ⟨.digit (.ofNat 16 d)⟩

/-- The digit that a symbol asks for. -/
def Opcode.Symbol.fixed? : Opcode.Symbol → Option Nibble
  | digit d => some d
  | X | Y | N => none

/-- An opcode: four symbols, of which the first is a digit. -/
structure Opcode where
  /-- The first symbol. -/
  family : Nibble
  /-- The second symbol. -/
  x : Opcode.Symbol
  /-- The third symbol. -/
  y : Opcode.Symbol
  /-- The last symbol. -/
  n : Opcode.Symbol
deriving DecidableEq, Repr

/-- The number that stands behind one of some labels; `0` if there is none. -/
def Opcode.labelled (operands : List (String × Nat)) (labels : List String) : Nat :=
  ((operands.find? (·.1 ∈ labels)).map Prod.snd).getD 0

@[simp] theorem Opcode.labelled_nil (labels : List String) : labelled [] labels = 0 := rfl

@[simp] theorem Opcode.labelled_cons (label : String) (k : Nat) (operands : List (String × Nat))
    (labels : List String) :
    labelled ((label, k) :: operands) labels =
      if label ∈ labels then k else labelled operands labels := by
  by_cases h : label ∈ labels
  · simp [labelled, h]
  · simp [labelled, h]

/-- The digit by which operands replace a symbol, which counts `weight` times in the word. -/
def Opcode.Symbol.value (operands : List (String × Nat)) (weight : Nat) : Opcode.Symbol → Nat
  | digit d => d
  | X => labelled operands ["vx"]
  | Y => labelled operands ["vy"]
  | N => labelled operands ["n", "nn", "nnn"] / weight % 16

namespace Opcode

/-- The digits of an opcode. -/
def pattern (o : Opcode) : Pattern := ⟨o.family, o.x.fixed?, o.y.fixed?, o.n.fixed?⟩

/-- A word matches an opcode if it has the same digits, whatever stands at the letters. -/
def Matches (o : Opcode) (w : Word) : Prop := o.pattern.Matches w

/-- The number in which operands replace the letters of an opcode. -/
def write (o : Opcode) (operands : List (String × Nat)) : Nat :=
  4096 * o.family + 256 * o.x.value operands 256 + 16 * o.y.value operands 16 +
    o.n.value operands 1

end Opcode

/-! ## The opcode of an instruction -/

namespace Instruction

open Opcode.Symbol

/-- The opcode of an instruction. -/
def opcode : Instruction → Opcode
  | sys _ => ⟨0x0, N, N, N⟩
  | cls => ⟨0x0, 0x0, 0xE, 0x0⟩
  | ret => ⟨0x0, 0x0, 0xE, 0xE⟩
  | jump _ => ⟨0x1, N, N, N⟩
  | call _ => ⟨0x2, N, N, N⟩
  | skipIfByte _ _ => ⟨0x3, X, N, N⟩
  | skipUnlessByte _ _ => ⟨0x4, X, N, N⟩
  | skipIfEqual _ _ => ⟨0x5, X, Y, 0x0⟩
  | setByte _ _ => ⟨0x6, X, N, N⟩
  | addByte _ _ => ⟨0x7, X, N, N⟩
  | copy _ _ => ⟨0x8, X, Y, 0x0⟩
  | or _ _ => ⟨0x8, X, Y, 0x1⟩
  | and _ _ => ⟨0x8, X, Y, 0x2⟩
  | xor _ _ => ⟨0x8, X, Y, 0x3⟩
  | add _ _ => ⟨0x8, X, Y, 0x4⟩
  | sub _ _ => ⟨0x8, X, Y, 0x5⟩
  | shiftRight _ _ => ⟨0x8, X, Y, 0x6⟩
  | subFrom _ _ => ⟨0x8, X, Y, 0x7⟩
  | shiftLeft _ _ => ⟨0x8, X, Y, 0xE⟩
  | skipUnlessEqual _ _ => ⟨0x9, X, Y, 0x0⟩
  | setIndex _ => ⟨0xA, N, N, N⟩
  | jumpOffset _ => ⟨0xB, N, N, N⟩
  | random _ _ => ⟨0xC, X, N, N⟩
  | draw _ _ _ => ⟨0xD, X, Y, N⟩
  | skipIfDown _ => ⟨0xE, X, 0x9, 0xE⟩
  | skipUnlessDown _ => ⟨0xE, X, 0xA, 0x1⟩
  | getDelay _ => ⟨0xF, X, 0x0, 0x7⟩
  | awaitKey _ => ⟨0xF, X, 0x0, 0xA⟩
  | setDelay _ => ⟨0xF, X, 0x1, 0x5⟩
  | setSound _ => ⟨0xF, X, 0x1, 0x8⟩
  | addIndex _ => ⟨0xF, X, 0x1, 0xE⟩
  | digitSprite _ => ⟨0xF, X, 0x2, 0x9⟩
  | storeDecimal _ => ⟨0xF, X, 0x3, 0x3⟩
  | storeBlock _ => ⟨0xF, X, 0x5, 0x5⟩
  | loadBlock _ => ⟨0xF, X, 0x6, 0x5⟩

/-- One instruction for each opcode, with given operands. -/
def specimens (x : Register) (nn : UInt8) (nnn : Address) : List Instruction :=
  [sys nnn, cls, ret, jump nnn, call nnn, skipIfByte x nn, skipUnlessByte x nn, skipIfEqual x x,
    setByte x nn, addByte x nn, copy x x, or x x, and x x, xor x x, add x x, sub x x,
    shiftRight x x, subFrom x x, shiftLeft x x, skipUnlessEqual x x, setIndex nnn, jumpOffset nnn,
    random x nn, draw x x x, skipIfDown x, skipUnlessDown x, getDelay x, awaitKey x, setDelay x,
    setSound x, addIndex x, digitSprite x, storeDecimal x, storeBlock x, loadBlock x]

end Instruction

/-- The opcodes of the instruction set, whichever operands the instructions have. -/
def opcodes : List Opcode :=
  (Instruction.specimens (.last 15) (.ofNat 255) (.last 4095)).map Instruction.opcode

namespace Instruction

open Opcode.Symbol

variable {i j : Instruction} {w : Word}

theorem opcode_mem (i : Instruction) : i.opcode ∈ opcodes := by
  cases i <;> simp only [opcode] <;> decide

theorem mem_opcodes_iff {o : Opcode} : o ∈ opcodes ↔ ∃ i : Instruction, i.opcode = o := by
  constructor
  · intro ho
    obtain ⟨i, -, hi⟩ := List.mem_map.1 ho
    exact ⟨i, hi⟩
  · rintro ⟨i, rfl⟩
    exact opcode_mem i

theorem pattern_opcode (i : Instruction) : i.opcode.pattern = i.pattern := by
  cases i <;> rfl

/-! ## Operands -/

/-- Numbers of registers and single digits are below sixteen, and bytes and addresses have two and
three digits. -/
theorem operands_lt (i : Instruction) :
    ∀ operand ∈ i.operands,
      operand.1 ∈ ["vx", "vy", "n"] ∧ operand.2 < 16 ∨
        operand.1 = "nn" ∧ operand.2 < 256 ∨ operand.1 = "nnn" ∧ operand.2 < 4096 := by
  cases i with
  | skipIfByte x nn | skipUnlessByte x nn | setByte x nn | addByte x nn | random x nn =>
    have hbyte : nn.toNat < 256 := nn.toNat_lt
    simp [operands, hbyte]
  | _ => simp [operands]

theorem write_address (family : Nibble) (nnn : Address) :
    Opcode.write ⟨family, N, N, N⟩ [("nnn", nnn)] = (Word.withAddress family nnn).toNat := by
  have hlabel : Opcode.labelled [("nnn", nnn.val)] ["n", "nn", "nnn"] = nnn := by simp
  simp only [Opcode.write, Opcode.Symbol.value, hlabel, Word.withAddress, Word.toNat]
  omega

theorem write_byte (family x : Nibble) (nn : UInt8) :
    Opcode.write ⟨family, X, N, N⟩ [("vx", x), ("nn", nn.toNat)] =
      (Word.withByte family x nn).toNat := by
  have := nn.toNat_lt
  have hregister : Opcode.labelled [("vx", x.val), ("nn", nn.toNat)] ["vx"] = x := by simp
  have hbyte : Opcode.labelled [("vx", x.val), ("nn", nn.toNat)] ["n", "nn", "nnn"] = nn.toNat := by
    simp
  simp only [Opcode.write, Opcode.Symbol.value, hregister, hbyte, Word.withByte, Word.toNat,
    Word.highDigit, Word.lowDigit]
  omega

/-- **The operands of an instruction replace the letters of its opcode by the digits of its
word.** -/
theorem write_operands (i : Instruction) : i.opcode.write i.operands = i.encode.toNat := by
  cases i with
  | sys nnn | jump nnn | call nnn | setIndex nnn | jumpOffset nnn => exact write_address _ nnn
  | skipIfByte x nn | skipUnlessByte x nn | setByte x nn | addByte x nn | random x nn =>
    exact write_byte _ x nn
  | _ =>
    simp [opcode, operands, Opcode.write, Opcode.Symbol.value, encode, Word.toNat]

/-! ## Telling opcodes apart -/

theorem matches_of_decode? (h : decode? w = some i) : i.opcode.Matches w := by
  rw [Opcode.Matches, pattern_opcode, ← encode_of_decode? h]
  exact matches_encode i

theorem decode?_eq_none_iff_opcodes : decode? w = none ↔ ∀ o ∈ opcodes, ¬o.Matches w := by
  simp only [decode?_eq_none_iff, mem_opcodes_iff, Opcode.Matches, forall_exists_index,
    forall_apply_eq_imp_iff, pattern_opcode]

/-- **Opcodes are told apart.** If a word matches the opcode of some instruction, then it is
decoded to one with this opcode, unless that is `0NNN`. -/
theorem opcode_of_decode? (h : decode? w = some i) (hmatches : j.opcode.Matches w) :
    i.opcode = j.opcode ∨ j.opcode = ⟨0x0, N, N, N⟩ := by
  obtain ⟨family, x, y, n⟩ := w
  rw [Opcode.Matches, pattern_opcode] at hmatches
  cases j with
  | sys nnn => exact .inr rfl
  | _ =>
    simp only [pattern, Pattern.Matches, Option.mem_def, reduceCtorEq, false_imp_iff,
      implies_true, and_true, Option.some.injEq, forall_eq'] at hmatches
    simp only [hmatches] at h
    cases h
    exact .inl rfl

/-- Of the other opcodes, `0NNN` includes `00E0` and `00EE`. -/
theorem cls_or_ret_of_matches (h : decode? w = some i) (hne : i.opcode ≠ ⟨0x0, N, N, N⟩)
    (hmatches : Opcode.Matches ⟨0x0, N, N, N⟩ w) : i = cls ∨ i = ret := by
  have hfamily : w.family = 0 := hmatches.1
  have hsame := (matches_of_decode? h).1
  rw [hfamily] at hsame
  cases i with
  | sys nnn => exact absurd rfl hne
  | cls => exact .inl rfl
  | ret => exact .inr rfl
  | _ => cases hsame

/-- So if several opcodes match, then `0NNN` does, and the other one is decoded. -/
theorem opcode_precedence {o : Opcode} (h : decode? w = some i) (ho : o ∈ opcodes)
    (hmatches : o.Matches w) : o = i.opcode ∨ o = ⟨0x0, N, N, N⟩ ∧ (i = cls ∨ i = ret) := by
  obtain ⟨j, rfl⟩ := mem_opcodes_iff.1 ho
  by_cases heq : j.opcode = i.opcode
  · exact .inl heq
  · have hzero := (opcode_of_decode? h hmatches).resolve_left (Ne.symm heq)
    rw [hzero] at heq hmatches
    exact .inr ⟨hzero, cls_or_ret_of_matches h (Ne.symm heq) hmatches⟩

/-- If no opcode takes precedence over its own, an instruction is decoded from its word. -/
theorem decode?_encode_of_precedence
    (h : ∀ o ∈ opcodes, o.Matches i.encode →
      o = i.opcode ∨ o = ⟨0x0, N, N, N⟩ ∧ (i = cls ∨ i = ret)) : decode? i.encode = some i := by
  refine decode?_encode ?_ ?_
  -- the words of these two calls match `00E0` and `00EE` as well
  · rintro rfl
    exact absurd (h cls.opcode (opcode_mem cls) (matches_of_decode? rfl)) (by decide)
  · rintro rfl
    exact absurd (h ret.opcode (opcode_mem ret) (matches_of_decode? rfl)) (by decide)

/-! ## Integers -/

theorem exists_word_or (k : Int) : (∃ w : Word, w.toNat = k) ∨ (k < 0 ∨ 65535 < k) := by
  by_cases hk : k < 0 ∨ 65535 < k
  · exact .inr hk
  · have hfits : k.toNat < 65536 := by omega
    refine .inl ⟨.ofNat k.toNat hfits, ?_⟩
    rw [Word.toNat_ofNat]
    omega

/-- **What is not decoded** does not fit into a word, or is a word that no opcode matches. -/
theorem decode_eq_error_iff {k : Int} {e : DecodeError} :
    decode k = .error e ↔
      (e = .outOfRange k ∧ (k < 0 ∨ 65535 < k)) ∨
        ∃ w : Word, w.toNat = k ∧ e = .unknown w ∧ ∀ o ∈ opcodes, ¬o.Matches w := by
  obtain ⟨w, rfl⟩ | hk := exists_word_or k
  · have hfits := w.toNat_lt
    rw [decode_toNat]
    constructor
    · intro h
      cases hdecode : decode? w with
      | some i =>
        rw [hdecode] at h
        cases h
      | none =>
        rw [hdecode] at h
        cases h
        exact .inr ⟨w, rfl, rfl, decode?_eq_none_iff_opcodes.1 hdecode⟩
    · rintro (⟨-, hrange⟩ | ⟨w', hw', rfl, hnone⟩)
      · omega
      · cases Word.toNat_inj (Int.ofNat.inj hw')
        rw [decode?_eq_none_iff_opcodes.2 hnone]
  · rw [decode, (Word.ofInt?_eq_none_iff k).2 hk]
    constructor
    · rintro ⟨⟩
      exact .inl ⟨rfl, hk⟩
    · rintro (⟨rfl, -⟩ | ⟨w, rfl, -⟩)
      · rfl
      · have hfits := w.toNat_lt
        omega

/-- An instruction is decoded from the number of its word, or from nothing. -/
theorem decode_eq_ok_iff {k : Int} :
    decode k = .ok i ↔ decode? i.encode = some i ∧ i.encode.toNat = k := by
  constructor
  · intro h
    obtain ⟨w, rfl⟩ | hk := exists_word_or k
    · rw [decode_toNat] at h
      cases hdecode : decode? w with
      | none =>
        rw [hdecode] at h
        cases h
      | some i' =>
        rw [hdecode] at h
        cases h
        rw [encode_of_decode? hdecode]
        exact ⟨hdecode, rfl⟩
    · rw [decode_eq_error_iff.2 (.inl ⟨rfl, hk⟩)] at h
      cases h
  · rintro ⟨hdecode, rfl⟩
    rw [decode_toNat, hdecode]

/-- The words `00E0` and `00EE` are no calls of machine code. -/
theorem decode?_encode_iff : decode? i.encode = some i ↔ i ≠ sys 0x0E0 ∧ i ≠ sys 0x0EE := by
  constructor
  · intro h
    constructor
    · rintro rfl
      exact (decode?_withAddress_zero_iff.1 h).1 rfl
    · rintro rfl
      exact (decode?_withAddress_zero_iff.1 h).2 rfl
  · rintro ⟨hcls, hret⟩
    exact decode?_encode hcls hret

/-- **Decoding is exact.** An integer is refused if it does not fit into a word, and is unknown if
none of the thirty-five opcodes matches. Otherwise it is decoded to the instruction whose opcode it
matches and whose operands, written back into the opcode, give the integer; `00E0` and `00EE` take
precedence over `0NNN`. The operands fit their letters, and every instruction is decoded from
exactly one integer, but for the calls of machine code at `0E0` and `0EE`, which are decoded from
none. -/
theorem decode_exact :
    (∀ (k : Int) (e : DecodeError), decode k = .error e ↔
      (e = .outOfRange k ∧ (k < 0 ∨ 65535 < k)) ∨
        ∃ w : Word, w.toNat = k ∧ e = .unknown w ∧ ∀ o ∈ opcodes, ¬o.Matches w) ∧
    (∀ (k : Int) (i : Instruction), decode k = .ok i ↔
      ∃ w : Word, w.toNat = k ∧ i.opcode.Matches w ∧ i.opcode.write i.operands = k ∧
        ∀ o ∈ opcodes, o.Matches w →
          o = i.opcode ∨ o = ⟨0x0, N, N, N⟩ ∧ (i = cls ∨ i = ret)) ∧
    (∀ (k : Int) (i : Instruction), decode k = .ok i ↔
      k = i.opcode.write i.operands ∧ i ≠ sys 0x0E0 ∧ i ≠ sys 0x0EE) ∧
    (∀ i : Instruction, ∀ operand ∈ i.operands,
      operand.1 ∈ ["vx", "vy", "n"] ∧ operand.2 < 16 ∨
        operand.1 = "nn" ∧ operand.2 < 256 ∨ operand.1 = "nnn" ∧ operand.2 < 4096) ∧
    opcodes.length = 35 ∧ opcodes.Nodup := by
  refine ⟨fun _ _ => decode_eq_error_iff, ?_, ?_, operands_lt, rfl, by decide⟩
  · intro k i
    rw [decode_eq_ok_iff, write_operands]
    constructor
    · rintro ⟨hdecode, rfl⟩
      exact ⟨i.encode, rfl, matches_of_decode? hdecode, rfl,
        fun _ => opcode_precedence hdecode⟩
    · rintro ⟨w, rfl, -, hwrite, hothers⟩
      rw [← Word.toNat_inj (Int.ofNat.inj hwrite)] at hothers ⊢
      exact ⟨decode?_encode_of_precedence hothers, rfl⟩
  · intro k i
    rw [decode_eq_ok_iff, decode?_encode_iff, write_operands, and_comm, eq_comm]

end Instruction

end Chip8
