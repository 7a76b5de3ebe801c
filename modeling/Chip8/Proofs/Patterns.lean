import Chip8.Instruction.Encoding

/-!
# Patterns

The instruction set is described by patterns such as `8XY4` or `FX65`. Some digits of a
pattern are fixed, and the others stand for operands.

* `Pattern`, `Pattern.Matches` — patterns, and the words that they match
* `Instruction.pattern` — the pattern of an instruction
* `Instruction.matches_encode` — the word of an instruction matches its pattern
* `Instruction.decode?_eq_none_iff` — decoding fails exactly where no pattern matches
-/

namespace Chip8

/-- A pattern of words: the digits that are fixed. The first digit always is. -/
structure Pattern where
  /-- The first digit. -/
  family : Nibble
  /-- The second digit, if it is fixed. -/
  x : Option Nibble
  /-- The third digit, if it is fixed. -/
  y : Option Nibble
  /-- The last digit, if it is fixed. -/
  n : Option Nibble
deriving DecidableEq, Repr

/-- Whether a word has the fixed digits of a pattern. -/
def Pattern.Matches (p : Pattern) (w : Word) : Prop :=
  w.family = p.family ∧ (∀ d ∈ p.x, w.x = d) ∧ (∀ d ∈ p.y, w.y = d) ∧ ∀ d ∈ p.n, w.n = d

namespace Instruction

/-- The pattern of an instruction. -/
def pattern : Instruction → Pattern
  | sys _ => ⟨0x0, none, none, none⟩
  | cls => ⟨0x0, some 0x0, some 0xE, some 0x0⟩
  | ret => ⟨0x0, some 0x0, some 0xE, some 0xE⟩
  | jump _ => ⟨0x1, none, none, none⟩
  | call _ => ⟨0x2, none, none, none⟩
  | skipIfByte _ _ => ⟨0x3, none, none, none⟩
  | skipUnlessByte _ _ => ⟨0x4, none, none, none⟩
  | skipIfEqual _ _ => ⟨0x5, none, none, some 0x0⟩
  | setByte _ _ => ⟨0x6, none, none, none⟩
  | addByte _ _ => ⟨0x7, none, none, none⟩
  | copy _ _ => ⟨0x8, none, none, some 0x0⟩
  | or _ _ => ⟨0x8, none, none, some 0x1⟩
  | and _ _ => ⟨0x8, none, none, some 0x2⟩
  | xor _ _ => ⟨0x8, none, none, some 0x3⟩
  | add _ _ => ⟨0x8, none, none, some 0x4⟩
  | sub _ _ => ⟨0x8, none, none, some 0x5⟩
  | shiftRight _ _ => ⟨0x8, none, none, some 0x6⟩
  | subFrom _ _ => ⟨0x8, none, none, some 0x7⟩
  | shiftLeft _ _ => ⟨0x8, none, none, some 0xE⟩
  | skipUnlessEqual _ _ => ⟨0x9, none, none, some 0x0⟩
  | setIndex _ => ⟨0xA, none, none, none⟩
  | jumpOffset _ => ⟨0xB, none, none, none⟩
  | random _ _ => ⟨0xC, none, none, none⟩
  | draw _ _ _ => ⟨0xD, none, none, none⟩
  | skipIfDown _ => ⟨0xE, none, some 0x9, some 0xE⟩
  | skipUnlessDown _ => ⟨0xE, none, some 0xA, some 0x1⟩
  | getDelay _ => ⟨0xF, none, some 0x0, some 0x7⟩
  | awaitKey _ => ⟨0xF, none, some 0x0, some 0xA⟩
  | setDelay _ => ⟨0xF, none, some 0x1, some 0x5⟩
  | setSound _ => ⟨0xF, none, some 0x1, some 0x8⟩
  | addIndex _ => ⟨0xF, none, some 0x1, some 0xE⟩
  | digitSprite _ => ⟨0xF, none, some 0x2, some 0x9⟩
  | storeDecimal _ => ⟨0xF, none, some 0x3, some 0x3⟩
  | storeBlock _ => ⟨0xF, none, some 0x5, some 0x5⟩
  | loadBlock _ => ⟨0xF, none, some 0x6, some 0x5⟩

/-- The word of an instruction matches its pattern. -/
theorem matches_encode (i : Instruction) : i.pattern.Matches i.encode := by
  cases i <;> simp [pattern, encode, Pattern.Matches, Word.withAddress, Word.withByte]

theorem decode?_family_zero_ne_none (x y n : Nibble) : decode? ⟨0x0, x, y, n⟩ ≠ none := by
  by_cases hcls : (⟨0, x, y, n⟩ : Word) = ⟨0, 0, 0xE, 0⟩
  · rw [hcls]
    exact Option.some_ne_none cls
  · by_cases hret : (⟨0, x, y, n⟩ : Word) = ⟨0, 0, 0xE, 0xE⟩
    · rw [hret]
      exact Option.some_ne_none ret
    · rw [decode?_family_zero hcls hret]
      exact Option.some_ne_none _

theorem decode?_ne_none_of_matches {i : Instruction} {w : Word} (h : i.pattern.Matches w) :
    decode? w ≠ none := by
  obtain ⟨family, x, y, n⟩ := w
  cases i with
  | sys nnn =>
    obtain ⟨rfl, -⟩ := h
    exact decode?_family_zero_ne_none x y n
  | _ =>
    simp only [pattern, Pattern.Matches, Option.mem_def, reduceCtorEq, false_imp_iff,
      implies_true, and_true, Option.some.injEq, forall_eq'] at h
    simp only [h]
    exact Option.some_ne_none _

/-- **Decoding fails exactly where no pattern matches.** -/
theorem decode?_eq_none_iff {w : Word} :
    decode? w = none ↔ ∀ i : Instruction, ¬i.pattern.Matches w := by
  constructor
  · intro h i hmatches
    exact decode?_ne_none_of_matches hmatches h
  · intro h
    cases hd : decode? w with
    | none => rfl
    | some i =>
      have hmatches := matches_encode i
      rw [encode_of_decode? hd] at hmatches
      exact absurd hmatches (h i)

end Instruction

end Chip8
