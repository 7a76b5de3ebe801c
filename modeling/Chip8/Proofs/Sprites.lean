import Chip8.Screen

/-!
# Sprites and pixels

A screen is rows of 64 bits and a sprite is drawn by shifting its rows into place, but what
a program draws are pixels. A bit of a sprite that is set covers a pixel, unless it falls off
the right or the bottom edge, and drawing the sprite switches the pixels that it covers.

* `Sprite`, `Sprite.Covers` — a sprite at a place, and the pixels that it covers
* `Screen.pixel_stamp` — the screen of a sprite alone has these pixels lit
* `Screen.pixel_draw` — drawing a sprite switches them
* `Screen.ext_pixel` — a screen is known by its pixels
* `Screen.draw_draw`, `Screen.draw_comm` — a sprite drawn twice is gone, and the order in which
  sprites are drawn does not matter
-/

namespace Chip8

/-- A sprite and the place at which it is drawn. -/
structure Sprite where
  /-- The column of its leftmost pixels, any integer. -/
  x : Int
  /-- The row of its topmost pixels, any integer. -/
  y : Int
  /-- Its rows, from the top. -/
  rows : List UInt8
deriving DecidableEq, Repr

/-- A sprite covers a pixel of the screen if bit `j` of its row `i` falls there and is set,
counted from the left and from the top. The place of the sprite is taken modulo the size of
the screen, and the place of the bit is not. -/
def Sprite.Covers (p : Sprite) (column row : Nat) : Prop :=
  column < 64 ∧ row < 32 ∧
    ∃ i j : Nat, ∃ byte : UInt8, p.rows[i]? = some byte ∧ j < 8 ∧
      byte.toNat.testBit (7 - j) = true ∧
      (column : Int) = p.x % 64 + j ∧ (row : Int) = p.y % 32 + i

namespace Screen

/-! ## The pixels of a sprite -/

/-- The pixels of one row of a sprite that starts in the given column. -/
theorem getMsbD_spriteRow (byte : UInt8) (start column : Nat) :
    (spriteRow byte start).getMsbD column = true ↔
      column < 64 ∧ ∃ j < 8, byte.toNat.testBit (7 - j) = true ∧ column = start + j := by
  unfold spriteRow
  rw [BitVec.getMsbD_ushiftRight]
  by_cases hstart : column < start
  · simp only [hstart, decide_true, Bool.not_true, Bool.false_and, Bool.and_false,
      Bool.false_eq_true, false_iff]
    rintro ⟨-, j, -, -, rfl⟩
    omega
  · obtain ⟨k, rfl⟩ := Nat.exists_eq_add_of_le (Nat.not_lt.1 hstart)
    have hbit : (byte.toBitVec ++ 0#56).getMsbD k = true ↔
        k < 8 ∧ byte.toNat.testBit (7 - k) = true := by
      rw [BitVec.getMsbD_append]
      by_cases hk : k < 8
      · simp [Nat.not_le.2 hk, hk, BitVec.getMsbD_eq_getLsbD, ← BitVec.testBit_toNat]
      · simp [Nat.not_lt.1 hk, hk]
    simp [hbit]

/-- The screen of a sprite alone has the pixels lit that the sprite covers. -/
theorem pixel_stamp (p : Sprite) (column row : Nat) :
    (stamp p.x p.y p.rows).pixel column row = true ↔ p.Covers column row := by
  have hx : (p.x % 64).toNat = p.x % 64 := Int.toNat_of_nonneg (by omega)
  have hy : (p.y % 32).toNat = p.y % 32 := Int.toNat_of_nonneg (by omega)
  by_cases hrow : row < 32
  · simp only [pixel, stamp, Vector.getElem?_ofFn, hrow, dite_true, Option.getD_some]
    by_cases htop : (p.y % 32).toNat ≤ row
    · rw [if_pos htop, getMsbD_spriteRow, List.getD_eq_getElem?_getD]
      constructor
      · rintro ⟨hcolumn, j, hj, hbit, rfl⟩
        refine ⟨hcolumn, hrow, row - (p.y % 32).toNat, j, ?_⟩
        cases hget : p.rows[row - (p.y % 32).toNat]? with
        | none => simp [hget] at hbit
        | some byte => exact ⟨byte, rfl, hj, by simpa [hget] using hbit, by omega, by omega⟩
      · rintro ⟨hcolumn, -, i, j, byte, hget, hj, hbit, hc, hr⟩
        have hi : row - (p.y % 32).toNat = i := by omega
        refine ⟨hcolumn, j, hj, ?_, by omega⟩
        rw [hi, hget]
        exact hbit
    · -- the row lies above the sprite
      rw [if_neg htop]
      constructor
      · intro h
        simp at h
      · rintro ⟨-, -, i, j, byte, -, -, -, -, hr⟩
        omega
  · constructor
    · intro h
      simp [pixel, Vector.getElem?_eq_none (Nat.not_lt.1 hrow)] at h
    · rintro ⟨-, hlt, -⟩
      exact absurd hlt hrow

instance (p : Sprite) (column row : Nat) : Decidable (p.Covers column row) :=
  decidable_of_iff _ (pixel_stamp p column row)

/-! ## Drawing -/

/-- Drawing a sprite switches the pixels that it covers. -/
theorem pixel_draw (s : Screen) (p : Sprite) (column row : Nat) :
    (s.draw p.x p.y p.rows).pixel column row =
      (s.pixel column row ^^ decide (p.Covers column row)) := by
  have hstamp : (stamp p.x p.y p.rows).pixel column row = decide (p.Covers column row) := by
    rw [Bool.eq_iff_iff, decide_eq_true_iff]
    exact pixel_stamp p column row
  rw [draw, pixel_xor, hstamp]

/-- Two screens with the same pixels are the same. -/
theorem ext_pixel {s t : Screen} (h : ∀ column row, s.pixel column row = t.pixel column row) :
    s = t := by
  obtain ⟨rows⟩ := s
  obtain ⟨rows'⟩ := t
  congr
  apply Vector.ext
  intro row hrow
  apply BitVec.eq_of_getMsbD_eq
  intro column hcolumn
  simpa [pixel, hrow] using h column row

/-- A sprite that is drawn twice leaves the screen as it was. -/
theorem draw_draw (s : Screen) (p : Sprite) :
    (s.draw p.x p.y p.rows).draw p.x p.y p.rows = s := by
  apply ext_pixel
  intro column row
  simp [pixel_draw]

/-- The order in which two sprites are drawn does not matter. -/
theorem draw_comm (s : Screen) (p q : Sprite) :
    (s.draw p.x p.y p.rows).draw q.x q.y q.rows =
      (s.draw q.x q.y q.rows).draw p.x p.y p.rows := by
  apply ext_pixel
  intro column row
  rw [pixel_draw, pixel_draw, pixel_draw, pixel_draw, Bool.xor_right_comm]

end Screen

end Chip8
