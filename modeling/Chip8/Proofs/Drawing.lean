import Chip8.Proofs.Sprites

/-!
# What drawing changes

A sprite is drawn row by row and all eight pixels of a row at once. Seen pixel by pixel, each
pixel below the sprite is combined with the one bit of the sprite that lies on it, every other
pixel stays as it is, and a collision is a pixel that was lit and is not lit any more.

* `Sprite.covers_iff` — the one bit of a sprite that lies on a pixel
* `Screen.overlaps_iff` — rows that share a bit are screens that share a pixel
* `Screen.collides_iff` — a collision is a pixel that drawing switches off
* `Screen.draw_exact` — all of this together
-/

namespace Chip8

/-- A pixel of the screen is covered if it lies within the eight columns and the rows of the
sprite, counted from its place on the screen, and the bit that lies there is set. -/
theorem Sprite.covers_iff (p : Sprite) (column : Fin 64) (row : Fin 32) :
    p.Covers column row ↔
      ((p.x % 64).toNat ≤ column ∧ column < (p.x % 64).toNat + 8 ∧
        (p.y % 32).toNat ≤ row ∧ row - (p.y % 32).toNat < p.rows.length) ∧
      (p.rows.getD (row - (p.y % 32).toNat) 0).toNat.testBit
        (7 - (column - (p.x % 64).toNat)) = true := by
  obtain ⟨left, hx⟩ : ∃ left : Nat, p.x % 64 = left := Int.eq_ofNat_of_zero_le (by omega)
  obtain ⟨top, hy⟩ : ∃ top : Nat, p.y % 32 = top := Int.eq_ofNat_of_zero_le (by omega)
  rw [Covers, hx, hy, Int.toNat_natCast, Int.toNat_natCast]
  constructor
  · rintro ⟨-, -, i, j, byte, hbyte, hj, hbit, hcolumn, hrow⟩
    have hi : row.val - top = i := by omega
    have hj' : column.val - left = j := by omega
    have hlength : i < p.rows.length := (List.getElem?_eq_some_iff.1 hbyte).1
    rw [hi, hj', List.getD_eq_getElem?_getD, hbyte]
    exact ⟨⟨by omega, by omega, by omega, hlength⟩, hbit⟩
  · rintro ⟨⟨hleft, hright, htop, hbottom⟩, hbit⟩
    refine ⟨column.isLt, row.isLt, row.val - top, column.val - left,
      p.rows[row.val - top], List.getElem?_eq_getElem hbottom, by omega, ?_, by omega, by omega⟩
    rwa [List.getD_eq_getElem?_getD, List.getElem?_eq_getElem hbottom] at hbit

namespace Screen

variable {s t : Screen}

theorem exists_getMsbD_of_ne_zero {word : BitVec 64} (h : word ≠ 0) :
    ∃ column < 64, word.getMsbD column = true := by
  apply Decidable.by_contra
  intro hnone
  refine h (BitVec.eq_of_getMsbD_eq ?_)
  intro column hcolumn
  have hunset : word.getMsbD column = false :=
    Bool.eq_false_iff.2 fun hbit => hnone ⟨column, hcolumn, hbit⟩
  simp [hunset]

/-- Two screens overlap exactly if some pixel is lit on both. -/
theorem overlaps_iff :
    s.overlaps t = true ↔
      ∃ (column : Fin 64) (row : Fin 32),
        s.pixel column row = true ∧ t.pixel column row = true := by
  have hpixel (u : Screen) (column : Fin 64) (row : Fin 32) :
      u.pixel column row = u.rows[row].getMsbD column := by
    simp [pixel]
  simp only [overlaps, Vector.any_eq_true, Vector.getElem_zipWith, decide_eq_true_eq, hpixel]
  constructor
  · rintro ⟨row, hrow, hword⟩
    obtain ⟨column, hcolumn, hbit⟩ := exists_getMsbD_of_ne_zero hword
    rw [BitVec.getMsbD_and, Bool.and_eq_true] at hbit
    exact ⟨⟨column, hcolumn⟩, ⟨row, hrow⟩, hbit⟩
  · rintro ⟨column, row, hs, ht⟩
    refine ⟨row, row.isLt, ?_⟩
    intro hword
    have hbit : (s.rows[row.val] &&& t.rows[row.val]).getMsbD column = true := by
      rw [BitVec.getMsbD_and, Bool.and_eq_true]
      exact ⟨hs, ht⟩
    rw [hword] at hbit
    simp at hbit

/-- A collision is a pixel that is lit before the sprite is drawn, and not after. -/
theorem collides_iff (s : Screen) (p : Sprite) :
    s.collides p.x p.y p.rows = true ↔
      ∃ (column : Fin 64) (row : Fin 32),
        s.pixel column row = true ∧ (s.draw p.x p.y p.rows).pixel column row = false := by
  rw [collides, overlaps_iff]
  simp only [pixel_stamp, pixel_draw]
  constructor
  all_goals
    rintro ⟨column, row, hlit, h⟩
    exact ⟨column, row, hlit, by simpa [hlit] using h⟩

/-- **Drawing is exact.** A sprite is drawn at any integers, taken modulo the size of the screen.
Where one of its bits lies on a pixel, the two are combined by exclusive or, and every other pixel
stays as it is: the bits that run off the right or the bottom edge come out nowhere. It collides
exactly if some pixel was lit before and is not lit after. -/
theorem draw_exact (s : Screen) (x y : Int) (rows : List UInt8) :
    let left := (x % 64).toNat
    let top := (y % 32).toNat
    (∀ (column : Fin 64) (row : Fin 32), (s.draw x y rows).pixel column row =
      if left ≤ column ∧ column < left + 8 ∧ top ≤ row ∧ row - top < rows.length then
        s.pixel column row ^^ (rows.getD (row - top) 0).toNat.testBit (7 - (column - left))
      else s.pixel column row) ∧
    (s.collides x y rows = true ↔
      ∃ (column : Fin 64) (row : Fin 32),
        s.pixel column row = true ∧ (s.draw x y rows).pixel column row = false) := by
  intro left top
  refine ⟨?_, collides_iff s ⟨x, y, rows⟩⟩
  intro column row
  have hcovers := Sprite.covers_iff ⟨x, y, rows⟩ column row
  rw [pixel_draw s ⟨x, y, rows⟩]
  by_cases hinside : left ≤ column ∧ column < left + 8 ∧ top ≤ row ∧ row - top < rows.length
  · rw [if_pos hinside]
    rw [and_iff_right hinside] at hcovers
    simp only [hcovers, Bool.decide_eq_true]
    rfl
  · rw [if_neg hinside, decide_eq_false fun h => hinside (hcovers.1 h).1, Bool.xor_false]

end Screen

end Chip8
