import Chip8.Grid

/-!
# Grids pixel by pixel

A grid is told by its height and its pixels. What shows a grid has a piece for each pixel of a
row, and pieces of one length can be found again in the row that they make up.

* `Grid.pixel?` — the view of a grid as a pixel at each place
* `Grid.isSome_pixel?_iff` — where the pixels are
* `Grid.ext_rows`, `Grid.ext_pixel?` — grids with the same rows are equal, and grids of one height
  with the same pixels
* `length_flatMap_of_length`, `take_drop_flatMap_of_length` — pieces of one length
* `getElem?_flatMap_of_length` — what is where in them
* `flatMap_inj_of_length` — they tell what they are pieces for
-/

namespace Chip8

/-! ## Pixels -/

namespace Grid

/-- The pixel in column `x` and row `y`. -/
def pixel? (grid : Grid) (x y : Nat) : Option Bool := (grid.rows[y]?).bind fun row => row[x]?

/-- There is a pixel in each column of each row. -/
theorem isSome_pixel?_iff (grid : Grid) {x y : Nat} :
    (grid.pixel? x y).isSome ↔ x < grid.width ∧ y < grid.height := by
  by_cases hy : y < grid.height
  · have hrow : grid.rows[y]? = some grid.rows[y] := List.getElem?_eq_getElem hy
    simp only [pixel?, hrow, Option.bind_some, isSome_getElem?, hy, and_true,
      grid.length_eq_width (List.getElem_mem hy)]
  · have hrow : grid.rows[y]? = none := List.getElem?_eq_none (Nat.le_of_not_lt hy)
    simp [pixel?, hrow, hy]

/-- Grids with the same rows are equal. -/
theorem ext_rows {grid grid' : Grid} (h : grid.rows = grid'.rows) : grid = grid' := by
  cases grid
  cases grid'
  cases h
  rfl

/-- Grids of one height with the same pixels are equal. -/
theorem ext_pixel? {grid grid' : Grid} (hheight : grid.height = grid'.height)
    (h : ∀ x y, grid.pixel? x y = grid'.pixel? x y) : grid = grid' := by
  refine ext_rows (List.ext_getElem hheight fun y hy hy' => List.ext_getElem? fun x => ?_)
  have hxy := h x y
  rwa [pixel?, pixel?, List.getElem?_eq_getElem hy, List.getElem?_eq_getElem hy'] at hxy

end Grid

/-! ## Pieces of one length -/

variable {α β : Type} {f : α → List β} {n : Nat}

theorem length_flatMap_of_length (hf : ∀ a, (f a).length = n) (xs : List α) :
    (xs.flatMap f).length = xs.length * n := by
  induction xs with
  | nil => simp
  | cons x xs ih =>
    rw [List.flatMap_cons, List.length_append, hf, ih, List.length_cons, Nat.succ_mul,
      Nat.add_comm]

theorem drop_flatMap_of_length (hf : ∀ a, (f a).length = n) (k : Nat) (xs : List α) :
    (xs.flatMap f).drop (k * n) = (xs.drop k).flatMap f := by
  induction k generalizing xs with
  | zero => simp
  | succ k ih =>
    cases xs with
    | nil => simp
    | cons x xs =>
      rw [List.flatMap_cons, List.drop_succ_cons, ← ih, Nat.succ_mul, Nat.add_comm,
        ← List.drop_drop, List.drop_left' (hf x)]

/-- The `k`-th piece is found where `k` pieces end. -/
theorem take_drop_flatMap_of_length (hf : ∀ a, (f a).length = n) {k : Nat} {xs : List α} {a : α}
    (ha : xs[k]? = some a) : ((xs.flatMap f).drop (k * n)).take n = f a := by
  obtain ⟨hk, rfl⟩ := List.getElem?_eq_some_iff.1 ha
  rw [drop_flatMap_of_length hf, List.drop_eq_getElem_cons hk, List.flatMap_cons,
    List.take_left' (hf _)]

/-- What stands at a place of pieces stands in one of them. -/
theorem getElem?_flatMap_of_length (hf : ∀ a, (f a).length = n) (hn : 0 < n) (xs : List α)
    (i : Nat) : (xs.flatMap f)[i]? = (xs[i / n]?).bind fun a => (f a)[i % n]? := by
  cases ha : xs[i / n]? with
  | none =>
    rw [List.getElem?_eq_none_iff, Nat.le_div_iff_mul_le hn, ← length_flatMap_of_length hf] at ha
    exact List.getElem?_eq_none ha
  | some a =>
    calc (xs.flatMap f)[i]?
      _ = ((xs.flatMap f).drop (i / n * n))[i % n]? := by
        rw [List.getElem?_drop, Nat.div_add_mod']
      _ = (((xs.flatMap f).drop (i / n * n)).take n)[i % n]? :=
        (List.getElem?_take_of_lt (Nat.mod_lt i hn)).symm
      _ = (f a)[i % n]? := by rw [take_drop_flatMap_of_length hf ha]

/-- Pieces that are not empty tell what they are pieces for, if each of them does. -/
theorem flatMap_inj_of_length (hf : ∀ a, (f a).length = n) (hn : 0 < n)
    (hinj : ∀ {a b}, f a = f b → a = b) {xs ys : List α} (h : xs.flatMap f = ys.flatMap f) :
    xs = ys := by
  have hlength : xs.length = ys.length := by
    refine Nat.eq_of_mul_eq_mul_right hn ?_
    rw [← length_flatMap_of_length hf, h, length_flatMap_of_length hf]
  induction xs generalizing ys with
  | nil => exact (List.length_eq_zero_iff.1 hlength.symm).symm
  | cons x xs ih =>
    cases ys with
    | nil => cases hlength
    | cons y ys =>
      rw [List.flatMap_cons, List.flatMap_cons] at h
      obtain ⟨hfirst, hrest⟩ := List.append_inj h (by rw [hf, hf])
      rw [hinj hfirst, ih hrest (Nat.succ.inj hlength)]

end Chip8
