import Chip8.Picture
import Chip8.Proofs.Grids
import Chip8.Proofs.Overrides
import Mathlib.Algebra.Order.BigOperators.GroupWithZero.List
import Mathlib.Algebra.Order.Ring.Int
import Mathlib.Tactic.MkIffOfInductiveProp

/-!
# Enlarged grids

A picture of a grid shows each pixel as a square of one colour. It is drawn on each computer that
has room for its bytes, its columns and its rows, and on no other. What is drawn tells the grid, if
the two colours differ.

* `Layout.volume_eq_ok_iff`, `Layout.counted_eq_ok_iff` — the tables that there is room for
* `Layout.enlarge_eq_ok_iff`, `Layout.exists_size_iff` — the same for enlarged tables and pictures
* `Picture.Fits` — there is room for the picture of a grid
* `Picture.draw_eq` — a grid is drawn if its picture can be laid out
* `Picture.pixel?_ofGrid` — the pixels of a picture by those of the grid
* `Picture.ofGrid_injective` — a picture tells the grid
* `Picture.Enlarges` — a picture shows a grid, enlarged exactly
-/

namespace Chip8

/-! ## Room for tables -/

theorem fitsInt64_of_le {a b : Int} (ha : 0 ≤ a) (hab : a ≤ b) (hb : fitsInt64 b = true) :
    fitsInt64 a = true := by
  simp only [fitsInt64, Bool.and_eq_true, decide_eq_true_eq] at hb ⊢
  omega

namespace Layout

/-- Where no side is empty, the bytes are counted if their number fits into 64 bits. -/
theorem volume_eq_ok_iff {sides : List Int} (hsides : ∀ side ∈ sides, 0 < side)
    {bytes total : Int} (hbytes : 0 < bytes) (hfits : fitsInt64 bytes = true) :
    volume bytes sides = .ok total ↔
      fitsInt64 (bytes * sides.prod) = true ∧ total = bytes * sides.prod := by
  induction sides generalizing bytes with
  | nil => simp [volume, hfits, eq_comm]
  | cons side rest ih =>
    obtain ⟨hside, hrest⟩ := List.forall_mem_cons.1 hsides
    have hstep : 0 < bytes * side := Int.mul_pos hbytes hside
    rw [volume, if_neg (by omega), if_neg (by omega), List.prod_cons, ← Int.mul_assoc]
    by_cases hfits' : fitsInt64 (bytes * side) = true
    · rw [if_neg (by simpa using hfits'), ih hrest hstep hfits']
    · -- The product only grows with the sides that are left.
      have hle : bytes * side ≤ bytes * side * rest.prod :=
        le_mul_of_one_le_right hstep.le (List.prod_pos hrest)
      rw [if_pos (by simpa using hfits')]
      exact iff_of_false (by simp) fun h => hfits' (fitsInt64_of_le hstep.le hle h.1)

theorem le_prod_of_mem {sides : List Int} (hsides : ∀ side ∈ sides, 0 < side) {side : Int}
    (h : side ∈ sides) : side ≤ sides.prod := by
  induction sides with
  | nil => cases h
  | cons first rest ih =>
    obtain ⟨hfirst, hrest⟩ := List.forall_mem_cons.1 hsides
    rw [List.prod_cons]
    rcases List.mem_cons.1 h with rfl | hmem
    · exact le_mul_of_one_le_right hfirst.le (List.prod_pos hrest)
    · exact (ih hrest hmem).trans (le_mul_of_one_le_left (List.prod_pos hrest).le hfirst)

/-- No side of a table is empty. -/
structure Filled (l : Layout) : Prop where
  /-- There are rows. -/
  height : 0 < l.height
  /-- There are places in a row. -/
  width : 0 < l.width
  /-- There are bytes in a place. -/
  components : ∀ n ∈ l.components, 0 < n

variable {l made wide : Layout} {room : Room} {scale : Int}

theorem Filled.sides_pos (h : l.Filled) : ∀ side ∈ l.sides, 0 < side := by
  intro side hside
  rw [sides, List.mem_append, List.mem_cons, List.mem_singleton] at hside
  rcases hside with (rfl | rfl) | hside
  · exact h.height
  · exact h.width
  · obtain ⟨n, hn, rfl⟩ := List.mem_map.1 hside
    exact Int.natCast_pos.2 (h.components n (Option.mem_toList.1 hn))

theorem fitsInt64_of_le_bytes {n : Int} (hn : 0 ≤ n) (h : n ≤ room.bytes) : fitsInt64 n = true :=
  fitsInt64_of_le hn h room.bytes_fit

theorem check_eq_ok_iff (hfilled : l.Filled) :
    l.check room = .ok () ↔ l.sides.prod ≤ room.bytes := by
  have hvolume {total : Int} : volume 1 l.sides = .ok total ↔
      fitsInt64 l.sides.prod = true ∧ total = l.sides.prod := by
    rw [volume_eq_ok_iff hfilled.sides_pos Int.one_pos rfl, Int.one_mul]
  have hzero : 0 ∉ l.sides := fun h => (hfilled.sides_pos 0 h).false
  rw [check]
  cases htotal : volume 1 l.sides with
  | ok total =>
    obtain ⟨-, rfl⟩ := hvolume.1 htotal
    by_cases hroom : l.sides.prod ≤ room.bytes <;> simp [Bind.bind, Except.bind, hzero, hroom]
  | error e =>
    refine iff_of_false (by rintro ⟨⟩) fun h => ?_
    rw [hvolume.2 ⟨fitsInt64_of_le_bytes (List.prod_pos hfilled.sides_pos).le h, rfl⟩] at htotal
    cases htotal

/-- Where no side is empty, a table is made if there is room for it, and then its sides are counted
as they are. -/
theorem counted_eq_ok_iff (hfilled : l.Filled) :
    l.counted room = .ok made ↔ l.sides.prod ≤ room.bytes ∧ made = l := by
  have hzero : 0 ∉ l.sides := fun h => (hfilled.sides_pos 0 h).false
  rw [counted, bind_eq_ok_iff]
  constructor
  · rintro ⟨⟨⟩, hcheck, hmade⟩
    split at hmade
    · rename_i hsame
      obtain hsame | hempty := hsame
      · rw [hsame] at hcheck hmade
        cases hmade
        exact ⟨(check_eq_ok_iff hfilled).1 hcheck, rfl⟩
      · exact absurd (List.contains_iff_mem.1 hempty) hzero
    · cases hmade
  · rintro ⟨hroom, rfl⟩
    have hwrap {side : Int} (hmem : side ∈ made.sides) : wrapInt64 side = side :=
      wrapInt64_of_fits (fitsInt64_of_le_bytes (hfilled.sides_pos side hmem).le
        ((le_prod_of_mem hfilled.sides_pos hmem).trans hroom))
    rw [hwrap (by simp [sides]), hwrap (by simp [sides])]
    exact ⟨(), (check_eq_ok_iff hfilled).2 hroom, if_pos (.inl rfl)⟩

/-- Before its places are repeated, a table is not larger than afterwards. -/
theorem Filled.prod_sides_le (hfilled : l.Filled) (hscale : 0 < scale) :
    l.sides.prod ≤ { l with width := l.width * scale }.sides.prod := by
  have hcomponents : 0 ≤ (l.components.toList.map Int.ofNat).prod :=
    (List.prod_pos fun side h => hfilled.sides_pos side (List.mem_append_right _ h)).le
  simp only [sides, List.prod_append, List.prod_cons, List.prod_nil, mul_one]
  exact mul_le_mul_of_nonneg_right (mul_le_mul_of_nonneg_left
    (le_mul_of_one_le_right hfilled.width.le hscale) hfilled.height.le) hcomponents

/-- Where no side is empty, a table is enlarged if there is room for what comes out. -/
theorem enlarge_eq_ok_iff (hfilled : l.Filled) (hscale : 0 < scale) :
    l.enlarge scale room = .ok wide ↔
      wide.sides.prod ≤ room.bytes ∧
        wide = { l with height := l.height * scale, width := l.width * scale } := by
  have htall : { l with height := l.height * scale }.Filled :=
    { hfilled with height := Int.mul_pos hfilled.height hscale }
  have hwide : { l with height := l.height * scale, width := l.width * scale }.Filled :=
    { htall with width := Int.mul_pos hfilled.width hscale }
  rw [enlarge]
  constructor
  · intro h
    split at h
    · cases h
    · obtain ⟨tall, hmade, h⟩ := bind_eq_ok_iff.1 h
      obtain ⟨-, rfl⟩ := (counted_eq_ok_iff htall).1 hmade
      obtain ⟨hroom, rfl⟩ := (counted_eq_ok_iff hwide).1 h
      exact ⟨hroom, rfl⟩
  · rintro ⟨hroom, rfl⟩
    have hle := htall.prod_sides_le hscale
    have hfits : fitsInt64 scale = true := by
      have hside : l.height * scale ∈
          { l with height := l.height * scale, width := l.width * scale }.sides := by simp [sides]
      have hscale_le : scale ≤ l.height * scale := le_mul_of_one_le_left hscale.le hfilled.height
      exact fitsInt64_of_le_bytes hscale.le
        ((hscale_le.trans (le_prod_of_mem hwide.sides_pos hside)).trans hroom)
    rw [if_neg (by simp [hfits])]
    exact bind_eq_ok_iff.2 ⟨_, (counted_eq_ok_iff htall).2 ⟨hle.trans hroom, rfl⟩,
      (counted_eq_ok_iff hwide).2 ⟨hroom, rfl⟩⟩

/-- A table makes a picture if its sides are not too long. -/
theorem exists_size_iff :
    (∃ size, l.size room = .ok size) ↔ l.width ≤ room.row ∧ l.height ≤ room.side := by
  have hle := room.row_le_side
  rw [size]
  split
  · exact iff_of_false (by simp) (by omega)
  · split
    · exact iff_of_false (by simp) (by omega)
    · exact iff_of_true ⟨_, rfl⟩ (by omega)

theorem ofGrid_of_rows {grid : Grid} (h : 1 ≤ grid.height) (components : Nat) :
    ofGrid grid components = ⟨grid.height, grid.width, some components⟩ := by
  rw [ofGrid, if_neg]
  rw [List.isEmpty_iff_length_eq_zero]
  exact Nat.ne_of_gt h

end Layout

namespace Picture

/-! ## Room for pictures -/

/-- There is room for the picture of a grid. -/
@[mk_iff]
structure Fits (room : Room) (grid : Grid) (scale : Nat) : Prop where
  /-- There are not too many bytes, three for each pixel. -/
  bytes : grid.height * scale * (grid.width * scale * 3) ≤ room.bytes
  /-- The rows are not too long. -/
  width : grid.width * scale ≤ room.row
  /-- There are not too many rows. -/
  height : grid.height * scale ≤ room.side

instance (room : Room) (grid : Grid) (scale : Nat) : Decidable (Fits room grid scale) :=
  decidable_of_iff' _ (fits_iff room grid scale)

variable {room : Room} {grid : Grid} {scale : Nat} {foreground background : Colour}

/-- The table of the picture of a grid. -/
def table (grid : Grid) (scale : Nat) : Layout :=
  ⟨(grid.height * scale : Nat), (grid.width * scale : Nat), some 3⟩

theorem prod_sides_table :
    (table grid scale).sides.prod = (grid.height * scale * (grid.width * scale * 3) : Nat) := by
  simp [table, Layout.sides]

/-- A grid is enlarged to the table of its picture if there is room for the bytes. -/
theorem enlarge_ofGrid_eq_ok_iff (hheight : 1 ≤ grid.height) (hwidth : 1 ≤ grid.width)
    (hscale : 1 ≤ scale) {wide : Layout} :
    (Layout.ofGrid grid 3).enlarge scale room = .ok wide ↔
      grid.height * scale * (grid.width * scale * 3) ≤ room.bytes ∧ wide = table grid scale := by
  have hfilled : (Layout.mk grid.height grid.width (some 3)).Filled :=
    ⟨Int.natCast_pos.2 hheight, Int.natCast_pos.2 hwidth, by simp⟩
  rw [Layout.ofGrid_of_rows hheight, Layout.enlarge_eq_ok_iff hfilled (Int.natCast_pos.2 hscale),
    ← Int.natCast_mul, ← Int.natCast_mul, ← Int.ofNat_le, ← prod_sides_table]
  exact and_congr_left fun hwide => by rw [hwide]; rfl

/-- The size of the picture of a grid, if it can be laid out. -/
def laidOut (room : Room) (grid : Grid) (scale : Int) : Except LayoutError (Nat × Nat) := do
  let wide ← (Layout.ofGrid grid 3).enlarge scale room
  wide.size room

/-- A picture can be laid out if there is room for it. -/
theorem exists_laidOut_iff (hheight : 1 ≤ grid.height) (hwidth : 1 ≤ grid.width)
    (hscale : 1 ≤ scale) :
    (∃ size, laidOut room grid scale = .ok size) ↔ Fits room grid scale := by
  have hsides : (∃ size, (table grid scale).size room = .ok size) ↔
      grid.width * scale ≤ room.row ∧ grid.height * scale ≤ room.side := by
    rw [Layout.exists_size_iff, table, Int.ofNat_le, Int.ofNat_le]
  simp only [laidOut, bind_eq_ok_iff, enlarge_ofGrid_eq_ok_iff hheight hwidth hscale]
  constructor
  · rintro ⟨size, _, ⟨hbytes, rfl⟩, hsize⟩
    obtain ⟨hlong, hmany⟩ := hsides.1 ⟨size, hsize⟩
    exact ⟨hbytes, hlong, hmany⟩
  · rintro ⟨hbytes, hlong, hmany⟩
    obtain ⟨size, hsize⟩ := hsides.2 ⟨hlong, hmany⟩
    exact ⟨size, _, ⟨hbytes, rfl⟩, hsize⟩

/-- A grid is drawn in two colours if its picture can be laid out. -/
theorem draw_eq (hheight : 1 ≤ grid.height) (hwidth : 1 ≤ grid.width) (hscale : 1 ≤ scale) :
    draw grid scale foreground.components background.components room =
      match laidOut room grid scale with
      | .ok _ => .ok (ofGrid grid scale foreground background)
      | .error e => .error (.layout e) := by
  rw [draw, if_neg (by omega), if_neg (by simp [areEven, Colour.components]),
    bytes?_components, bytes?_components]
  simp only [paint, laidOut, List.length_cons, List.length_nil]
  cases hlayout : (Layout.ofGrid grid 3).enlarge scale room with
  | error e => rfl
  | ok layout =>
    obtain ⟨-, rfl⟩ := (enlarge_ofGrid_eq_ok_iff hheight hwidth hscale).1 hlayout
    have hkind : (table grid scale).kind? = some .colour := rfl
    simp only [Except.mapError, bind, Except.bind, hkind]
    cases hsize : (table grid scale).size room with
    | error e => rfl
    | ok size => exact if_neg (Nat.ne_of_gt hwidth)

/-! ## Squares -/

theorem getElem?_expand_enlarged {α : Type} [DecidableEq α] (hscale : 1 ≤ scale) (xs : List α)
    (i : Nat) : (enlarged scale xs).expand[i]? = xs[i / scale]? := by
  have hexpand : (enlarged scale xs).expand = xs.flatMap (List.replicate scale) := by
    rw [enlarged, Runs.expand_merge, Runs.expand, List.flatMap_map]
  rw [hexpand, getElem?_flatMap_of_length (fun _ => List.length_replicate) hscale]
  have hmod : i % scale < scale := Nat.mod_lt i hscale
  simp [hmod]

/-- The pixels of a picture by those of the grid. -/
theorem pixel?_ofGrid (hscale : 1 ≤ scale) (x y : Nat) :
    (ofGrid grid scale foreground background).pixel? x y =
      (grid.pixel? (x / scale) (y / scale)).map
        fun lit => if lit then foreground else background := by
  simp only [pixel?, ofGrid, Grid.pixel?, getElem?_expand_enlarged hscale, List.getElem?_map,
    Option.bind_map, Option.map_bind, Function.comp_def]

/-- A picture in two colours tells the grid. -/
theorem ofGrid_injective (hscale : 1 ≤ scale) (hne : foreground ≠ background) {grid' : Grid}
    (h : ofGrid grid scale foreground background = ofGrid grid' scale foreground background) :
    grid = grid' := by
  have hheight : grid.height * scale = grid'.height * scale := congrArg Picture.height h
  refine Grid.ext_pixel? (Nat.eq_of_mul_eq_mul_right hscale hheight) fun x y => ?_
  -- The pixel is seen in the corner of its square.
  have hpixel := congrArg (fun p => p.pixel? (x * scale) (y * scale)) h
  simp only [pixel?_ofGrid hscale, Nat.mul_div_cancel _ hscale] at hpixel
  refine Option.map_injective (fun lit lit' hlit => ?_) hpixel
  cases lit <;> cases lit' <;> simp_all [Ne.symm]

/-- A picture shows a grid in two colours: each pixel is a square of `scale` by `scale`. -/
structure Enlarges (p : Picture) (grid : Grid) (scale : Nat) (foreground background : Colour) :
    Prop where
  /-- The pixels are full colours. -/
  kind : p.kind = .colour
  /-- There are `scale` columns for each column of the grid. -/
  width : p.width = grid.width * scale
  /-- There are `scale` rows for each row of the grid. -/
  height : p.height = grid.height * scale
  /-- In the picture, the colour is told by the pixel of the grid. -/
  inside : ∀ {x y}, x < p.width → y < p.height →
    ∃ lit, grid.pixel? (x / scale) (y / scale) = some lit ∧
      p.pixel? x y = some (if lit then foreground else background)
  /-- Past its sides there is nothing. -/
  outside : ∀ {x y}, ¬ (x < p.width ∧ y < p.height) → p.pixel? x y = none

theorem enlarges_ofGrid (hscale : 1 ≤ scale) :
    Enlarges (ofGrid grid scale foreground background) grid scale foreground background := by
  have hsome (x y : Nat) : (grid.pixel? (x / scale) (y / scale)).isSome ↔
      x < grid.width * scale ∧ y < grid.height * scale := by
    rw [Grid.isSome_pixel?_iff, Nat.div_lt_iff_lt_mul hscale, Nat.div_lt_iff_lt_mul hscale]
  refine ⟨rfl, rfl, rfl, fun {x y} hx hy => ?_, fun {x y} h => ?_⟩
  · obtain ⟨lit, hlit⟩ := Option.isSome_iff_exists.1 ((hsome x y).2 ⟨hx, hy⟩)
    refine ⟨lit, hlit, ?_⟩
    rw [pixel?_ofGrid hscale, hlit, Option.map_some]
  · have hnone := Option.not_isSome_iff_eq_none.1 (mt (hsome x y).1 h)
    rw [pixel?_ofGrid hscale, hnone, Option.map_none]

theorem eq_ofGrid_of_draw {p : Picture} (hheight : 1 ≤ grid.height) (hwidth : 1 ≤ grid.width)
    (hscale : 1 ≤ scale)
    (h : draw grid scale foreground.components background.components room = .ok p) :
    p = ofGrid grid scale foreground background := by
  rw [draw_eq hheight hwidth hscale] at h
  split at h
  · cases h
    rfl
  · cases h

/-- **What is drawn is the grid, enlarged exactly.** A grid with rows and columns is drawn in any
two colours and with any scale from 1 on, on any computer that has room for its picture and on no
other. The picture has a square of `scale` by `scale` for each pixel and nothing else, and if the
colours differ, it is drawn of no other grid. -/
theorem draw_exact_enlargement (grid : Grid) (hheight : 1 ≤ grid.height) (hwidth : 1 ≤ grid.width)
    (scale : Nat) (hscale : 1 ≤ scale) (foreground background : Colour) (room : Room) :
    ((∃ p, draw grid scale foreground.components background.components room = .ok p) ↔
      Fits room grid scale) ∧
    (∀ p, draw grid scale foreground.components background.components room = .ok p →
      Enlarges p grid scale foreground background ∧
        (foreground ≠ background → ∀ other : Grid, 1 ≤ other.height → 1 ≤ other.width →
          draw other scale foreground.components background.components room = .ok p →
            other = grid)) ∧
    ∀ e, draw grid scale foreground.components background.components room = .error e →
      ¬ Fits room grid scale ∧ ∃ reason, e = .layout reason := by
  have hfits : (∃ size, laidOut room grid scale = .ok size) ↔ Fits room grid scale :=
    exists_laidOut_iff hheight hwidth hscale
  have hdraw : draw grid scale foreground.components background.components room = _ :=
    draw_eq hheight hwidth hscale
  refine ⟨?_, fun p hp => ?_, ?_⟩
  · rw [hdraw, ← hfits]
    cases laidOut room grid scale <;> simp
  · obtain rfl := eq_ofGrid_of_draw hheight hwidth hscale hp
    refine ⟨enlarges_ofGrid hscale, fun hne other hheight' hwidth' hother => ?_⟩
    exact (ofGrid_injective hscale hne (eq_ofGrid_of_draw hheight' hwidth' hscale hother)).symm
  · rw [hdraw, ← hfits]
    cases laidOut room grid scale <;> simp

/-- A lit pixel next to an unlit one, three times as large. -/
theorem draw_exact_enlargement_pair :
    let grid : Grid := ⟨[[true, false]], rfl⟩
    1 ≤ grid.height ∧ 1 ≤ grid.width ∧ Fits .usual grid 3 ∧ Colour.white ≠ .black ∧
      ∃ p, draw grid 3 Colour.white.components Colour.black.components .usual = .ok p ∧
        Enlarges p grid 3 .white .black ∧
        ∀ other : Grid, 1 ≤ other.height → 1 ≤ other.width →
          draw other 3 Colour.white.components Colour.black.components .usual = .ok p →
            other = grid := by
  intro grid
  have hfits : Fits .usual grid 3 := by decide
  obtain ⟨hroom, hdrawn, -⟩ :=
    draw_exact_enlargement grid (by decide) (by decide) 3 (by decide) .white .black .usual
  obtain ⟨p, hp⟩ := hroom.2 hfits
  obtain ⟨henlarges, honly⟩ := hdrawn p hp
  exact ⟨by decide, by decide, hfits, by decide, p, hp, henlarges, honly (by decide)⟩

/-- On no computer a picture is drawn where the scale does not fit into 64 bits, nor where it does,
but the sides do not. -/
theorem draw_huge_scale :
    let small : Grid := ⟨[[true, true], [true, true]], rfl⟩
    let large : Grid := ⟨List.replicate 4 (List.replicate 4 true), rfl⟩
    1 ≤ small.height ∧ 1 ≤ small.width ∧
      (∀ room, draw small 0x8000000000000000 Colour.white.components Colour.black.components room =
        .error (.layout .scaleTooWide)) ∧
      1 ≤ large.height ∧ 1 ≤ large.width ∧
      ∀ room, draw large 0x4000000000000000 Colour.white.components Colour.black.components room =
        .error (.layout .noRoom) := by
  exact ⟨by decide, by decide, fun room => rfl, by decide, by decide, fun room => rfl⟩

end Picture

end Chip8
