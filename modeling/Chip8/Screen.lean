import Chip8.Grid

/-!
# The screen

Sixty-four columns and thirty-two rows of pixels. Each row is a word of 64 bits
with the leftmost pixel in the highest bit, so that a sprite is drawn by an
exclusive or of rows, and what runs off the right edge is shifted away.

* `Screen`, `Screen.blank` — the rows, and the screen with every pixel off
* `Screen.pixel` — the view of the screen as a grid of pixels
* `Screen.sprite?` — the rows of a sprite from integers
* `Screen.stamp` — the pixels that a sprite covers, as a screen of its own
* `Screen.draw` — the screen after drawing a sprite
* `Screen.collides` — whether drawing a sprite switches off a lit pixel
-/

namespace Chip8

/-- A pixel that is not on the screen. -/
structure OffScreen where
  /-- The column asked for. -/
  x : Int
  /-- The row asked for. -/
  y : Int
deriving DecidableEq, Repr

/-- The report of a pixel that is not on the screen. -/
def OffScreen.message (e : OffScreen) : String :=
  s!"pixel coordinate ({e.x}, {e.y}) is outside the screen"

/-- The rows of the screen, from the top. -/
structure Screen where
  /-- One word for each row, its leftmost pixel in the highest bit. -/
  rows : Vector (BitVec 64) 32
deriving DecidableEq

namespace Screen

/-- The screen with every pixel off. -/
def blank : Screen := ⟨Vector.replicate 32 0⟩

/-- Whether the pixel in column `x` and row `y` is lit; pixels off the screen are not. -/
def pixel (s : Screen) (x y : Nat) : Bool := (s.rows[y]?.getD 0).getMsbD x

/-- The row of pixels that one row of a sprite covers from a column on. Pixels past the
right edge are shifted out. -/
def spriteRow (row : UInt8) (column : Nat) : BitVec 64 := (row.toBitVec ++ 0#56) >>> column

/-- The rows of a sprite given as integers, if each of them is a byte. -/
def sprite? (rows : List Int) : Option (List UInt8) :=
  if rows.all fun row => 0 ≤ row && row ≤ 255 then
    some (rows.map fun row => UInt8.ofNat row.toNat)
  else none

/-- The pixels that a sprite covers. Its top left corner is taken modulo the size of the
screen; what then runs off the right or the bottom edge is cut off. -/
def stamp (x y : Int) (sprite : List UInt8) : Screen :=
  let column := (x % 64).toNat
  let top := (y % 32).toNat
  ⟨Vector.ofFn fun j =>
    if top ≤ j.val then spriteRow (sprite.getD (j.val - top) 0) column else 0⟩

/-- The pixels that are lit on exactly one of two screens. -/
def xor (s t : Screen) : Screen := ⟨Vector.zipWith (· ^^^ ·) s.rows t.rows⟩

/-- Whether some pixel is lit on both screens. -/
def overlaps (s t : Screen) : Bool :=
  (Vector.zipWith (· &&& ·) s.rows t.rows).any (· ≠ 0)

/-- The screen after drawing a sprite: every covered pixel changes. -/
def draw (s : Screen) (x y : Int) (sprite : List UInt8) : Screen := s.xor (stamp x y sprite)

/-- Whether drawing a sprite switches off a lit pixel. -/
def collides (s : Screen) (x y : Int) (sprite : List UInt8) : Bool :=
  s.overlaps (stamp x y sprite)

/-- The rows of pixels, from the top, each from the left. -/
def grid (s : Screen) : Grid where
  rows := s.rows.toList.map fun row => (List.range 64).map row.getMsbD
  even := areEven_of_length fun row h => by
    obtain ⟨_, _, rfl⟩ := List.mem_map.1 h
    rw [List.length_map, List.length_range]

/-- The number of lit pixels. -/
def lit (s : Screen) : Nat := s.grid.rows.flatten.countP id

/-- Whether a column and a row are on the screen. -/
def Contains (x y : Int) : Prop := 0 ≤ x ∧ x < 64 ∧ 0 ≤ y ∧ y < 32

instance (x y : Int) : Decidable (Contains x y) :=
  inferInstanceAs (Decidable (_ ∧ _ ∧ _ ∧ _))

/-- The pixel in column `x` and row `y`. -/
def get (s : Screen) (x y : Int) : Except OffScreen Bool :=
  if Contains x y then .ok (s.pixel x.toNat y.toNat) else .error ⟨x, y⟩

/-- The screen with the pixel in column `x` and row `y` lit or not. -/
def set (s : Screen) (x y : Int) (lit : Bool) : Except OffScreen Screen :=
  if Contains x y then
    let mask := BitVec.twoPow 64 (63 - x.toNat)
    let row := s.rows[y.toNat]?.getD 0
    .ok ⟨s.rows.setIfInBounds y.toNat (if lit then row ||| mask else row &&& ~~~mask)⟩
  else .error ⟨x, y⟩

/-! ## The view -/

@[simp] theorem pixel_blank (x y : Nat) : blank.pixel x y = false := by
  simp only [pixel, blank]
  by_cases h : y < 32
  · simp [h]
  · simp [Vector.getElem?_eq_none (Nat.not_lt.1 h)]

@[simp] theorem pixel_xor (s t : Screen) (x y : Nat) :
    (s.xor t).pixel x y = (s.pixel x y ^^ t.pixel x y) := by
  simp only [pixel, xor]
  by_cases h : y < 32
  · simp [h]
  · simp [Vector.getElem?_eq_none (Nat.not_lt.1 h)]

end Screen

end Chip8
