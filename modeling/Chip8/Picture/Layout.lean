import Chip8.Grid
import Chip8.Number.Int64

/-!
# Layouts of pictures

The bytes of a picture are laid out in a table, a row for each row of pixels. The
sides of the table are counted in 64 bits, and there is only so much room for the
bytes and for what is made of them.

* `PixelKind` — what the pixels of a picture are
* `Room` — how large tables and pictures can be
* `Layout` — the sides of a table of bytes
* `Layout.check` — whether there is room for a table
* `Layout.counted` — a table whose sides are counted in 64 bits
* `Layout.enlarge` — a table with each pixel made a square
* `Layout.size` — the size of the picture that a table makes
-/

namespace Chip8

/-- What the pixels of a picture are. -/
inductive PixelKind where
  /-- Shades of grey. -/
  | grey
  /-- Shades of grey, each with a share of the background. -/
  | greyAlpha
  /-- Full colours. -/
  | colour
  /-- Full colours, each with a share of the background. -/
  | colourAlpha
deriving DecidableEq, Repr

namespace PixelKind

/-- The code of a kind of pixels. -/
def code : PixelKind → String
  | grey => "L"
  | greyAlpha => "LA"
  | colour => "RGB"
  | colourAlpha => "RGBA"

/-- The kind of pixels with a number of components. -/
def ofComponents? : Nat → Option PixelKind
  | 2 => some greyAlpha
  | 3 => some colour
  | 4 => some colourAlpha
  | _ => none

end PixelKind

/-- Why a picture cannot be laid out. -/
inductive LayoutError where
  /-- The scale does not fit into a signed 64-bit number. -/
  | scaleTooWide
  /-- A side of the table is negative in a signed 64-bit number. -/
  | negativeSide
  /-- The number of bytes does not fit into a signed 64-bit number. -/
  | tooManyBytes
  /-- There is no room for so many bytes, or for as many in a row. -/
  | noRoom
  /-- A side of the picture is longer than can be counted. -/
  | sideTooLong
deriving DecidableEq, Repr

/-- The report of a picture that cannot be laid out. -/
def LayoutError.message : LayoutError → String
  | scaleTooWide => "the scale is not a number of 64 bits"
  | negativeSide => "negative dimensions are not allowed"
  | tooManyBytes =>
    "array is too big; `arr.size * arr.dtype.itemsize` is larger than the maximum possible size."
  | noRoom => "there is no room for the picture"
  | sideTooLong => "a side of the picture is too long"

/-- How large tables and pictures can be on a computer. -/
structure Room where
  /-- The most bytes in a table. -/
  bytes : Nat
  /-- The most pixels in a row of a picture. -/
  row : Nat
  /-- The most rows of a picture, and the longest row that can be counted. -/
  side : Nat
  /-- The bytes of a table are counted in 64 bits. -/
  bytes_fit : fitsInt64 bytes = true
  /-- A row that there is room for can be counted. -/
  row_le_side : row ≤ side

/-- The room on a computer with sixteen gigabytes for a table. Sides are counted in 32 bits,
and the bytes of a row too, where each pixel takes four. -/
def Room.usual : Room := ⟨0x400000000, 0x1FFFFFFE, 0x7FFFFFFF, by decide, by decide⟩

/-- The sides of a table of bytes. -/
structure Layout where
  /-- The number of rows. -/
  height : Int
  /-- The number of places in each row. -/
  width : Int
  /-- The number of bytes in each place, where a place is a pixel with components; without,
  each place holds a byte that is a pixel by itself. -/
  components : Option Nat
deriving DecidableEq, Repr

namespace Layout

/-- The table of a grid whose colours have so many components. Without rows there is no
telling a pixel from its components, so that each component counts as a pixel. -/
def ofGrid (grid : Grid) (components : Nat) : Layout :=
  if grid.rows.isEmpty then ⟨0, components, none⟩
  else ⟨grid.height, grid.width, some components⟩

/-- The sides, the longest step through the bytes first. -/
def sides (l : Layout) : List Int := [l.height, l.width] ++ l.components.toList.map Int.ofNat

/-- The product of `bytes` and the sides, counted in 64 bits side by side. A side of length
zero is left out, so that an empty table can still have too many bytes. -/
def volume (bytes : Int) : List Int → Except LayoutError Int
  | [] => .ok bytes
  | side :: rest =>
    if side = 0 then volume bytes rest
    else if side < 0 then .error .negativeSide
    else if !fitsInt64 (bytes * side) then .error .tooManyBytes
    else volume (bytes * side) rest

/-- Whether there is room for a table. An empty one takes none. -/
def check (l : Layout) (room : Room) : Except LayoutError Unit := do
  let bytes ← volume 1 l.sides
  if l.sides.contains 0 ∨ bytes ≤ room.bytes then .ok () else .error .noRoom

/-- The table as it is made, with its sides counted in 64 bits. If there is room for it as it
is counted, there is none for what is put into it when a side is longer than that, unless
nothing is. -/
def counted (l : Layout) (room : Room) : Except LayoutError Layout := do
  let made := { l with height := wrapInt64 l.height, width := wrapInt64 l.width }
  made.check room
  if made = l ∨ l.sides.contains 0 then .ok made else .error .noRoom

/-- The table in which every row is repeated, and then every place in it. Each time there
must be room for what comes out. -/
def enlarge (l : Layout) (scale : Int) (room : Room) : Except LayoutError Layout := do
  if !fitsInt64 scale then .error .scaleTooWide
  else
    let tall ← { l with height := l.height * scale }.counted room
    { tall with width := l.width * scale }.counted room

/-- The kind of pixels that a table holds, if it makes a picture. -/
def kind? (l : Layout) : Option PixelKind :=
  match l.components with
  | none => some .grey
  | some n => PixelKind.ofComponents? n

/-- The width and the height of the picture that a table makes. -/
def size (l : Layout) (room : Room) : Except LayoutError (Nat × Nat) :=
  if room.side < l.width ∨ room.side < l.height then .error .sideTooLong
  else if room.row < l.width then .error .noRoom
  else .ok (l.width.toNat, l.height.toNat)

end Layout

end Chip8
