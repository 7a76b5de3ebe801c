import Chip8.Colour
import Chip8.Grid.Runs
import Chip8.Picture.Layout

/-!
# Pictures

A picture shows a grid of pixels in two colours, with every pixel enlarged to a
square. It is held in runs, so that its size costs nothing.

* `Picture` — rows of colours, in runs
* `Picture.pixel?` — the view of a picture as a colour at each place
* `Picture.ofGrid` — the picture of a grid
* `Picture.paint` — the same with colours of any number of components
* `Picture.draw` — the same with scale and colours as given, which are checked
-/

namespace Chip8

/-- A picture. -/
structure Picture where
  /-- What its pixels are. -/
  kind : PixelKind
  /-- The number of pixels in a row. -/
  width : Nat
  /-- The number of rows. -/
  height : Nat
  /-- The rows, from the top, each from the left, in the colours that are seen on no
  background. -/
  rows : Runs (Runs Colour)
deriving DecidableEq, Repr

/-- Why a grid cannot be drawn. -/
inductive PictureError where
  /-- The scale is not positive. -/
  | scale (value : Int)
  /-- The colours have not the same number of components. -/
  | uneven (e : Uneven)
  /-- A component of a colour is not a byte. -/
  | component
  /-- There are no pixels with so many components. -/
  | components (count : Nat)
  /-- The picture cannot be laid out. -/
  | layout (e : LayoutError)
deriving DecidableEq, Repr

/-- The report of a grid that cannot be drawn. -/
def PictureError.message : PictureError → String
  | scale value => s!"scale must be positive, got {value}"
  | uneven e => e.message
  | component => "a component of a colour is not a byte"
  | components count => s!"a colour has {count} components"
  | layout e => e.message

namespace Picture

/-- The colour in column `x` and row `y`. -/
def pixel? (p : Picture) (x y : Nat) : Option Colour :=
  (p.rows.expand[y]?).bind fun row => row.expand[x]?

/-- The runs of a list in which every element is repeated `scale` times. -/
def enlarged {α : Type} [DecidableEq α] (scale : Nat) (xs : List α) : Runs α :=
  Runs.merge (xs.map (scale, ·))

/-- The picture of a grid: each of its pixels is a square of `scale` by `scale`. -/
def ofGrid (grid : Grid) (scale : Nat) (foreground background : Colour) : Picture where
  kind := .colour
  width := grid.width * scale
  height := grid.height * scale
  rows := enlarged scale (grid.rows.map fun row =>
    enlarged scale (row.map fun lit => if lit then foreground else background))

/-- A picture without pixels: nothing is in its rows, or it has no rows. -/
def blank (kind : PixelKind) (width height : Nat) : Picture :=
  ⟨kind, width, height, if height = 0 then [] else [(height, [])]⟩

/-- The bytes of a pixel, if the components given are bytes. -/
def bytes? (components : List Int) : Option (List UInt8) :=
  if components.all Colour.isComponent then
    some (components.map fun c => UInt8.ofNat c.toNat)
  else none

/-- The colour that is seen of the bytes of a pixel when its share of the background, the
byte after its shade or its colour, does not count. No pixel has less than two bytes. -/
def seen : List UInt8 → Colour
  | [shade, _] => ⟨shade, shade, shade⟩
  | red :: green :: blue :: _ => ⟨red, green, blue⟩
  | _ => .black

/-- The picture of a grid with the bytes of its colours, whether or not they have three
components, if it can be laid out. -/
def paint (grid : Grid) (scale : Int) (foreground background : List UInt8) (room : Room) :
    Except PictureError Picture := do
  let layout ← ((Layout.ofGrid grid background.length).enlarge scale room).mapError .layout
  match layout.kind? with
  | none => .error (.components background.length)
  | some kind =>
    let (width, height) ← (layout.size room).mapError .layout
    if grid.width = 0 then .ok (blank kind width height)
    else .ok { ofGrid grid scale.toNat (seen foreground) (seen background) with kind := kind }

/-- The picture of a grid, with the scale and the components of the colours as given. The
sign of the scale is checked first, then the colours, and then whether there is room for
the picture. -/
def draw (grid : Grid) (scale : Int) (foreground background : List Int)
    (room : Room := .usual) : Except PictureError Picture :=
  if scale ≤ 0 then .error (.scale scale)
  else if !areEven [background, foreground] then .error (.uneven ⟨2⟩)
  else
    match bytes? foreground, bytes? background with
    | some foreground, some background => paint grid scale foreground background room
    | _, _ => .error .component

theorem bytes?_components (c : Colour) :
    bytes? c.components = some [c.red, c.green, c.blue] := by
  obtain ⟨r, g, b⟩ := c
  have hr := r.toNat_lt
  have hg := g.toNat_lt
  have hb := b.toNat_lt
  simp only [bytes?, Colour.components, Colour.isComponent, List.all_cons, List.all_nil,
    Bool.and_true]
  rw [if_pos (by simp; omega)]
  simp

end Picture

end Chip8
