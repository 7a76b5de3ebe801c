/-!
# Grids

A grid of pixels has rows of one length. As text it has one line for each row and
one piece of text for each pixel.

* `Grid` — rows of pixels, from the top, each from the left
* `Grid.ofRows` — the grid with the rows as given, which are checked
* `Grid.lines` — the text of each row
* `Grid.text` — the rows, one below the other
* `length_eq_width` — every row of a grid is as long as the grid is wide
-/

namespace Chip8

/-- Lists of which not all are of one length. -/
structure Uneven where
  /-- The number of the lists. -/
  count : Nat
deriving DecidableEq, Repr

/-- The report of lists that are not of one length. -/
def Uneven.message (e : Uneven) : String :=
  "setting an array element with a sequence. The requested array has an inhomogeneous shape " ++
    s!"after 1 dimensions. The detected shape was ({e.count},) + inhomogeneous part."

/-- Whether all lists are of one length. -/
def areEven {α : Type} (lists : List (List α)) : Bool :=
  lists.all fun list => list.length == (lists.headD []).length

theorem areEven_of_length {α : Type} {lists : List (List α)} {n : Nat}
    (h : ∀ list ∈ lists, list.length = n) : areEven lists = true := by
  cases lists with
  | nil => rfl
  | cons first rest =>
    simp only [areEven, List.all_eq_true, List.headD_cons, beq_iff_eq]
    intro list hl
    rw [h list hl, h first List.mem_cons_self]

/-- Rows of pixels, from the top, each from the left. -/
structure Grid where
  /-- The rows. -/
  rows : List (List Bool)
  /-- The rows are of one length. -/
  even : areEven rows = true
deriving DecidableEq, Repr

namespace Grid

/-- The grid with the rows as given, if they are of one length. -/
def ofRows (rows : List (List Bool)) : Except Uneven Grid :=
  if h : areEven rows then .ok ⟨rows, h⟩ else .error ⟨rows.length⟩

/-- The number of rows. -/
def height (grid : Grid) : Nat := grid.rows.length

/-- The number of pixels in each row. -/
def width (grid : Grid) : Nat := (grid.rows.headD []).length

/-- Every row is as long as the grid is wide. -/
theorem length_eq_width (grid : Grid) {row : List Bool} (h : row ∈ grid.rows) :
    row.length = grid.width := by
  have he := grid.even
  simp only [areEven, List.all_eq_true, beq_iff_eq] at he
  exact he row h

/-- The text of a lit pixel: two full blocks. -/
def litText : String := "██"

/-- The text of an unlit pixel: two spaces. -/
def unlitText : String := "  "

/-- The text of each row. -/
def lines (grid : Grid) (on off : String) : List String :=
  grid.rows.map fun row => String.join (row.map fun pixel => if pixel then on else off)

/-- The rows, one below the other. -/
def text (grid : Grid) (on off : String) : String := "\n".intercalate (grid.lines on off)

end Grid

end Chip8
