import Chip8.Proofs.Grids
import Chip8.Proofs.Wording

/-!
# Grids in letters

The text of a grid has a line for each row, and in it a text for each pixel. If the texts of lit and
unlit pixels are equally long and hold no line feed, then lines and pixels are found again by
counting, also where the texts are alike in parts.

* `Grid.letter`, `Grid.line` — the characters of a pixel and of a row
* `Grid.textLines_text` — the lines of the text
* `piece`, `Grid.piece_line` — the characters of a line that show a pixel
* `Grid.text_injective` — the text tells the grid
* `Grid.text_readable` — all of this together
-/

namespace Chip8

/-- Of a line that is cut into pieces of `length` characters, the piece that `k` others stand
before. -/
def piece (length k : Nat) (line : String) : String :=
  String.ofList ((line.toList.drop (k * length)).take length)

namespace Grid

open CommandLine (textLines)

/-! ## Pixels in letters -/

/-- The characters of a pixel. -/
def letter (on off : String) (lit : Bool) : List Char := (if lit then on else off).toList

variable {on off : String}

theorem length_letter (hlength : on.length = off.length) (lit : Bool) :
    (letter on off lit).length = on.length := by
  cases lit
  · exact hlength.symm
  · rfl

theorem letter_injective (hne : on ≠ off) {lit lit' : Bool}
    (h : letter on off lit = letter on off lit') : lit = lit' := by
  have htext := String.toList_injective h
  cases lit <;> cases lit' <;> simp_all

theorem length_pos_of_ne (hlength : on.length = off.length) (hne : on ≠ off) : 0 < on.length := by
  refine Nat.pos_of_ne_zero fun hon => hne ?_
  rw [String.length_eq_zero_iff.1 hon, String.length_eq_zero_iff.1 (hlength.symm.trans hon)]

/-! ## Rows in letters -/

/-- The characters of a row. -/
def line (on off : String) (row : List Bool) : List Char := row.flatMap (letter on off)

theorem lines_eq (grid : Grid) :
    grid.lines on off = grid.rows.map fun row => String.ofList (line on off row) := by
  refine List.map_congr_left fun row _ => String.toList_injective ?_
  rw [String.toList_join, String.toList_ofList, List.flatMap_map]
  rfl

/-- The pixel in column `x` is shown by the piece that `x` others stand before. -/
theorem piece_line (hlength : on.length = off.length) {row : List Bool} {x : Nat} {lit : Bool}
    (h : row[x]? = some lit) :
    piece on.length x (String.ofList (line on off row)) = if lit then on else off := by
  rw [piece, String.toList_ofList, line, take_drop_flatMap_of_length (length_letter hlength) h,
    letter, String.ofList_toList]

/-! ## The text -/

/-- The lines of the text of a grid that has rows. -/
theorem textLines_text (hon : Lacks '\n' on) (hoff : Lacks '\n' off) {grid : Grid}
    (hheight : 1 ≤ grid.height) : textLines (grid.text on off) = grid.lines on off := by
  refine CommandLine.textLines_intercalate (fun hnil => ?_) fun _ => lacks_of_mem_lines hon hoff
  rw [lines, List.map_eq_nil_iff] at hnil
  rw [height, hnil] at hheight
  cases hheight

/-- Grids with rows of which the texts are equal are equal. -/
theorem text_injective (hlength : on.length = off.length) (hne : on ≠ off)
    (hon : Lacks '\n' on) (hoff : Lacks '\n' off) {grid grid' : Grid} (hheight : 1 ≤ grid.height)
    (hheight' : 1 ≤ grid'.height) (h : grid.text on off = grid'.text on off) : grid = grid' := by
  have hlines : grid.lines on off = grid'.lines on off := by
    rw [← textLines_text hon hoff hheight, h, textLines_text hon hoff hheight']
  rw [lines_eq, lines_eq] at hlines
  refine ext_rows ((List.map_inj_right fun row row' hrow => ?_).1 hlines)
  exact flatMap_inj_of_length (length_letter hlength) (length_pos_of_ne hlength hne)
    (letter_injective hne) (String.ofList_injective hrow)

/-- **The text of a grid is readable.** Let the texts of lit and unlit pixels be different, but of
one length and without line feeds. Then the text of a grid with rows has as many lines as the grid
has rows, each as long as the texts of the pixels of a row together; the piece of a line that stands
where a pixel is shown is the text of the pixel; and no other grid with rows has the text. -/
theorem text_readable (on off : String) (hlength : on.length = off.length) (hne : on ≠ off)
    (hon : Lacks '\n' on) (hoff : Lacks '\n' off) (grid : Grid) (hheight : 1 ≤ grid.height) :
    (textLines (grid.text on off)).length = grid.height ∧
    (∀ line ∈ textLines (grid.text on off), line.length = grid.width * on.length) ∧
    (∀ x y, x < grid.width → y < grid.height →
      ∃ line, (textLines (grid.text on off))[y]? = some line ∧
        (piece on.length x line = on ↔ grid.pixel? x y = some true) ∧
        (piece on.length x line = off ↔ grid.pixel? x y = some false)) ∧
    ∀ other : Grid, 1 ≤ other.height → other.text on off = grid.text on off → other = grid := by
  rw [textLines_text hon hoff hheight, lines_eq]
  refine ⟨List.length_map .., fun line hline => ?_, fun x y hx hy => ?_, fun other hother h =>
    text_injective hlength hne hon hoff hother hheight h⟩
  · obtain ⟨row, hrow, rfl⟩ := List.mem_map.1 hline
    rw [String.length_ofList, Grid.line, length_flatMap_of_length (length_letter hlength),
      grid.length_eq_width hrow]
  · obtain ⟨lit, hlit⟩ := Option.isSome_iff_exists.1 (grid.isSome_pixel?_iff.2 ⟨hx, hy⟩)
    obtain ⟨row, hrow, hpixel⟩ := Option.bind_eq_some_iff.1 hlit
    refine ⟨String.ofList (Grid.line on off row), by rw [List.getElem?_map, hrow]; rfl, ?_⟩
    rw [piece_line hlength hpixel, hlit]
    cases lit <;> simp [hne, hne.symm]

/-- Texts of pixels that each stand across two copies of the other. -/
theorem text_readable_overlap :
    let grid : Grid := ⟨[[true, false], [false, true]], rfl⟩
    "ab".length = "ba".length ∧ "ab" ≠ "ba" ∧ Lacks '\n' "ab" ∧ Lacks '\n' "ba" ∧
      1 ≤ grid.height ∧
      (textLines (grid.text "ab" "ba")).length = 2 ∧
      (∀ line ∈ textLines (grid.text "ab" "ba"), line.length = 4) ∧
      (∃ line, (textLines (grid.text "ab" "ba"))[1]? = some line ∧ piece 2 1 line = "ab") ∧
      ∀ other : Grid, 1 ≤ other.height → other.text "ab" "ba" = grid.text "ab" "ba" →
        other = grid := by
  intro grid
  obtain ⟨hcount, hlines, hpixels, honly⟩ :=
    text_readable "ab" "ba" rfl (by decide) (by decide) (by decide) grid (by decide)
  obtain ⟨line, hline, hlit, -⟩ := hpixels 1 1 (by decide) (by decide)
  exact ⟨rfl, by decide, by decide, by decide, by decide, hcount, hlines,
    ⟨line, hline, hlit.2 rfl⟩, honly⟩

end Grid

end Chip8
