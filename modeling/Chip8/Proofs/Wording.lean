import Chip8.CommandLine.Report
import Chip8.Proofs.Numerals

/-!
# The wording of reports

What a report says is found in it by its text. So the lines that it is made of must not be taken
for one another: each kind begins in its own way, and only few hold line feeds.

* `Lacks` — a character does not stand in a text
* `lacks_signed`, `lacks_natural`, `lacks_integer` — what does not stand in numbers
* `textLines`, `Report.lines` — the lines of a text and of a report
* `Report.lines_eq`, `Report.getLast?_lines` — the lines of what was printed, and the last of them
* `Report.lines_of_lacks`, `textLines_ranLine`, `textLines_crashLine` — what is one line
* `initials` — how a text begins
* `initials_of_mem_opening`, `initials_of_mem_closing`, `initials_of_mem_listing`,
  `initials_of_line` — how the parts of a report begin
-/

namespace Chip8

/-! ## Characters that a text lacks -/

/-- A character does not stand in a text. -/
def Lacks (c : Char) (text : String) : Prop := c ∉ text.toList

instance (c : Char) (text : String) : Decidable (Lacks c text) :=
  inferInstanceAs (Decidable (c ∉ text.toList))

variable {c : Char}

theorem Lacks.append {s t : String} (hs : Lacks c s) (ht : Lacks c t) : Lacks c (s ++ t) := by
  rw [Lacks, String.toList_append, List.mem_append, not_or]
  exact ⟨hs, ht⟩

theorem Lacks.pushn {text : String} {d : Char} (h : Lacks c text) (hd : c ≠ d) (n : Nat) :
    Lacks c (text.pushn d n) := by
  rw [String.pushn_eq_repeat_push]
  induction n with
  | zero => exact h
  | succ n ih =>
    rw [Nat.repeat, Lacks, String.toList_push, List.mem_append, not_or]
    exact ⟨ih, by simpa using hd⟩

/-- What lacks in the mark and in every part of a text lacks in the text. -/
theorem Lacks.intercalate {mark : String} {texts : List String} (hmark : Lacks c mark)
    (h : ∀ text ∈ texts, Lacks c text) : Lacks c (mark.intercalate texts) := by
  induction texts with
  | nil => rw [String.intercalate_nil]; simp [Lacks]
  | cons text texts ih =>
    have hfirst := h text List.mem_cons_self
    have hrest := ih fun t ht => h t (List.mem_cons_of_mem _ ht)
    cases texts with
    | nil => rwa [String.intercalate_singleton]
    | cons next texts =>
      rw [String.intercalate_cons_cons]
      exact (hfirst.append hmark).append hrest

theorem lacks_numeral (hdigit : ∀ d, c ≠ Hex.digit d) (width n : Nat) :
    Lacks c (Hex.numeral width n) := by
  intro hmem
  obtain ⟨d, hd⟩ := Hex.exists_digit_of_mem_numeral hmem
  exact hdigit d hd

/-- What is neither a digit nor a minus sign does not stand in a signed numeral. -/
theorem lacks_signed (hminus : c ≠ '-') (hdigit : ∀ d, c ≠ Hex.digit d) (width : Nat) (n : Int) :
    Lacks c (Hex.signed width n) := by
  rw [Hex.signed]
  split
  · rw [Lacks, String.toList_ofList, List.mem_cons, not_or]
    refine ⟨hminus, ?_⟩
    have hrest := lacks_numeral hdigit (width - 1) n.natAbs
    rwa [Lacks, Hex.numeral, String.toList_ofList] at hrest
  · exact lacks_numeral hdigit width n.toNat

/-- What is no digit does not stand in a natural number. -/
theorem lacks_natural (hdigit : c.isDigit = false) (n : Nat) : Lacks c (toString n) := by
  intro hmem
  rw [Nat.toString_eq_repr] at hmem
  rw [Numeral.isDigit_of_mem_repr hmem] at hdigit
  cases hdigit

/-- What is neither a digit nor a minus sign does not stand in an integer. -/
theorem lacks_integer (hminus : c ≠ '-') (hdigit : c.isDigit = false) (n : Int) :
    Lacks c (toString n) := by
  rw [Int.toString_eq_repr, Int.repr_eq_if]
  split
  · exact lacks_natural hdigit _
  · refine .append ?_ (lacks_natural hdigit _)
    simpa [Lacks] using hminus

theorem Fault.lacks_newline (f : Fault) : Lacks '\n' f.message := by
  have hnatural := lacks_natural (c := '\n') rfl
  have hinteger := lacks_integer (c := '\n') (by decide) rfl
  have hnumeral := lacks_numeral (c := '\n') (by decide)
  have hsigned := lacks_signed (c := '\n') (by decide) (by decide)
  cases f with
  | access range =>
    exact .append (.append (.append (by decide) (hsigned _ _)) (by decide)) (hinteger _)
  | unknownInstruction word => exact .append (by decide) (hnumeral _ _)
  | unknownSubroutine nnn => exact .append (by decide) (hnumeral _ _)
  | emptyStack => decide
  | stackOverflow depth => exact .append (.append (by decide) (hnatural _)) (by decide)
  | spriteOverflow index length =>
    exact .append (.append (.append (by decide) (hsigned _ _)) (by decide)) (hnatural _)
  | tooWide value => exact .append (.append (by decide) (hinteger _)) (by decide)

theorem Grid.lacks_of_mem_lines {on off : String} (hon : Lacks c on) (hoff : Lacks c off)
    {grid : Grid} {line : String} (h : line ∈ grid.lines on off) : Lacks c line := by
  obtain ⟨row, -, rfl⟩ := List.mem_map.1 h
  rw [Lacks, String.toList_join, List.mem_flatMap]
  rintro ⟨text, htext, hmem⟩
  obtain ⟨pixel, -, rfl⟩ := List.mem_map.1 htext
  cases pixel with
  | false => exact hoff hmem
  | true => exact hon hmem

theorem Grid.lacks_text {on off : String} (hon : Lacks c on) (hoff : Lacks c off)
    (hnewline : c ≠ '\n') (grid : Grid) : Lacks c (grid.text on off) :=
  .intercalate (by simpa [Lacks] using hnewline) fun _ hline => lacks_of_mem_lines hon hoff hline

namespace CommandLine

/-! ## Lines -/

/-- The pieces of a text between its line feeds. -/
def textLines (text : String) : List String := (text.toList.splitOn '\n').map String.ofList

/-- The lines that a report prints. Each of them is ended by a line feed. -/
def Report.lines (r : Report) : List String := (textLines r.output).dropLast

theorem textLines_ne_nil (text : String) : textLines text ≠ [] := by
  simp [textLines, List.splitOn_ne_nil]

theorem textLines_of_lacks {text : String} (h : Lacks '\n' text) : textLines text = [text] := by
  rw [textLines, List.splitOn_eq_singleton h, List.map_singleton, String.ofList_toList]

theorem textLines_intercalate {lines : List String} (hne : lines ≠ [])
    (h : ∀ line ∈ lines, Lacks '\n' line) : textLines ("\n".intercalate lines) = lines := by
  have hpieces : ("\n".intercalate lines).toList.splitOn '\n' = lines.map String.toList := by
    rw [String.toList_intercalate]
    exact List.splitOn_intercalate '\n' (by simpa [Lacks] using h) (by simpa using hne)
  rw [textLines, hpieces, List.map_map]
  simp [Function.comp_def]

theorem textLines_append (text rest : String) :
    textLines (text ++ "\n" ++ rest) = textLines text ++ textLines rest := by
  have htoList : (text ++ "\n" ++ rest).toList = text.toList ++ '\n' :: rest.toList := by
    simp [String.toList_append]
  rw [textLines, htoList, List.splitOn_append_cons_self, List.map_append]
  rfl

theorem textLines_join (items : List String) :
    textLines (String.join (items.map (· ++ "\n"))) = items.flatMap textLines ++ [""] := by
  induction items with
  | nil => rfl
  | cons item items ih =>
    rw [List.map_cons, String.join_cons, textLines_append, ih, List.flatMap_cons, List.append_assoc]

theorem flatMap_textLines {items : List String} (h : ∀ item ∈ items, Lacks '\n' item) :
    items.flatMap textLines = items := by
  induction items with
  | nil => rfl
  | cons item items ih =>
    rw [List.flatMap_cons, textLines_of_lacks (h item List.mem_cons_self),
      ih fun i hi => h i (List.mem_cons_of_mem _ hi)]
    rfl

/-- The pieces between marks are made of what there is. -/
theorem subset_of_mem_splitOn {mark : Char} {cs piece : List Char} (h : piece ∈ cs.splitOn mark) :
    piece ⊆ cs := by
  induction cs generalizing piece with
  | nil =>
    rw [List.splitOn_nil, List.mem_singleton] at h
    rw [h]
    exact List.nil_subset _
  | cons c cs ih =>
    rw [List.splitOn_cons_eq_if_modifyHead] at h
    obtain ⟨first, others, hpieces⟩ := List.exists_cons_of_ne_nil (List.splitOn_ne_nil mark cs)
    rw [hpieces] at h ih
    split at h
    · rcases List.mem_cons.1 h with rfl | hrest
      · exact List.nil_subset _
      · exact List.subset_cons_of_subset c (ih hrest)
    · rcases List.mem_cons.1 h with rfl | hrest
      · exact List.cons_subset_cons c (ih List.mem_cons_self)
      · exact List.subset_cons_of_subset c (ih (List.mem_cons_of_mem _ hrest))

theorem lacks_of_mem_textLines {text line : String} (h : Lacks c text)
    (hline : line ∈ textLines text) : Lacks c line := by
  obtain ⟨piece, hpiece, rfl⟩ := List.mem_map.1 hline
  rw [Lacks, String.toList_ofList]
  exact fun hmem => h (subset_of_mem_splitOn hpiece hmem)

namespace Report

variable {r : Report}

/-- The lines of a report are those of everything that was printed. -/
theorem lines_eq (r : Report) : r.lines = r.printed.flatMap textLines := by
  rw [lines, output, textLines_join, List.dropLast_concat]

/-- If nothing that was printed holds a line feed, these are the lines. -/
theorem lines_of_lacks (h : ∀ item ∈ r.printed, Lacks '\n' item) : r.lines = r.printed := by
  rw [lines_eq, flatMap_textLines h]

theorem mem_lines {line : String} (hline : textLines line = [line]) (h : line ∈ r.printed) :
    line ∈ r.lines := by
  rw [lines_eq, List.mem_flatMap]
  exact ⟨line, h, hline ▸ List.mem_singleton_self line⟩

/-- The last line is that of what was printed last. -/
theorem getLast?_lines {earlier : List String} {last : String}
    (h : r.printed = earlier ++ [last]) : r.lines.getLast? = (textLines last).getLast? := by
  rw [lines_eq, h, List.flatMap_append, List.flatMap_singleton, List.getLast?_append]
  cases hlast : (textLines last).getLast? with
  | none => exact absurd (List.getLast?_eq_none_iff.1 hlast) (textLines_ne_nil last)
  | some line => rfl

end Report

theorem textLines_ranLine (frames instructions : Nat) :
    textLines (ranLine frames instructions) = [ranLine frames instructions] :=
  have hnatural := lacks_natural (c := '\n') rfl
  textLines_of_lacks <| .append (.append (.append (.append (by decide) (hnatural _)) (by decide))
    (hnatural _)) (by decide)

theorem textLines_crashLine (pc : Int) (f : Fault) :
    textLines (crashLine pc f) = [crashLine pc f] :=
  textLines_of_lacks <| .append (.append (.append (by decide)
    (lacks_signed (by decide) (by decide) _ _)) (by decide)) f.lacks_newline

/-! ## Beginnings -/

/-- How a text begins: its first two characters. -/
def initials (text : String) : List Char := text.toList.take 2

theorem initials_append {s : String} {a b : Char} (h : initials s = [a, b]) (t : String) :
    initials (s ++ t) = [a, b] := by
  have hlength : 2 ≤ s.toList.length := by
    have htake := congrArg List.length h
    rw [initials, List.length_take, List.length_cons, List.length_singleton] at htake
    omega
  rw [initials, String.toList_append, List.take_append_of_le_length hlength, ← h, initials]

/-- A line begins as its first part does, whatever the other parts are. -/
theorem initials_parts {first : String} {a b : Char} (h : initials first = [a, b])
    (rest : List String) : initials (rest.foldl (· ++ ·) first) = [a, b] := by
  induction rest generalizing first with
  | nil => exact h
  | cons text rest ih => exact ih (initials_append h text)

theorem initials_ne_of_lacks {text : String} {d : Char} (h : Lacks c text) :
    initials text ≠ [c, d] := by
  intro hinitials
  exact h (List.mem_of_mem_take (hinitials ▸ List.mem_cons_self : c ∈ initials text))

theorem initials_append_ne_of_lacks {s : String} {d : Char} (h : Lacks c s) (hs : s.toList ≠ [])
    (t : String) : initials (s ++ t) ≠ [c, d] := by
  obtain ⟨first, rest, hfirst⟩ := List.exists_cons_of_ne_nil hs
  intro hinitials
  rw [initials, String.toList_append, hfirst] at hinitials
  rw [Lacks, hfirst, List.mem_cons, not_or] at h
  exact h.1 (List.cons.inj hinitials).1.symm

theorem lacks_counterLine {counters : Counters} {counter : String × Nat}
    (h : counter ∈ counters.toList) :
    Lacks 'E' (counterLine counter) ∧ Lacks 'R' (counterLine counter) := by
  have hlabels : ∀ label ∈ ({} : Counters).toList.map (·.1), Lacks 'E' label ∧ Lacks 'R' label := by
    decide
  obtain ⟨hE, hR⟩ := hlabels counter.1 (List.mem_map_of_mem (l := counters.toList) h)
  unfold counterLine
  constructor
  · exact ((hE.pushn (by decide) _).append (by decide)).append (lacks_natural rfl _)
  · exact ((hR.pushn (by decide) _).append (by decide)).append (lacks_natural rfl _)

/-- What trouble makes of the last line tells whether a file is not found. -/
theorem initials_of_line {rom line : String} {trouble : Trouble}
    (h : trouble.line rom = .ok line) :
    initials line = ['E', 'r'] ∨ initials line = ['I', '/'] ∨
      initials line = ['R', 'O'] ∧ ∃ path, trouble = .file path .notFound := by
  have hloading (text : String) : initials ("Error loading ROM: " ++ text) = ['E', 'r'] :=
    initials_append rfl text
  have hfile (text : String) : initials ("I/O error: " ++ text) = ['I', '/'] :=
    initials_append rfl text
  cases trouble with
  | settings e =>
    cases e with
    | wrongKind option => cases h
    | _ => cases h; exact .inl (hloading _)
  | boot e => cases h; exact .inl (hloading _)
  | file path e =>
    cases e with
    | notFound => cases h; exact .inr (.inr ⟨initials_append rfl rom, path, rfl⟩)
    | nulInPath => cases h; exact .inl (hloading _)
    | _ => cases h; exact .inr (.inl (hfile _))
  | picture e =>
    rw [Trouble.line] at h
    split at h
    · cases h; exact .inl (hloading _)
    · cases h
  | extension text =>
    cases h
    exact .inl (initials_append rfl text)
  | format e =>
    rw [Trouble.line] at h
    cases h
    split
    · exact .inr (.inl (hfile _))
    · exact .inl (hloading _)
  | failure f => cases h

/-- Neither a crash nor a file that is not found is told before the picture is saved. -/
theorem initials_of_mem_opening {o : RunOptions} {size : Nat} {s : Session} {item : String}
    (h : item ∈ opening o size s) : initials item ≠ ['E', 'm'] ∧ initials item ≠ ['R', 'O'] := by
  rw [opening, List.mem_append, List.mem_cons] at h
  rcases h with (rfl | hran) | hscreen
  · have hloaded : initials (loadedLine o size) = ['L', 'o'] := initials_parts rfl [_, _, _, _]
    rw [hloaded]
    decide
  · split at hran
    · cases hran
    · rw [List.mem_singleton] at hran
      have hinitials : initials (ranLine s.frames s.machine.counters.instructions) = ['R', 'a'] :=
        initials_parts rfl [_, _, _, _]
      rw [hran, hinitials]
      decide
  · split at hscreen
    · rw [List.mem_singleton] at hscreen
      have hlacks {c : Char} (hlit : Lacks c Grid.litText) (hunlit : Lacks c Grid.unlitText)
          (hnewline : c ≠ '\n') : Lacks c item :=
        hscreen ▸ Grid.lacks_text hlit hunlit hnewline _
      constructor
      · exact initials_ne_of_lacks (hlacks (by decide) (by decide) (by decide))
      · exact initials_ne_of_lacks (hlacks (by decide) (by decide) (by decide))
    · cases hscreen

/-- No file is told not to be found once the picture is saved. -/
theorem initials_of_mem_closing {o : RunOptions} {s : Session} {item : String}
    (h : item ∈ closing o s) : initials item ≠ ['R', 'O'] := by
  rw [closing, List.mem_append] at h
  rcases h with hcounters | hcrash
  · split at hcounters
    · rw [counterLines, List.mem_append] at hcounters
      rcases hcounters with hheading | hcounters
      · revert item
        decide
      · obtain ⟨counter, hcounter, rfl⟩ := List.mem_map.1 hcounters
        exact initials_ne_of_lacks (lacks_counterLine hcounter).2
    · cases hcounters
  · rw [crashLines] at hcrash
    split at hcrash
    · rw [List.mem_singleton] at hcrash
      rename_i fault _
      have hinitials : initials (crashLine s.machine.pc fault) = ['E', 'm'] :=
        initials_parts rfl [_, _, _]
      rw [hcrash, hinitials]
      decide
    · cases hcrash

/-- A line of a listing begins with its address. -/
theorem initials_append_line_text (line : Line) (t : String) (d : Char) :
    initials (line.text ++ t) ≠ ['R', d] := by
  have haddress : (Hex.signed 3 line.address).toList ≠ [] := by
    rw [Hex.signed]
    split
    · simp
    · obtain ⟨ds, hne, hdigits, -⟩ := Hex.exists_numeral 3 line.address.toNat
      simpa [hdigits] using hne
  unfold Line.text
  simp only [String.append_assoc]
  exact initials_append_ne_of_lacks (lacks_signed (by decide) (by decide) _ _) haddress _

/-- A listing tells of no file. -/
theorem initials_of_mem_listing {o : ListOptions} {lines : List Line} {item : String}
    (h : item ∈ o.listing lines) : initials item ≠ ['R', 'O'] := by
  rw [ListOptions.listing, List.mem_cons] at h
  rcases h with rfl | hflow
  · rw [Listing.text]
    match lines with
    | [] => decide
    | [line] =>
      have hline := initials_append_line_text line "" 'O'
      rwa [String.append_empty] at hline
    | line :: next :: rest =>
      rw [List.map_cons, List.map_cons, String.intercalate_cons_cons, String.append_assoc]
      exact initials_append_line_text line _ 'O'
  · split at hflow
    · simp only [flowLines, List.mem_cons, List.not_mem_nil, or_false] at hflow
      rcases hflow with rfl | rfl | rfl | rfl | rfl
      · decide
      all_goals
        rw [initials_append rfl]
        decide
    · cases hflow

end CommandLine

end Chip8
