import Chip8.Proofs.Lines
import Chip8.Proofs.Numerals

/-!
# Assembling a listing

What a listing writes as assembly can be assembled again: the text of each line tells the bytes
of that line, without its address and its word. The text is read in the way it is written. The
operands stand between commas, the first character of an operand tells its kind, and the
mnemonic together with the kinds of the operands tells the instruction. So although many
instructions share a mnemonic, no two words are written alike, and listings lose nothing.

* `Operand`, `Operand.read?` — the operands of assembly text
* `Instruction.fields`, `Instruction.ofFields?` — an instruction told by mnemonic and operands
* `Assembly.number?` — the word or the byte that a line of assembly stands for
* `Listing.assemble?` — the bytes that the lines of a listing stand for
* `Listing.assembly_lossless` — no two lists of bytes are written alike
-/

namespace Chip8

/-! ## Operands -/

/-- An operand of assembly text. -/
inductive Operand where
  /-- A register with its number. -/
  | register (x : Nat)
  /-- A number. -/
  | value (n : Nat)
  /-- An address, or a word of data. -/
  | place (n : Nat)
  /-- The index register. -/
  | index
  /-- The bytes from the index register on. -/
  | block
  /-- The delay timer. -/
  | delay
  /-- The sound timer. -/
  | sound
  /-- A key. -/
  | key
  /-- A sprite of the font. -/
  | font
  /-- Decimal digits. -/
  | decimal
  /-- No operand at all. -/
  | blank
deriving DecidableEq, Repr

namespace Operand

/-- Reads an operand. -/
def read? : List Char → Option Operand
  | 'V' :: digits => (Numeral.digitsValue 16 digits).map register
  | '#' :: digits => (Numeral.digitsValue 16 digits).map value
  | '$' :: digits => (Numeral.digitsValue 16 digits).map place
  | ['I'] => some index
  | ['[', 'I', ']'] => some block
  | ['D', 'T'] => some delay
  | ['S', 'T'] => some sound
  | ['K'] => some key
  | ['F'] => some font
  | ['B'] => some decimal
  | [] => some blank
  | _ => none

/-- Reads the operands that commas separate. Blanks between them do not count. -/
def readAll? (text : String) : Option (List Operand) :=
  ((text.toList.filter (· ≠ ' ')).splitOn ',').mapM read?

/-- A text is that of an operand: there is neither a comma nor a blank in it, and the operand
is read from it. -/
structure Reads (text : String) (operand : Operand) : Prop where
  /-- It is not taken apart. -/
  comma : ',' ∉ text.toList
  /-- Nothing in it is left out. -/
  blank : ' ' ∉ text.toList
  /-- It is read. -/
  read : read? text.toList = some operand

theorem comma_ne_digit : ∀ d : Fin 16, ',' ≠ Hex.digit d := by decide

theorem blank_ne_digit : ∀ d : Fin 16, ' ' ≠ Hex.digit d := by decide

theorem not_mem_numeral {mark c : Char} {width n : Nat} (hmark : c ≠ mark)
    (hdigit : ∀ d : Fin 16, c ≠ Hex.digit d) : c ∉ mark :: (Hex.numeral width n).toList := by
  rw [List.mem_cons, not_or]
  refine ⟨hmark, fun hmem => ?_⟩
  obtain ⟨d, hd⟩ := Hex.exists_digit_of_mem_numeral hmem
  exact hdigit d hd

theorem reads_numeral {mark : String} {c : Char} {kind : Nat → Operand} (width n : Nat)
    (hmark : mark.toList = [c]) (hcomma : ',' ≠ c) (hblank : ' ' ≠ c)
    (hread : ∀ digits, read? (c :: digits) = (Numeral.digitsValue 16 digits).map kind) :
    Reads (mark ++ Hex.numeral width n) (kind n) := by
  have htext : (mark ++ Hex.numeral width n).toList = c :: (Hex.numeral width n).toList := by
    rw [String.toList_append, hmark, List.singleton_append]
  constructor
  · rw [htext]
    exact not_mem_numeral hcomma comma_ne_digit
  · rw [htext]
    exact not_mem_numeral hblank blank_ne_digit
  · rw [htext, hread, Numeral.digitsValue_numeral, Option.map_some]

theorem reads_register (x : Register) : Reads (Assembly.register x) (register x.val) :=
  reads_numeral 1 x.val rfl (by decide) (by decide) fun _ => rfl

theorem reads_value (width n : Nat) : Reads ("#" ++ Hex.numeral width n) (value n) :=
  reads_numeral width n rfl (by decide) (by decide) fun _ => rfl

theorem reads_place (width n : Nat) : Reads ("$" ++ Hex.numeral width n) (place n) :=
  reads_numeral width n rfl (by decide) (by decide) fun _ => rfl

variable {text rest : String} {operand : Operand} {operands : List Operand}

theorem Reads.filter_ne_blank (h : Reads text operand) :
    text.toList.filter (· ≠ ' ') = text.toList :=
  List.filter_eq_self.2 fun _ hc => decide_eq_true (ne_of_mem_of_not_mem hc h.blank)

theorem Reads.beq_comma (h : Reads text operand) : ∀ c ∈ text.toList, (c == ',') = false :=
  fun _ hc => beq_false_of_ne (ne_of_mem_of_not_mem hc h.comma)

theorem Reads.readAll? (h : Reads text operand) : readAll? text = some [operand] := by
  have hsplit : text.toList.splitOn ',' = [text.toList] :=
    List.splitOnP_eq_singleton h.beq_comma
  rw [Operand.readAll?, h.filter_ne_blank, hsplit, List.mapM_cons, h.read, List.mapM_nil]
  rfl

theorem Reads.readAll?_pair (h : Reads text operand)
    (hrest : Operand.readAll? rest = some operands) :
    Operand.readAll? (Assembly.pair text rest) = some (operand :: operands) := by
  have hfilter : (Assembly.pair text rest).toList.filter (· ≠ ' ') =
      text.toList ++ ',' :: rest.toList.filter (· ≠ ' ') := by
    rw [Assembly.pair, String.toList_append, String.toList_append, List.filter_append,
      List.filter_append, h.filter_ne_blank, List.append_assoc]
    rfl
  have hsplit : (text.toList ++ ',' :: rest.toList.filter (· ≠ ' ')).splitOn ',' =
      text.toList :: (rest.toList.filter (· ≠ ' ')).splitOn ',' :=
    List.splitOnP_append_cons_of_forall_mem h.beq_comma _ rfl _
  rw [Operand.readAll?] at hrest
  rw [Operand.readAll?, hfilter, hsplit, List.mapM_cons, h.read, hrest]
  rfl

end Operand

/-! ## Instructions -/

namespace Instruction

open Operand (register value place)

/-- The operands of an instruction, in the order in which they are written. -/
def fields : Instruction → List Operand
  | cls | ret => [.blank]
  | sys nnn | jump nnn | call nnn => [place nnn.val]
  | skipIfByte x nn | skipUnlessByte x nn | setByte x nn | addByte x nn | random x nn =>
    [register x.val, value nn.toNat]
  | skipIfEqual x y | skipUnlessEqual x y | copy x y | or x y | and x y | xor x y | add x y
  | sub x y | subFrom x y | shiftRight x y | shiftLeft x y => [register x.val, register y.val]
  | setIndex nnn => [.index, place nnn.val]
  | jumpOffset nnn => [register 0, place nnn.val]
  | draw x y n => [register x.val, register y.val, value n.val]
  | skipIfDown x | skipUnlessDown x => [register x.val]
  | getDelay x => [register x.val, .delay]
  | awaitKey x => [register x.val, .key]
  | setDelay x => [.delay, register x.val]
  | setSound x => [.sound, register x.val]
  | addIndex x => [.index, register x.val]
  | digitSprite x => [.font, register x.val]
  | storeDecimal x => [.decimal, register x.val]
  | storeBlock x => [.block, register x.val]
  | loadBlock x => [register x.val, .block]

/-- The instruction with a mnemonic and operands, if there is one. Of numbers that are too large
the upper digits are lost. -/
def ofFields? (mnemonic : String) : List Operand → Option Instruction
  | [.blank] => [("CLS", cls), ("RET", ret)].lookup mnemonic
  | [.place n] =>
    ([("SYS", sys), ("JP", jump), ("CALL", call)].lookup mnemonic).map (· (.ofNat 4096 n))
  | [.register x] =>
    ([("SKP", skipIfDown), ("SKNP", skipUnlessDown)].lookup mnemonic).map (· (.ofNat 16 x))
  | [.register x, .value n] =>
    ([("SE", skipIfByte), ("SNE", skipUnlessByte), ("LD", setByte), ("ADD", addByte),
      ("RND", random)].lookup mnemonic).map (· (.ofNat 16 x) (.ofNat n))
  | [.register x, .register y] =>
    ([("SE", skipIfEqual), ("SNE", skipUnlessEqual), ("LD", copy), ("OR", or), ("AND", and),
      ("XOR", xor), ("ADD", add), ("SUB", sub), ("SUBN", subFrom), ("SHR", shiftRight),
      ("SHL", shiftLeft)].lookup mnemonic).map (· (.ofNat 16 x) (.ofNat 16 y))
  | [.register x, .register y, .value n] =>
    ([("DRW", draw)].lookup mnemonic).map (· (.ofNat 16 x) (.ofNat 16 y) (.ofNat 16 n))
  | [.index, .place n] => ([("LD", setIndex)].lookup mnemonic).map (· (.ofNat 4096 n))
  | [.register 0, .place n] => ([("JP", jumpOffset)].lookup mnemonic).map (· (.ofNat 4096 n))
  | [.register x, .delay] => ([("LD", getDelay)].lookup mnemonic).map (· (.ofNat 16 x))
  | [.register x, .key] => ([("LD", awaitKey)].lookup mnemonic).map (· (.ofNat 16 x))
  | [.register x, .block] => ([("LD", loadBlock)].lookup mnemonic).map (· (.ofNat 16 x))
  | [.delay, .register x] => ([("LD", setDelay)].lookup mnemonic).map (· (.ofNat 16 x))
  | [.sound, .register x] => ([("LD", setSound)].lookup mnemonic).map (· (.ofNat 16 x))
  | [.index, .register x] => ([("ADD", addIndex)].lookup mnemonic).map (· (.ofNat 16 x))
  | [.font, .register x] => ([("LD", digitSprite)].lookup mnemonic).map (· (.ofNat 16 x))
  | [.decimal, .register x] => ([("LD", storeDecimal)].lookup mnemonic).map (· (.ofNat 16 x))
  | [.block, .register x] => ([("LD", storeBlock)].lookup mnemonic).map (· (.ofNat 16 x))
  | _ => none

/-- Mnemonic and operands tell the instruction, although many instructions share a mnemonic, and
many more the kinds of their operands. -/
theorem ofFields?_fields (i : Instruction) : ofFields? i.assembly.mnemonic i.fields = some i := by
  cases i <;> simp [assembly, fields, ofFields?, List.lookup_cons]

/-- The operands are read from their text. -/
theorem readAll?_assembly (i : Instruction) :
    Operand.readAll? i.assembly.operands = some i.fields := by
  have hindex : Operand.Reads "I" .index := ⟨by decide, by decide, rfl⟩
  have hblock : Operand.Reads "[I]" .block := ⟨by decide, by decide, rfl⟩
  have hdelay : Operand.Reads "DT" .delay := ⟨by decide, by decide, rfl⟩
  have hsound : Operand.Reads "ST" .sound := ⟨by decide, by decide, rfl⟩
  have hkey : Operand.Reads "K" .key := ⟨by decide, by decide, rfl⟩
  have hfont : Operand.Reads "F" .font := ⟨by decide, by decide, rfl⟩
  have hdecimal : Operand.Reads "B" .decimal := ⟨by decide, by decide, rfl⟩
  have hblank : Operand.Reads "" .blank := ⟨by decide, by decide, rfl⟩
  have hzero : Operand.Reads "V0" (.register 0) := ⟨by decide, by decide, rfl⟩
  have hregister := Operand.reads_register
  cases i with
  | cls | ret => exact hblank.readAll?
  | sys nnn | jump nnn | call nnn => exact (Operand.reads_place 3 nnn.val).readAll?
  | skipIfByte x nn | skipUnlessByte x nn | setByte x nn | addByte x nn | random x nn =>
    exact (hregister x).readAll?_pair (Operand.reads_value 2 nn.toNat).readAll?
  | skipIfEqual x y | skipUnlessEqual x y | copy x y | or x y | and x y | xor x y | add x y
  | sub x y | subFrom x y | shiftRight x y | shiftLeft x y =>
    exact (hregister x).readAll?_pair (hregister y).readAll?
  | draw x y n =>
    exact (hregister x).readAll?_pair
      ((hregister y).readAll?_pair (Operand.reads_value 1 n.val).readAll?)
  | skipIfDown x | skipUnlessDown x => exact (hregister x).readAll?
  | setIndex nnn => exact hindex.readAll?_pair (Operand.reads_place 3 nnn.val).readAll?
  | jumpOffset nnn => exact hzero.readAll?_pair (Operand.reads_place 3 nnn.val).readAll?
  | getDelay x => exact (hregister x).readAll?_pair hdelay.readAll?
  | awaitKey x => exact (hregister x).readAll?_pair hkey.readAll?
  | loadBlock x => exact (hregister x).readAll?_pair hblock.readAll?
  | setDelay x => exact hdelay.readAll?_pair (hregister x).readAll?
  | setSound x => exact hsound.readAll?_pair (hregister x).readAll?
  | addIndex x => exact hindex.readAll?_pair (hregister x).readAll?
  | digitSprite x => exact hfont.readAll?_pair (hregister x).readAll?
  | storeDecimal x => exact hdecimal.readAll?_pair (hregister x).readAll?
  | storeBlock x => exact hblock.readAll?_pair (hregister x).readAll?

end Instruction

/-! ## Lines of assembly -/

namespace Assembly

/-- The number that is written as data. -/
def datum? : List Operand → Option Int
  | [.place n] | [.value n] => some n
  | _ => none

/-- The number that a line of assembly stands for: what is written as data, or else the word
of an instruction. -/
def number? (a : Assembly) : Option Int :=
  (Operand.readAll? a.operands).bind fun fields =>
    if a.mnemonic = "DW" ∨ a.mnemonic = "DB" then datum? fields
    else (Instruction.ofFields? a.mnemonic fields).map (·.encode.toNat)

theorem number?_assembly (i : Instruction) : i.assembly.number? = some (i.encode.toNat : Int) := by
  have hdata : ¬(i.assembly.mnemonic = "DW" ∨ i.assembly.mnemonic = "DB") :=
    not_or.2 i.mnemonic_assembly
  rw [number?, i.readAll?_assembly, Option.bind_some, if_neg hdata, i.ofFields?_fields,
    Option.map_some]

theorem number?_dataByte (b : UInt8) : (dataByte b).number? = some (b.toNat : Int) := by
  rw [number?, dataByte, byte, (Operand.reads_value 2 b.toNat).readAll?, Option.bind_some,
    if_pos (.inr rfl), datum?]

theorem number?_ofWord (w : Word) : (ofWord w).number? = some (w.toNat : Int) := by
  rw [ofWord]
  cases hdecode : Instruction.decode? w with
  | some i =>
    change i.assembly.number? = _
    rw [number?_assembly, Instruction.encode_of_decode? hdecode]
  | none =>
    change (dataWord w).number? = _
    rw [number?, dataWord, (Operand.reads_place 4 w.toNat).readAll?, Option.bind_some,
      if_pos (.inl rfl), datum?]

end Assembly

/-! ## Listings -/

namespace Listing

/-- The bytes that lines of assembly stand for, if each of them stands for some. -/
def assemble? : List Assembly → Option (List UInt8)
  | [] => some []
  | a :: rest => do
    let number ← a.number?
    let bytes ← assemble? rest
    some ((Line.mk 0 number a).bytes ++ bytes)

/-- **A listing can be assembled again.** -/
theorem assemble?_ofBytes (bytes : List UInt8) (address : Int) :
    assemble? ((ofBytes bytes address).map Line.assembly) = some bytes := by
  induction bytes, address using ofBytes.induct with
  | case1 high low rest address ih =>
    have hbytes := Line.bytes_ofWord 0 high low
    rw [Line.ofWord] at hbytes
    rw [ofBytes, List.map_cons, assemble?, ih, Assembly.number?_ofWord]
    exact congrArg (fun front => some (front ++ rest)) hbytes
  | case2 last address =>
    have hbytes := Line.bytes_ofByte 0 last
    rw [Line.ofByte] at hbytes
    rw [ofBytes, List.map_singleton, assemble?, Assembly.number?_dataByte]
    exact congrArg (fun front => some (front ++ [])) hbytes
  | case3 => rfl

example : assemble? [⟨"LD", "V3, [I]"⟩, ⟨"DW", "$0F5A"⟩, ⟨"DB", "#07"⟩] =
    some [0xF3, 0x65, 0x0F, 0x5A, 0x07] := by decide

/-- **Assembly loses nothing.** The bytes of a listing are assembled from its mnemonics and
operands, so no two lists of bytes are written alike, wherever they start. And the lines tile
the bytes: they follow one another by twos, each stands for two bytes that make up its word, the
more significant first, but for a last line that stands for the byte left over of an odd number,
and together they stand for all the bytes. -/
theorem assembly_lossless (rom : List UInt8) (start : Int) :
    let lines := ofBytes rom start
    assemble? (lines.map Line.assembly) = some rom ∧
      (∀ rom' start', (ofBytes rom' start').map Line.assembly = lines.map Line.assembly →
        rom' = rom) ∧
      (∀ (k : Nat) (line : Line), lines[k]? = some line →
        line.address = start + 2 * k ∧
          (¬line.IsByte → ∃ high low : UInt8, rom[2 * k]? = some high ∧
            rom[2 * k + 1]? = some low ∧ line.bytes = [high, low] ∧
              line.word = 256 * high.toNat + low.toNat) ∧
          (line.IsByte → k + 1 = lines.length ∧ ∃ last : UInt8, rom[2 * k]? = some last ∧
            line.bytes = [last] ∧ line.word = last.toNat)) ∧
      ((∃ line ∈ lines, line.IsByte) ↔ rom.length % 2 = 1) ∧
      lines.flatMap Line.bytes = rom := by
  intro lines
  refine ⟨assemble?_ofBytes rom start, fun rom' start' hsame => ?_, fun k line hk => ?_,
    exists_isByte_iff rom start, flatMap_bytes rom start⟩
  · have hassemble := assemble?_ofBytes rom' start'
    rw [hsame, assemble?_ofBytes rom start] at hassemble
    exact (Option.some.inj hassemble).symm
  · refine ⟨address_of_getElem? hk, fun hword => ?_, fun hbyte => ?_⟩
    · rcases getElem?_eq_some hk with ⟨high, low, hhigh, hlow, rfl⟩ | ⟨last, -, -, rfl⟩
      · refine ⟨high, low, hhigh, hlow, Line.bytes_ofWord _ high low, ?_⟩
        rw [Line.ofWord, Line.toNat_word_ofBytes, Int.natCast_add, Int.natCast_mul]
        rfl
      · exact absurd (Line.isByte_ofByte _ last) hword
    · rcases getElem?_eq_some hk with ⟨high, low, -, -, rfl⟩ | ⟨last, hlast, hlength, rfl⟩
      · exact absurd hbyte (Line.not_isByte_ofWord _ _)
      · refine ⟨?_, last, hlast, Line.bytes_ofByte _ last, rfl⟩
        rw [length_ofBytes]
        omega

end Listing

end Chip8
