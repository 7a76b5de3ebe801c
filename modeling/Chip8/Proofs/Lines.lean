import Chip8.Listing

/-!
# The lines of a listing

A listing goes through its bytes two at a time. So the place of a line tells which bytes it
shows, and where: the lines follow one another without a gap, each stands for two bytes, and
only a last line can stand for a single byte.

* `Line.ofWord`, `Line.ofByte` — the two kinds of lines
* `Line.IsByte`, `Line.bytes` — which kind a line is, and the bytes that it stands for
* `Listing.getElem?_ofBytes` — the line at a place
* `Listing.flatMap_bytes` — the bytes of the lines are those that were listed
* `Listing.exists_of_mem`, `Listing.eq_of_address_eq` — a line of two bytes, and lines told by
  their addresses
-/

namespace Chip8

/-! ## Lines -/

theorem Instruction.mnemonic_assembly (i : Instruction) :
    i.assembly.mnemonic ≠ "DW" ∧ i.assembly.mnemonic ≠ "DB" := by
  cases i <;> simp only [assembly] <;> decide

/-- A word is never written like a single byte. -/
theorem Assembly.mnemonic_ofWord_ne (w : Word) : (Assembly.ofWord w).mnemonic ≠ "DB" := by
  rw [ofWord]
  cases Instruction.decode? w with
  | some i => exact i.mnemonic_assembly.2
  | none =>
    simp only [dataWord]
    decide

namespace Line

/-- The line of a word at an address. -/
def ofWord (address : Int) (w : Word) : Line := ⟨address, w.toNat, .ofWord w⟩

/-- The line of a byte at an address. -/
def ofByte (address : Int) (b : UInt8) : Line := ⟨address, b.toNat, .dataByte b⟩

/-- Whether a line shows a single byte. -/
def IsByte (line : Line) : Prop := line.assembly.mnemonic = "DB"

instance (line : Line) : Decidable line.IsByte := inferInstanceAs (Decidable (_ = _))

/-- The bytes that a line stands for: a single one, or those of its word, the more significant
first. -/
def bytes (line : Line) : List UInt8 :=
  if line.IsByte then [byteOf line.word] else [byteOf (line.word / 256), byteOf line.word]

variable (address : Int)

theorem not_isByte_ofWord (w : Word) : ¬(ofWord address w).IsByte :=
  Assembly.mnemonic_ofWord_ne w

theorem isByte_ofByte (b : UInt8) : (ofByte address b).IsByte := rfl

theorem byteOf_toNat (b : UInt8) : byteOf b.toNat = b := by
  have := b.toNat_lt
  apply UInt8.toNat_inj.1
  rw [byteOf, UInt8.toNat_ofNat']
  omega

theorem toNat_word_ofBytes (high low : UInt8) :
    (Word.ofBytes high low).toNat = 256 * high.toNat + low.toNat := by
  simp only [Word.ofBytes, Word.toNat, Word.highDigit, Word.lowDigit]
  omega

theorem bytes_ofWord (high low : UInt8) :
    (ofWord address (.ofBytes high low)).bytes = [high, low] := by
  have hhigh := high.toNat_lt
  have hlow := low.toNat_lt
  rw [bytes, if_neg (not_isByte_ofWord _ _)]
  have hquotient : ((256 * high.toNat + low.toNat : Nat) : Int) / 256 = high.toNat := by omega
  have hrest : byteOf (256 * high.toNat + low.toNat : Nat) = byteOf low.toNat := by
    rw [byteOf, byteOf, show ((256 * high.toNat + low.toNat : Nat) : Int) % 256 =
      (low.toNat : Int) % 256 by omega]
  rw [ofWord, toNat_word_ofBytes, hquotient, hrest, byteOf_toNat, byteOf_toNat]

theorem bytes_ofByte (b : UInt8) : (ofByte address b).bytes = [b] := by
  rw [bytes, if_pos (isByte_ofByte _ _), ofByte, byteOf_toNat]

end Line

/-! ## Listings -/

namespace Listing

variable {bytes : List UInt8} {address : Int} {k : Nat} {line line' : Line}

/-- The bytes of the lines, one after the other, are those that were listed. -/
theorem flatMap_bytes (bytes : List UInt8) (address : Int) :
    (ofBytes bytes address).flatMap Line.bytes = bytes := by
  induction bytes, address using ofBytes.induct with
  | case1 high low rest address ih =>
    have hline := Line.bytes_ofWord address high low
    rw [ofBytes, List.flatMap_cons, ih]
    exact congrArg (· ++ rest) hline
  | case2 last address => exact (List.flatMap_singleton ..).trans (Line.bytes_ofByte address last)
  | case3 => rfl

/-- The line at a place shows the bytes at twice that place, as far as there are any. -/
theorem getElem?_ofBytes (bytes : List UInt8) (address : Int) (k : Nat) :
    (ofBytes bytes address)[k]? =
      match bytes[2 * k]?, bytes[2 * k + 1]? with
      | some high, some low => some (.ofWord (address + 2 * k) (.ofBytes high low))
      | some last, none => some (.ofByte (address + 2 * k) last)
      | none, _ => none := by
  induction bytes, address using ofBytes.induct generalizing k with
  | case1 high low rest address ih =>
    rw [ofBytes]
    cases k with
    | zero =>
      rw [Int.natCast_zero, Int.mul_zero, Int.add_zero]
      rfl
    | succ k =>
      -- the rest of the lines starts two bytes further on
      have haddress : address + 2 * (k + 1 : Nat) = address + 2 + 2 * k := by omega
      rw [List.getElem?_cons_succ, ih, haddress]
      rfl
  | case2 last address =>
    rw [ofBytes]
    cases k with
    | zero =>
      rw [Int.natCast_zero, Int.mul_zero, Int.add_zero]
      rfl
    | succ k => rfl
  | case3 => rfl

theorem length_ofBytes (bytes : List UInt8) (address : Int) :
    (ofBytes bytes address).length = (bytes.length + 1) / 2 := by
  induction bytes, address using ofBytes.induct with
  | case1 high low rest address ih =>
    rw [ofBytes, List.length_cons, ih, List.length_cons, List.length_cons]
    omega
  | case2 last address => simp [ofBytes]
  | case3 => rfl

/-- What a line can be: that of two bytes, or that of a byte left over at the end. -/
theorem getElem?_eq_some (h : (ofBytes bytes address)[k]? = some line) :
    (∃ high low, bytes[2 * k]? = some high ∧ bytes[2 * k + 1]? = some low ∧
        line = .ofWord (address + 2 * k) (.ofBytes high low)) ∨
      ∃ last, bytes[2 * k]? = some last ∧ bytes.length = 2 * k + 1 ∧
        line = .ofByte (address + 2 * k) last := by
  rw [getElem?_ofBytes] at h
  split at h
  · next high low hhigh hlow => exact .inl ⟨high, low, hhigh, hlow, (Option.some.inj h).symm⟩
  · next last hlast hnone =>
    have hle := List.getElem?_eq_none_iff.1 hnone
    obtain ⟨hlt, -⟩ := List.getElem?_eq_some_iff.1 hlast
    exact .inr ⟨last, hlast, by omega, (Option.some.inj h).symm⟩
  · cases h

theorem address_of_getElem? (h : (ofBytes bytes address)[k]? = some line) :
    line.address = address + 2 * k := by
  rcases getElem?_eq_some h with ⟨high, low, -, -, rfl⟩ | ⟨last, -, -, rfl⟩ <;> rfl

/-- A line that is not for a single byte shows a word of two bytes. -/
theorem exists_of_mem (h : line ∈ ofBytes bytes address) (hword : ¬line.IsByte) :
    ∃ (k : Nat) (high low : UInt8), bytes[2 * k]? = some high ∧ bytes[2 * k + 1]? = some low ∧
      line = .ofWord (address + 2 * k) (.ofBytes high low) := by
  obtain ⟨k, hk⟩ := List.mem_iff_getElem?.1 h
  rcases getElem?_eq_some hk with hline | ⟨last, -, -, rfl⟩
  · exact ⟨k, hline⟩
  · exact absurd (Line.isByte_ofByte _ last) hword

/-- There is a line for a single byte exactly if the number of bytes is odd. -/
theorem exists_isByte_iff (bytes : List UInt8) (address : Int) :
    (∃ line ∈ ofBytes bytes address, line.IsByte) ↔ bytes.length % 2 = 1 := by
  constructor
  · rintro ⟨line, hmem, hbyte⟩
    obtain ⟨k, hk⟩ := List.mem_iff_getElem?.1 hmem
    rcases getElem?_eq_some hk with ⟨high, low, -, -, rfl⟩ | ⟨last, -, hlength, -⟩
    · exact absurd hbyte (Line.not_isByte_ofWord _ _)
    · omega
  · intro hodd
    obtain ⟨last, hlast⟩ : ∃ last, bytes[2 * (bytes.length / 2)]? = some last :=
      ⟨_, List.getElem?_eq_getElem (by omega)⟩
    have hnone : bytes[2 * (bytes.length / 2) + 1]? = none := List.getElem?_eq_none (by omega)
    have hline := getElem?_ofBytes bytes address (bytes.length / 2)
    rw [hlast, hnone] at hline
    exact ⟨_, List.mem_of_getElem? hline, Line.isByte_ofByte _ last⟩

/-- Lines at one address are one line. -/
theorem eq_of_address_eq (h : line ∈ ofBytes bytes address) (h' : line' ∈ ofBytes bytes address)
    (haddress : line.address = line'.address) : line = line' := by
  obtain ⟨k, hk⟩ := List.mem_iff_getElem?.1 h
  obtain ⟨k', hk'⟩ := List.mem_iff_getElem?.1 h'
  have hplace : k = k' := by
    rw [address_of_getElem? hk, address_of_getElem? hk'] at haddress
    omega
  subst hplace
  exact Option.some.inj (hk.symm.trans hk')

end Listing

end Chip8
