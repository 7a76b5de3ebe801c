import Chip8.Font
import Chip8.Number.Int64
import Chip8.Text.Hex

/-!
# Memory

The store of 4096 bytes, with the digit font at its start and the program from
`0x200` on. Every access names a range, and a range that is not inside the store
is refused, never clamped or wrapped.

* `Program`, `Program.ofBytes` — the bytes of a program, at most as many as fit
* `Program.ofNumbers` — a program made of integers, each reduced to a byte
* `Memory`, `Memory.load` — the store, and its image when a program is loaded
* `Memory.byteAt` — the view of the store as a byte at each address
* `Memory.read`, `Memory.write` — a range of bytes
* `Memory.writeNumbers` — a range of integers, each reduced to a byte
-/

namespace Chip8

/-! ## Bytes -/

/-- The byte that an integer is reduced to. -/
def byteOf (n : Int) : UInt8 := UInt8.ofNat (n % 256).toNat

/-! ## Programs -/

/-- The address at which programs are loaded. -/
def programStart : Nat := 0x200

/-- The number of bytes in the store. -/
def memorySize : Nat := 4096

/-- The most bytes that a program may have. -/
def maxProgramSize : Nat := memorySize - programStart

/-- A program that is too long for the store. -/
structure ProgramTooLarge where
  /-- The number of bytes of the program. -/
  size : Nat
deriving DecidableEq, Repr

/-- The report of a program that is too long. -/
def ProgramTooLarge.message (e : ProgramTooLarge) : String :=
  s!"program is too large: {e.size} bytes, max {maxProgramSize}"

/-- The bytes of a program that fits into the store. -/
structure Program where
  /-- The bytes, in the order in which they are loaded. -/
  bytes : Array UInt8
  /-- The bytes fit between `programStart` and the end of the store. -/
  fits : bytes.size ≤ maxProgramSize

/-- The program without bytes. -/
def Program.empty : Program := ⟨#[], Nat.zero_le _⟩

/-- The program with the given bytes, unless they are too many. -/
def Program.ofBytes (bytes : Array UInt8) : Except ProgramTooLarge Program :=
  if h : bytes.size ≤ maxProgramSize then .ok ⟨bytes, h⟩ else .error ⟨bytes.size⟩

/-- Why integers make no program. -/
inductive ProgramError where
  /-- One of them does not fit into a signed 64-bit number. -/
  | tooWide
  /-- They are too many. -/
  | tooLarge (e : ProgramTooLarge)
deriving DecidableEq, Repr

/-- The program of the given integers, each reduced to a byte. That every integer fits into
64 bits is asked before their number is. -/
def Program.ofNumbers (values : List Int) : Except ProgramError Program :=
  if values.all fitsInt64 then
    (Program.ofBytes (values.map byteOf).toArray).mapError .tooLarge
  else .error .tooWide

/-! ## The store -/

/-- A range of addresses that is not inside the store. -/
structure OutOfRange where
  /-- The first address of the range. -/
  index : Int
  /-- The number of bytes asked for. -/
  length : Int
deriving DecidableEq, Repr

/-- The report of a range outside the store. -/
def OutOfRange.message (e : OutOfRange) : String :=
  "memory access out of range at index 0x" ++ Hex.signed 1 e.index ++
    " with length " ++ toString e.length

/-- Why integers could not be written to the store. -/
inductive WriteError where
  /-- One of the values does not fit into a signed 64-bit number. -/
  | tooWide
  /-- The range is not inside the store. -/
  | outOfRange (e : OutOfRange)
deriving DecidableEq, Repr

/-- The store: one byte for each address. -/
structure Memory where
  /-- The bytes by address. -/
  bytes : Vector UInt8 4096
deriving DecidableEq

namespace Memory

/-- The store with the font at its start, the program from `programStart` on, and zero
everywhere else. -/
def load (program : Program) : Memory where
  bytes := Vector.ofFn fun a =>
    if h : a.val < 80 then Font.sprites[a.val]
    else if programStart ≤ a.val then program.bytes.getD (a.val - programStart) 0
    else 0

/-- The byte at an address; zero outside the store. -/
def byteAt (m : Memory) (address : Nat) : UInt8 := m.bytes[address]?.getD 0

/-- Whether `length` bytes from `index` on lie inside the store. -/
def InRange (index length : Int) : Prop := 0 ≤ index ∧ 0 ≤ length ∧ index + length ≤ 4096

instance (index length : Int) : Decidable (InRange index length) :=
  inferInstanceAs (Decidable (_ ∧ _ ∧ _))

/-- The `length` bytes from `index` on. -/
def read (m : Memory) (index length : Int) : Except OutOfRange (List UInt8) :=
  if InRange index length then
    .ok ((List.range length.toNat).map fun k => m.byteAt (index.toNat + k))
  else .error ⟨index, length⟩

/-- The byte at `index`. -/
def get (m : Memory) (index : Int) : Except OutOfRange UInt8 :=
  if InRange index 1 then .ok (m.byteAt index.toNat) else .error ⟨index, 1⟩

/-- The bytes with `values` in the places from `start` on. -/
def put (bytes : Vector UInt8 4096) : Nat → List UInt8 → Vector UInt8 4096
  | _, [] => bytes
  | start, b :: rest => put (bytes.setIfInBounds start b) (start + 1) rest

/-- The store with `values` from `index` on. -/
def write (m : Memory) (index : Int) (values : List UInt8) : Except OutOfRange Memory :=
  if InRange index values.length then .ok ⟨put m.bytes index.toNat values⟩
  else .error ⟨index, values.length⟩

/-- The store with an integer at `index`, reduced to a byte. -/
def set (m : Memory) (index n : Int) : Except OutOfRange Memory := m.write index [byteOf n]

/-- The store with integers from `index` on, each reduced to a byte. That every integer
fits into 64 bits is asked before the range is. -/
def writeNumbers (m : Memory) (index : Int) (values : List Int) : Except WriteError Memory :=
  if values.all fitsInt64 then
    (m.write index (values.map byteOf)).mapError .outOfRange
  else .error .tooWide

/-! ## Ranges -/

theorem not_inRange_iff {index : Int} {length : Nat} :
    ¬InRange index length ↔ index < 0 ∨ 4096 < index + length := by
  simp only [InRange]
  omega

/-! ## The view -/

theorem getElem?_put (bytes : Vector UInt8 4096) (start : Nat) (values : List UInt8) (a : Nat) :
    (put bytes start values)[a]? =
      if a < 4096 ∧ start ≤ a ∧ a < start + values.length then values[a - start]?
      else bytes[a]? := by
  induction values generalizing bytes start with
  | nil => simp only [put, List.length_nil]; rw [if_neg (by omega)]
  | cons b rest ih =>
    simp only [put, ih, List.length_cons]
    by_cases h : start = a
    · subst h
      by_cases hlt : start < 4096
      · rw [if_neg (by omega), if_pos (by omega)]
        simp [hlt]
      · rw [if_neg (by omega), if_neg (by omega)]
        simp [hlt]
    · have hget : (bytes.setIfInBounds start b)[a]? = bytes[a]? :=
        Vector.getElem?_setIfInBounds_ne h
      by_cases hin : a < 4096 ∧ start + 1 ≤ a ∧ a < start + 1 + rest.length
      · rw [if_pos hin, if_pos (by omega), show a - start = a - (start + 1) + 1 by omega,
          List.getElem?_cons_succ]
      · rw [if_neg hin, if_neg (by omega), hget]

/-- After a write, the range holds the values and every other address what it held. -/
theorem byteAt_of_write {m m' : Memory} {index : Int} {values : List UInt8}
    (h : m.write index values = .ok m') (a : Nat) :
    m'.byteAt a =
      if index ≤ a ∧ (a : Int) < index + values.length then values.getD (a - index.toNat) 0
      else m.byteAt a := by
  simp only [write] at h
  split at h
  · next hr =>
    cases h
    obtain ⟨h0, h1, h2⟩ := hr
    simp only [byteAt, getElem?_put]
    by_cases ha : index ≤ a ∧ (a : Int) < index + values.length
    · rw [if_pos (by omega), if_pos ha, List.getD_eq_getElem?_getD]
    · rw [if_neg (by omega), if_neg ha]
  · cases h

/-- The image of a loaded program. -/
theorem byteAt_load (program : Program) (a : Nat) :
    (load program).byteAt a =
      if h : a < 80 then Font.sprites[a]
      else if programStart ≤ a then program.bytes.getD (a - programStart) 0 else 0 := by
  have hfits := program.fits
  simp only [maxProgramSize, memorySize, programStart] at hfits
  by_cases ha : a < 4096
  · simp [byteAt, load, ha]
  · have hlarge : ¬ a - programStart < program.bytes.size := by
      simp only [programStart]; omega
    rw [dif_neg (by omega), if_pos (by simp only [programStart]; omega)]
    simp [byteAt, Array.getD, hlarge, Vector.getElem?_eq_none (Nat.not_lt.1 ha)]

end Memory

end Chip8
