import Chip8.Proofs.Lines
import Mathlib.Data.List.Induction

/-!
# Memory as a map of bytes

Whatever is asked of the store, it behaves like a map that has one byte for every address and
knows nothing of ranges, blocks and overlaps: at an address stands what was written there last,
or else what was loaded. Only the accesses that fail have to be told apart, and those change
nothing at all.

* `Access`, `Access.carryOut` — what the store is asked for, and what is done about it
* `Access.error?` — the error that an access ends in, if it does
* `Access.reply` — what an access that does not fail finds in a map of bytes
* `Access.written?`, `byteMap` — what an access writes to an address, and the map that a history
  of accesses asks for
* `Memory.image` — what a store holds after a program is loaded
* `Memory.access_eq` — an access fails, or it replies and writes
* `Memory.byteAt_afterAll` — the store is the map of its history
* `Memory.refines_byteMap` — the same from a loaded program on, with the accesses that fail
-/

namespace Chip8

/-! ## Accesses -/

/-- What the store is asked for. Addresses, lengths and values can be any integers. -/
inductive Access where
  /-- The byte at an address. -/
  | readByte (index : Int)
  /-- The bytes from an address on. -/
  | readBlock (index length : Int)
  /-- To hold an integer at an address. -/
  | writeByte (index n : Int)
  /-- To hold integers from an address on. -/
  | writeBlock (index : Int) (values : List Int)
deriving DecidableEq, Repr

/-- What an access that does not fail is told. -/
inductive Reply where
  /-- The byte that was asked for. -/
  | byte (b : UInt8)
  /-- The bytes that were asked for. -/
  | bytes (bs : List UInt8)
  /-- That everything was written. -/
  | written
deriving DecidableEq, Repr

namespace Access

/-- Looks something up in the store. -/
def look (find : Memory → Except WriteError Reply) : EStateM WriteError Memory Reply := do
  ofExcept (find (← get))

/-- Changes the store. -/
def change (write : Memory → Except WriteError Memory) : EStateM WriteError Memory Reply := do
  set (← ofExcept (write (← get)))
  return .written

/-- Carries an access out. -/
def carryOut : Access → EStateM WriteError Memory Reply
  | readByte index => look fun m => ((m.get index).map .byte).mapError .outOfRange
  | readBlock index length => look fun m => ((m.read index length).map .bytes).mapError .outOfRange
  | writeByte index n => change fun m => (m.set index n).mapError .outOfRange
  | writeBlock index values => change fun m => m.writeNumbers index values

/-- The first address of an access. -/
@[simp] def index : Access → Int
  | readByte index | readBlock index _ | writeByte index _ | writeBlock index _ => index

/-- The number of bytes of an access. -/
@[simp] def length : Access → Int
  | readByte _ | writeByte _ _ => 1
  | readBlock _ length => length
  | writeBlock _ values => values.length

/-- The integers that an access writes. -/
@[simp] def values : Access → List Int
  | readByte _ | readBlock _ _ => []
  | writeByte _ n => [n]
  | writeBlock _ values => values

/-- Whether one of the integers of a block does not fit into 64 bits. A single integer may have
any size. -/
@[simp] def TooWide : Access → Prop
  | writeBlock _ values => ∃ n ∈ values, fitsInt64 n = false
  | _ => False

instance : (a : Access) → Decidable a.TooWide
  | writeBlock _ values => inferInstanceAs (Decidable (∃ n ∈ values, fitsInt64 n = false))
  | readByte _ | readBlock _ _ | writeByte _ _ => inferInstanceAs (Decidable False)

/-- The error that an access ends in, if it does: that its integers are too wide, or else that
its range is not inside the store. -/
def error? (a : Access) : Option WriteError :=
  if a.TooWide then some .tooWide
  else if Memory.InRange a.index a.length then none
  else some (.outOfRange ⟨a.index, a.length⟩)

/-- What an access finds in a map of bytes. -/
@[simp] def reply (map : Nat → UInt8) : Access → Reply
  | readByte index => .byte (map index.toNat)
  | readBlock index length =>
    .bytes ((List.range length.toNat).map fun k => map (index.toNat + k))
  | writeByte _ _ | writeBlock _ _ => .written

/-- The byte that an access writes to an address, if it does. An access that fails writes
nothing. -/
def written? (a : Access) (address : Nat) : Option UInt8 :=
  if a.error? = none ∧ a.index ≤ address then
    a.values[address - a.index.toNat]?.map byteOf
  else none

theorem inRange_of_error? {a : Access} (h : a.error? = none) : Memory.InRange a.index a.length := by
  unfold error? at h
  split at h
  · cases h
  · split at h
    · assumption
    · cases h

/-- An access finds the same in maps that agree on the store. -/
theorem reply_congr {a : Access} {map map' : Nat → UInt8}
    (ha : Memory.InRange a.index a.length) (h : ∀ address < 4096, map address = map' address) :
    a.reply map = a.reply map' := by
  cases a with
  | readByte index =>
    obtain ⟨hstart, -, hend⟩ := ha
    simp only [Access.index, Access.length] at hstart hend
    rw [reply, reply, h _ (by omega)]
  | readBlock index length =>
    obtain ⟨hstart, -, hend⟩ := ha
    simp only [Access.index, Access.length] at hstart hend
    rw [reply, reply]
    congr 1
    apply List.map_congr_left
    intro k hk
    rw [List.mem_range] at hk
    exact h _ (by omega)
  | writeByte index n => rfl
  | writeBlock index values => rfl

end Access

/-! ## Maps -/

/-- The map of bytes that a history of accesses asks for: what was written to an address last, or
else what an image has there. -/
def byteMap (image : Nat → UInt8) (past : List Access) (address : Nat) : UInt8 :=
  (past.filterMap (·.written? address)).getLast?.getD (image address)

@[simp] theorem byteMap_nil (image : Nat → UInt8) : byteMap image [] = image := rfl

/-- One more access writes an address, or it leaves it alone. -/
theorem byteMap_concat (image : Nat → UInt8) (past : List Access) (a : Access) (address : Nat) :
    byteMap image (past ++ [a]) address =
      (a.written? address).getD (byteMap image past address) := by
  cases h : a.written? address <;> simp [byteMap, h]

namespace Memory

/-- What an access ends in or is told, and the store after it. -/
def access (m : Memory) (a : Access) : Except WriteError Reply × Memory :=
  match a.carryOut.run m with
  | .ok reply m' => (.ok reply, m')
  | .error e m' => (.error e, m')

/-- The store after a history of accesses. -/
def afterAll (m : Memory) (past : List Access) : Memory :=
  past.foldl (fun m a => (m.access a).2) m

variable {m : Memory} {a : Access}

@[simp] theorem afterAll_nil (m : Memory) : m.afterAll [] = m := rfl

theorem afterAll_concat (m : Memory) (past : List Access) (a : Access) :
    m.afterAll (past ++ [a]) = ((m.afterAll past).access a).2 :=
  List.foldl_append

theorem run_look (m : Memory) (find : Memory → Except WriteError Reply) :
    (Access.look find).run m =
      match find m with
      | .ok reply => .ok reply m
      | .error e => .error e m := by
  simp only [Access.look, EStateM.run_bind, EStateM.run_get]
  cases find m <;> rfl

theorem run_change (m : Memory) (write : Memory → Except WriteError Memory) :
    (Access.change write).run m =
      match write m with
      | .ok m' => .ok .written m'
      | .error e => .error e m := by
  simp only [Access.change, EStateM.run_bind, EStateM.run_get]
  cases write m <;> rfl

/-- An access fails and changes nothing, or it replies what it finds and writes its integers. -/
theorem access_eq (m : Memory) (a : Access) :
    m.access a =
      match a.error? with
      | some e => (.error e, m)
      | none => (.ok (a.reply m.byteAt), ⟨put m.bytes a.index.toNat (a.values.map byteOf)⟩) := by
  unfold access Access.error?
  cases a with
  | readByte index =>
    rw [Access.carryOut, run_look, get]
    by_cases h : InRange index 1 <;> simp [h, put, Except.map, Except.mapError]
  | readBlock index length =>
    rw [Access.carryOut, run_look, read]
    by_cases h : InRange index length <;> simp [h, put, Except.map, Except.mapError]
  | writeByte index n =>
    rw [Access.carryOut, run_change, Memory.set, write]
    by_cases h : InRange index 1 <;> simp [h, Except.mapError]
  | writeBlock index values =>
    rw [Access.carryOut, run_change, writeNumbers, write]
    by_cases hwide : (Access.writeBlock index values).TooWide
    · have hall : ¬values.all fitsInt64 = true := by simpa using hwide
      rw [if_neg hall, if_pos hwide]
    · have hall : values.all fitsInt64 = true := by simpa using hwide
      rw [if_pos hall, if_neg hwide]
      by_cases h : InRange index values.length <;> simp [h, Except.mapError]

theorem access_of_tooWide (m : Memory) (h : a.TooWide) : m.access a = (.error .tooWide, m) := by
  rw [access_eq, Access.error?, if_pos h]

theorem access_of_out (m : Memory) (hnarrow : ¬a.TooWide)
    (hout : a.index < 0 ∨ a.length < 0 ∨ 4096 < a.index + a.length) :
    m.access a = (.error (.outOfRange ⟨a.index, a.length⟩), m) := by
  have hrange : ¬InRange a.index a.length := by
    simp only [InRange]
    omega
  rw [access_eq, Access.error?, if_neg hnarrow, if_neg hrange]

theorem access_of_in {map : Nat → UInt8} (hmap : ∀ address < 4096, m.byteAt address = map address)
    (hnarrow : ¬a.TooWide) (hin : ¬(a.index < 0 ∨ a.length < 0 ∨ 4096 < a.index + a.length)) :
    (m.access a).1 = .ok (a.reply map) := by
  have hrange : InRange a.index a.length := by
    simp only [InRange]
    omega
  rw [access_eq, Access.error?, if_neg hnarrow, if_pos hrange, Access.reply_congr hrange hmap]

/-- An access writes its bytes and no others. -/
theorem byteAt_access (m : Memory) (a : Access) {address : Nat} (haddress : address < 4096) :
    (m.access a).2.byteAt address = (a.written? address).getD (m.byteAt address) := by
  rw [access_eq, Access.written?]
  cases herror : a.error? with
  | some e => simp
  | none =>
    obtain ⟨hstart, -, hend⟩ := Access.inRange_of_error? herror
    simp only [byteAt, getElem?_put, List.length_map, List.getElem?_map, true_and]
    by_cases hin : a.index ≤ address ∧ address < a.index.toNat + a.values.length
    · have hvalue : address - a.index.toNat < a.values.length := by omega
      rw [if_pos (by omega), if_pos hin.1, List.getElem?_eq_getElem hvalue]
      rfl
    · rw [if_neg (by omega)]
      by_cases hbefore : a.index ≤ address
      · rw [if_pos hbefore, List.getElem?_eq_none (by omega)]
        rfl
      · rw [if_neg hbefore]
        rfl

/-- **The store is the map of its history.** -/
theorem byteAt_afterAll (m : Memory) (past : List Access) {address : Nat}
    (haddress : address < 4096) :
    (m.afterAll past).byteAt address = byteMap m.byteAt past address := by
  induction past using List.reverseRecOn with
  | nil => rw [afterAll_nil, byteMap_nil]
  | append_singleton past a ih =>
    rw [afterAll_concat, byteAt_access _ _ haddress, ih, byteMap_concat]

/-! ## Programs -/

/-- What is loaded for a program that is given as integers: the font, the program from 512 on,
each integer reduced to a byte, and zero elsewhere. -/
def image (values : List Int) (address : Nat) : UInt8 :=
  if h : address < 80 then Font.sprites[address]
  else if 512 ≤ address ∧ address - 512 < values.length then byteOf (values.getD (address - 512) 0)
  else 0

theorem byteAt_load_eq_image {program : Program} {values : List Int}
    (h : program.bytes = (values.map byteOf).toArray) (address : Nat) :
    (load program).byteAt address = image values address := by
  rw [byteAt_load, image, h, programStart]
  split
  · rfl
  · by_cases hstart : 512 ≤ address
    · rw [if_pos hstart]
      by_cases hin : address - 512 < values.length
      · rw [if_pos ⟨hstart, hin⟩]
        simp [hin]
      · rw [if_neg (by omega)]
        simp [hin]
    · rw [if_neg hstart, if_neg (by omega)]

/-- **The store is a map of bytes.** A program of at most 3584 integers, each reduced to a byte, or
of bytes, is loaded. After any history of accesses every address holds what was written there
last, or else what was loaded. The next access fails if its integers are too wide, and otherwise
it fails exactly if its range is not inside the store. An access that fails names its range and
changes nothing, and one that does not is told what the map holds. -/
theorem refines_byteMap {values : List Int} (hsize : values.length ≤ 3584) :
    ∃ program, Program.ofBytes (values.map byteOf).toArray = .ok program ∧
      (∀ bytes : List UInt8, values = bytes.map (fun b => (b.toNat : Int)) →
        Program.ofBytes bytes.toArray = .ok program) ∧
      ((∀ n ∈ values, fitsInt64 n = true) → Program.ofNumbers values = .ok program) ∧
      ∀ (past : List Access) (a : Access),
        let m := (load program).afterAll past
        let map := byteMap (image values) past
        (∀ address < 4096, m.byteAt address = map address) ∧
        (a.TooWide → m.access a = (.error .tooWide, m)) ∧
        (¬a.TooWide → a.index < 0 ∨ a.length < 0 ∨ 4096 < a.index + a.length →
          m.access a = (.error (.outOfRange ⟨a.index, a.length⟩), m)) ∧
        (¬a.TooWide → ¬(a.index < 0 ∨ a.length < 0 ∨ 4096 < a.index + a.length) →
          (m.access a).1 = .ok (a.reply map)) := by
  have hfits : (values.map byteOf).toArray.size ≤ maxProgramSize := by
    rw [List.size_toArray, List.length_map]
    exact hsize
  have hprogram : Program.ofBytes (values.map byteOf).toArray = .ok ⟨_, hfits⟩ := dif_pos hfits
  refine ⟨_, hprogram, ?_, ?_, ?_⟩
  · rintro bytes rfl
    rw [← hprogram, List.map_map]
    congr
    simp [Function.comp_def, Line.byteOf_toNat]
  · intro hnarrow
    rw [Program.ofNumbers, if_pos (List.all_eq_true.2 hnarrow), hprogram]
    rfl
  · intro past a m map
    have hmap : ∀ address < 4096, m.byteAt address = map address := by
      intro address haddress
      have himage : (load ⟨_, hfits⟩).byteAt address = image values address :=
        byteAt_load_eq_image rfl address
      simp only [m, map, byteAt_afterAll _ _ haddress, byteMap, himage]
    exact ⟨hmap, access_of_tooWide m, access_of_out m, access_of_in hmap⟩

/-- A program of integers that are no bytes, a block with one of its bytes written over, and two
blocks that are refused: one ends outside the store, and one is too wide. -/
theorem refines_byteMap_overwrite :
    let values : List Int := [300, -1]
    let past : List Access :=
      [.writeBlock 513 [2, 3], .writeByte 513 263, .writeBlock 4095 [4, 5],
        .writeBlock 511 [0x8000000000000000]]
    ∃ program, Program.ofNumbers values = .ok program ∧
      (((load program).afterAll past).access (.readBlock 511 4)).1 =
        .ok (.bytes [0, 44, 7, 3]) := by
  intro values past
  have hsize : values.length ≤ 3584 := by decide
  obtain ⟨program, -, -, hnumbers, hmap⟩ := refines_byteMap hsize
  obtain ⟨-, -, -, hread⟩ := hmap past (.readBlock 511 4)
  refine ⟨program, hnumbers (by decide), ?_⟩
  rw [hread (by decide) (by decide)]
  decide

end Memory

end Chip8
