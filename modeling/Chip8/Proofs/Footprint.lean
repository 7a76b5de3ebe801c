import Chip8.Proofs.Calls
import Chip8.Proofs.Faults
import Chip8.Proofs.Parity
import Chip8.Proofs.Randomness
import Chip8.Proofs.Timers

/-!
# What an instruction may change

Most instructions change one thing and leave everything else alone. What an instruction may
change is written down as a table, one line for each kind of change, and the machine is looked
at part by part: a part that the table does not name stays as it is. The two instructions that
write to the store also put the right bytes there.

* `Part`, `Part.Same` — the parts of a machine, and whether two machines agree in one
* `Instruction.result?`, `Instruction.setsFlag` — the registers that an instruction computes
* `Instruction.Touches`, `Instruction.touches_register_iff` — the table
* `Memory.read_of_write`, `Memory.read_eq_ok_iff` — what was written is read back, and what is
  read are the bytes of the block
* `Part.same_perform`, `Part.same_of_cycleFrom` — everything else stays
* `Machine.changes_only_footprint` — the same for every cycle that succeeds, with the bytes that
  are written
-/

namespace Chip8

/-! ## The table -/

/-- A part of a machine that instructions can change. -/
inductive Part where
  /-- The byte of the store at an address. -/
  | byte (address : Nat)
  /-- The screen. -/
  | screen
  /-- The stack of return addresses. -/
  | stack
  /-- The index register. -/
  | index
  /-- The delay timer. -/
  | delay
  /-- The sound timer. -/
  | sound
  /-- The source of random bytes. -/
  | source
  /-- A register. -/
  | register (r : Register)
deriving DecidableEq, Repr

/-- Whether a part is the same in two machines. -/
def Part.Same (m m' : Machine) : Part → Prop
  | byte address => m'.memory.byteAt address = m.memory.byteAt address
  | screen => m'.screen = m.screen
  | stack => m'.stack = m.stack
  | index => m'.index = m.index
  | delay => m'.delay = m.delay
  | sound => m'.sound = m.sound
  | source => m'.source = m.source
  | register r => m'.reg r = m.reg r

namespace Instruction

/-- The register `VX` of the instructions that set it: `6XNN`, `7XNN`, `8XYN`, `CXNN`, `FX07` and
`FX0A`. -/
def result? : Instruction → Option Register
  | setByte x _ | addByte x _ | copy x _ | or x _ | and x _ | xor x _ | add x _ | sub x _
  | shiftRight x _ | subFrom x _ | shiftLeft x _ | random x _ | getDelay x | awaitKey x => some x
  | _ => none

/-- Whether an instruction sets the flag register: `8XY4` to `8XY7`, `8XYE` and `DXYN` do. -/
def setsFlag : Instruction → Bool
  | add _ _ | sub _ _ | shiftRight _ _ | subFrom _ _ | shiftLeft _ _ | draw _ _ _ => true
  | _ => false

/-- The parts that an instruction may change, when the index register holds `index`. -/
inductive Touches (index : Int) : Instruction → Part → Prop where
  /-- `FX33` writes three bytes. -/
  | digits {x : Register} {address : Nat} (h : index ≤ address ∧ address < index + 3) :
      Touches index (.storeDecimal x) (.byte address)
  /-- `FX55` writes a byte for each of `V0` to `VX`. -/
  | block {x : Register} {address : Nat} (h : index ≤ address ∧ address ≤ index + x.val) :
      Touches index (.storeBlock x) (.byte address)
  /-- `00E0` clears the screen. -/
  | clear : Touches index .cls .screen
  /-- `DXYN` draws on it. -/
  | draw {x y : Register} {n : Nibble} : Touches index (.draw x y n) .screen
  /-- `2NNN` calls. -/
  | call {nnn : Address} : Touches index (.call nnn) .stack
  /-- `00EE` returns. -/
  | ret : Touches index .ret .stack
  /-- `ANNN` sets the index register. -/
  | setIndex {nnn : Address} : Touches index (.setIndex nnn) .index
  /-- `FX1E` adds to it. -/
  | addIndex {x : Register} : Touches index (.addIndex x) .index
  /-- `FX29` sets it to a digit sprite. -/
  | digitSprite {x : Register} : Touches index (.digitSprite x) .index
  /-- `FX55` moves it past the block that is stored. -/
  | storeBlock {x : Register} : Touches index (.storeBlock x) .index
  /-- `FX65` moves it past the block that is loaded. -/
  | loadBlock {x : Register} : Touches index (.loadBlock x) .index
  /-- `FX15` sets the delay timer. -/
  | setDelay {x : Register} : Touches index (.setDelay x) .delay
  /-- `FX18` sets the sound timer. -/
  | setSound {x : Register} : Touches index (.setSound x) .sound
  /-- `CXNN` takes a random byte. -/
  | random {x : Register} {nn : UInt8} : Touches index (.random x nn) .source
  /-- `VX` is set by the instructions that compute it. -/
  | result {i : Instruction} {x : Register} (h : i.result? = some x) : Touches index i (.register x)
  /-- `VF` is set by the instructions that have a flag. -/
  | flag {i : Instruction} (h : i.setsFlag = true) : Touches index i (.register flagRegister)
  /-- `FX65` loads `V0` to `VX`. -/
  | loaded {x r : Register} (h : r ≤ x) : Touches index (.loadBlock x) (.register r)

/-- The registers that an instruction may change: the one that it computes, the flag, and those
that it loads. -/
theorem touches_register_iff {index : Int} {i : Instruction} {r : Register} :
    i.Touches index (.register r) ↔
      i.result? = some r ∨ (i.setsFlag = true ∧ r = flagRegister) ∨
        ∃ x, i = .loadBlock x ∧ r ≤ x := by
  constructor
  · intro h
    cases h with
    | result hx => exact .inl hx
    | flag hi => exact .inr (.inl ⟨hi, rfl⟩)
    | loaded hr => exact .inr (.inr ⟨_, rfl, hr⟩)
  · rintro (hx | ⟨hi, rfl⟩ | ⟨x, rfl, hr⟩)
    · exact .result hx
    · exact .flag hi
    · exact .loaded hr

end Instruction

/-! ## Blocks of bytes -/

namespace Memory

/-- What was written is read back. -/
theorem read_of_write {m m' : Memory} {index : Int} {values : List UInt8}
    (h : m.write index values = .ok m') : m'.read index values.length = .ok values := by
  have hin : InRange index values.length := by
    unfold write at h
    split at h
    · assumption
    · cases h
  rw [read, if_pos hin]
  congr 1
  apply List.ext_getElem
  · simp
  · intro k hk hk'
    have hstart := hin.1
    have hplace : index.toNat + k - index.toNat = k := Nat.add_sub_cancel_left ..
    simp only [List.getElem_map, List.getElem_range]
    rw [byteAt_of_write h, if_pos (by omega), hplace]
    simp [hk']

/-- Reading succeeds inside the store, with the bytes at the addresses of the block. -/
theorem read_eq_ok_iff {m : Memory} {index length : Int} {bytes : List UInt8} :
    m.read index length = .ok bytes ↔ InRange index length ∧
      ((List.range length.toNat).map fun k => m.byteAt (index.toNat + k)) = bytes := by
  rw [read]
  split <;> simp [*]

theorem get_of_read {m : Memory} {index : Int} {bytes : List UInt8} {length : Nat}
    (h : m.read index length = .ok bytes) {k : Nat} (hk : k < length) :
    m.get (index + k) = .ok (bytes.getD k 0) := by
  obtain ⟨⟨hstart, -, hend⟩, rfl⟩ := read_eq_ok_iff.1 h
  have hplace : (index + k).toNat = index.toNat + k := by omega
  have hrange : InRange (index + k) 1 := by
    simp only [InRange]
    omega
  rw [get, if_pos hrange, hplace]
  simp [hk]

end Memory

theorem decimalDigits_eq (b : UInt8) :
    ∃ h t u : UInt8, Effect.decimalDigits b.toNat = [h, t, u] ∧
      h.toNat ≤ 9 ∧ t.toNat ≤ 9 ∧ u.toNat ≤ 9 ∧
      100 * h.toNat + 10 * t.toNat + u.toNat = b.toNat := by
  have := b.toNat_lt
  refine ⟨_, _, _, rfl, ?_⟩
  simp only [UInt8.toNat_ofNat']
  omega

namespace Machine

variable {m m' : Machine} {i : Instruction}

theorem write_eq_overwrite {bytes : List UInt8} (h : m.blockFault bytes.length = none) :
    m.memory.write m.index bytes = .ok (m.overwrite bytes).memory :=
  if_pos (blockFault_eq_none_iff.1 h)

theorem read_eq_bytesAtIndex {length : Nat} (h : m.blockFault length = none) :
    m.memory.read m.index length = .ok (m.bytesAtIndex length) :=
  if_pos (blockFault_eq_none_iff.1 h)

theorem byteAt_overwrite {bytes : List UInt8} (h : m.blockFault bytes.length = none)
    {address : Nat} (hout : ¬(m.index ≤ address ∧ address < m.index + bytes.length)) :
    (m.overwrite bytes).memory.byteAt address = m.memory.byteAt address := by
  rw [Memory.byteAt_of_write (write_eq_overwrite h), if_neg hout]

/-! ## Registers -/

theorem reg_setReg (m : Machine) (x r : Register) (value : UInt8) :
    (m.setReg x value).reg r = if r = x then value else m.reg r := by
  simp only [reg, setReg, Fin.getElem_fin, Vector.getElem_set, Fin.ext_iff, eq_comm]

theorem reg_setFlagged (m : Machine) (x r : Register) (value flag : UInt8) :
    (m.setFlagged x value flag).reg r =
      if r = flagRegister then flag else if r = x then value else m.reg r := by
  simp only [setFlagged, reg_setReg]

@[simp] theorem reg_onward (m : Machine) (r : Register) : m.onward.reg r = m.reg r := rfl

@[simp] theorem reg_latch (m : Machine) (now before : Keypad) (r : Register) :
    (m.latch now before).reg r = m.reg r := rfl

@[simp] theorem reg_counted (m : Machine) (r : Register) : m.counted.reg r = m.reg r := rfl

theorem reg_drawn (m : Machine) (x y r : Register) (sprite : List UInt8) :
    (m.drawn x y sprite).reg r =
      if r = flagRegister then flag (m.screen.collides (m.reg x).toNat (m.reg y).toNat sprite)
      else m.reg r :=
  m.reg_setReg flagRegister r _

theorem getD_block (m : Machine) {x r : Register} (h : r ≤ x) :
    (m.block x).getD r.val 0 = m.reg r := by
  have hr : r.val < x.val + 1 := Nat.lt_succ_of_le h
  simp [block, reg, hr]

theorem reg_perform_loadBlock (m : Machine) (x r : Register) :
    (m.perform (.loadBlock x)).reg r =
      (m.bytesAtIndex (x.val + 1)).getD r.val (m.reg r) := by
  simp [perform, onward, pastBlock, reg, loadedRegisters, Vector.get]

/-! ## What stays -/

/-- A byte of the store that is not written stays. -/
theorem byteAt_perform (hrefusal : m.refusal i = none) {address : Nat}
    (h : ¬i.Touches m.index (.byte address)) :
    (m.perform i).memory.byteAt address = m.memory.byteAt address := by
  cases i with
  | storeDecimal x =>
    have hfits : m.blockFault (Effect.decimalDigits (m.reg x).toNat).length = none := hrefusal
    refine byteAt_overwrite hfits ?_
    intro hin
    exact h (.digits hin)
  | storeBlock x =>
    have hfits : m.blockFault (m.block x).length = none := by rwa [length_block]
    refine byteAt_overwrite hfits ?_
    rw [length_block]
    intro hin
    exact h (.block (by omega))
  | loadBlock x => simp only [perform, onward, pastBlock]
  | awaitKey x =>
    simp only [perform]
    split <;> rfl
  | _ => rfl

/-- Few instructions move the index register. -/
theorem index_perform (h : ¬i.Touches m.index .index) : (m.perform i).index = m.index := by
  cases i with
  | setIndex nnn => exact absurd .setIndex h
  | addIndex x => exact absurd .addIndex h
  | digitSprite x => exact absurd .digitSprite h
  | storeBlock x => exact absurd .storeBlock h
  | loadBlock x => exact absurd .loadBlock h
  | awaitKey x =>
    simp only [perform]
    split <;> rfl
  | _ => rfl

/-- A register that is neither computed nor loaded stays. -/
theorem reg_perform {r : Register} (h : ¬i.Touches m.index (.register r)) :
    (m.perform i).reg r = m.reg r := by
  have hresult {x : Register} (hx : i.result? = some x) : r ≠ x :=
    fun hr => h (hr ▸ .result hx)
  have hflag (hi : i.setsFlag = true) : r ≠ flagRegister := fun hr => h (hr ▸ .flag hi)
  cases i with
  | setByte x nn | addByte x nn | copy x y | or x y | and x y | xor x y | getDelay x =>
    rw [perform, reg_onward, reg_setReg, if_neg (hresult rfl)]
  | add x y | sub x y | shiftRight x y | subFrom x y | shiftLeft x y =>
    rw [perform, reg_onward, reg_setFlagged, if_neg (hflag rfl), if_neg (hresult rfl)]
  | random x nn => exact (reg_setReg m x r _).trans (if_neg (hresult rfl))
  | awaitKey x =>
    rw [perform]
    split
    · rw [reg_onward, reg_setReg, if_neg (hresult rfl)]
    · rfl
  | draw x y n => rw [perform, reg_onward, reg_drawn, if_neg (hflag rfl)]
  | loadBlock x =>
    have hbeyond : x < r := Fin.not_le.1 fun hr => h (.loaded hr)
    rw [reg_perform_loadBlock, List.getD_eq_getElem?_getD, List.getElem?_eq_none]
    · rfl
    · rw [length_bytesAtIndex]
      exact hbeyond
  | _ => rfl

end Machine

namespace Part

variable {m m' : Machine} {i : Instruction} {part : Part}

/-- **An instruction changes only what it may.** -/
theorem same_perform (hrefusal : m.refusal i = none) (h : ¬i.Touches m.index part) :
    part.Same m (m.perform i) := by
  cases part with
  | byte address => exact Machine.byteAt_perform hrefusal h
  | screen =>
    refine Machine.screen_perform m ?_ ?_
    · rintro rfl
      exact h .clear
    · rintro x y n rfl
      exact h .draw
  | stack =>
    refine Machine.stack_perform ?_ ?_
    · rintro nnn rfl
      exact h .call
    · rintro rfl
      exact h .ret
  | index => exact Machine.index_perform h
  | delay =>
    have hread := Timer.delay.read_perform m i
    cases i with
    | setDelay x => exact absurd .setDelay h
    | _ => exact hread
  | sound =>
    have hread := Timer.sound.read_perform m i
    cases i with
    | setSound x => exact absurd .setSound h
    | _ => exact hread
  | source =>
    have hsource := m.source_perform i
    cases i with
    | random x nn => exact absurd .random h
    | _ => exact hsource
  | register r => exact Machine.reg_perform h

/-- The keys that a machine is shown and the count of its instructions are in no part. -/
theorem same_latch_counted {keys previous : Keypad} (h : part.Same (m.latch keys previous) m') :
    part.Same m m'.counted := by
  cases part <;> exact h

end Part

namespace Machine

variable {m m' : Machine} {w : Word} {i : Instruction} {now before : List Bool}

/-- With one entry for each key in both lists, an instruction that is found and not refused is
carried out. -/
theorem cycleFrom_of_pending {keys previous : Keypad} (hnow : Keypad.ofList? now = some keys)
    (hbefore : Keypad.ofList? before = some previous) (hpending : m.pending = .ok (w, i))
    (hrefusal : m.refusal i = none) :
    m.cycleFrom now before = .ok () ((m.latch keys previous).perform i).counted :=
  cycleFrom_eq_ok_iff.2
    ⟨keys, previous, hnow, hbefore, cycle_eq_ok_iff.2 ⟨w, i, hpending, hrefusal, rfl⟩⟩

/-- A cycle that succeeds carries out the instruction that it finds. -/
theorem exists_perform_of_cycleFrom (hpending : m.pending = .ok (w, i))
    (hcycle : m.cycleFrom now before = .ok () m') :
    m.refusal i = none ∧ ∃ keys previous, m' = ((m.latch keys previous).perform i).counted := by
  obtain ⟨keys, previous, -, -, hkeys⟩ := cycleFrom_eq_ok_iff.1 hcycle
  obtain ⟨w', i', hpending', hrefusal, rfl⟩ := cycle_eq_ok_iff.1 hkeys
  obtain ⟨rfl, rfl⟩ := Prod.mk.inj (Except.ok.inj (hpending.symm.trans hpending'))
  exact ⟨hrefusal, keys, previous, rfl⟩

theorem exists_pending_of_cycleFrom (hcycle : m.cycleFrom now before = .ok () m') :
    ∃ w i, m.pending = .ok (w, i) := by
  obtain ⟨keys, previous, -, -, hkeys⟩ := cycleFrom_eq_ok_iff.1 hcycle
  obtain ⟨w, i, hpending, -, -⟩ := cycle_eq_ok_iff.1 hkeys
  exact ⟨w, i, hpending⟩

end Machine

/-- A cycle that succeeds leaves every part alone that its instruction may not change. -/
theorem Part.same_of_cycleFrom {m m' : Machine} {w : Word} {i : Instruction}
    {now before : List Bool} (hpending : m.pending = .ok (w, i))
    (hcycle : m.cycleFrom now before = .ok () m') {part : Part}
    (h : ¬i.Touches m.index part) : part.Same m m' := by
  obtain ⟨hrefusal, keys, previous, rfl⟩ := Machine.exists_perform_of_cycleFrom hpending hcycle
  rw [← Machine.refusal_latch m keys previous] at hrefusal
  exact same_latch_counted (same_perform hrefusal h)

namespace Machine

variable {m m' : Machine} {w : Word} {now before : List Bool}

theorem read_of_storeDecimal {x : Register} (hpending : m.pending = .ok (w, .storeDecimal x))
    (hcycle : m.cycleFrom now before = .ok () m') :
    ∃ h t u : UInt8, m'.memory.read m.index 3 = .ok [h, t, u] ∧
      h.toNat ≤ 9 ∧ t.toNat ≤ 9 ∧ u.toNat ≤ 9 ∧
      100 * h.toNat + 10 * t.toNat + u.toNat = (m.reg x).toNat := by
  obtain ⟨hrefusal, keys, previous, rfl⟩ := exists_perform_of_cycleFrom hpending hcycle
  obtain ⟨h, t, u, hdigits, hbounds⟩ := decimalDigits_eq (m.reg x)
  have hfits : m.blockFault (Effect.decimalDigits (m.reg x).toNat).length = none := hrefusal
  have hread := Memory.read_of_write (write_eq_overwrite hfits)
  refine ⟨h, t, u, ?_, hbounds⟩
  rw [← hdigits]
  exact hread

theorem read_of_storeBlock {x : Register} (hpending : m.pending = .ok (w, .storeBlock x))
    (hcycle : m.cycleFrom now before = .ok () m') :
    m'.memory.read m.index (x.val + 1 : Nat) = .ok (m.block x) := by
  obtain ⟨hrefusal, keys, previous, rfl⟩ := exists_perform_of_cycleFrom hpending hcycle
  have hfits : m.blockFault (m.block x).length = none := by rwa [length_block]
  have hread := Memory.read_of_write (write_eq_overwrite hfits)
  rw [length_block] at hread
  exact hread

/-- **A cycle changes only what its instruction may change.** Whatever state a machine is in, a
cycle that succeeds has carried out the instruction at the program counter, and every part that
the table does not name for this instruction is as it was. Where the store is written, it holds
the three digits of `VX`, or `V0` to `VX`, from the index register on. -/
theorem changes_only_footprint (hcycle : m.cycleFrom now before = .ok () m') :
    ∃ w i, m.pending = .ok (w, i) ∧
      (∀ part : Part, ¬i.Touches m.index part → part.Same m m') ∧
      (∀ x, i = .storeDecimal x → ∃ h t u : UInt8, m'.memory.read m.index 3 = .ok [h, t, u] ∧
        h.toNat ≤ 9 ∧ t.toNat ≤ 9 ∧ u.toNat ≤ 9 ∧
        100 * h.toNat + 10 * t.toNat + u.toNat = (m.reg x).toNat) ∧
      (∀ x, i = .storeBlock x →
        ∀ r ≤ x, m'.memory.get (m.index + r.val) = .ok (m.reg r)) := by
  obtain ⟨w, i, hpending⟩ := exists_pending_of_cycleFrom hcycle
  refine ⟨w, i, hpending, ?_, ?_, ?_⟩
  · intro part h
    exact Part.same_of_cycleFrom hpending hcycle h
  · rintro x rfl
    exact read_of_storeDecimal hpending hcycle
  · rintro x rfl r hr
    have hget := Memory.get_of_read (read_of_storeBlock hpending hcycle) (Nat.lt_succ_of_le hr)
    rwa [getD_block m hr] at hget

/-- The digits of 254 in the last three bytes of the store. -/
theorem changes_only_footprint_digits :
    let start := powerOn ⟨#[0xF3, 0x33], by decide⟩ (.ofStream fun _ => 0)
    let m : Machine := { start.setReg 3 254 with index := 4093 }
    let m' := ((m.latch .released .released).perform (.storeDecimal 3)).counted
    m.cycleFrom (.replicate 16 false) (.replicate 16 false) = .ok () m' ∧
      m'.memory.byteAt 4092 = m.memory.byteAt 4092 ∧ m'.index = 4093 ∧
      (∀ r, m'.reg r = m.reg r) ∧
      ∃ h t u : UInt8, m'.memory.read 4093 3 = .ok [h, t, u] ∧
        100 * h.toNat + 10 * t.toNat + u.toNat = 254 := by
  intro start m m'
  have hmemory : m.memory = .load ⟨#[0xF3, 0x33], by decide⟩ := by rfl
  have hpending : m.pending = .ok (⟨0xF, 0x3, 0x3, 0x3⟩, .storeDecimal 3) :=
    pending_of_load (k := 0) hmemory rfl (by decide) (by decide) rfl
  have hup : Keypad.ofList? (.replicate 16 false) = some .released := by decide
  have hcycle : m.cycleFrom (.replicate 16 false) (.replicate 16 false) = .ok () m' :=
    cycleFrom_of_pending hup hup hpending (by decide)
  obtain ⟨w, i, hpending', hsame, hdigits, -⟩ := changes_only_footprint hcycle
  obtain ⟨rfl, rfl⟩ := Prod.mk.inj (Except.ok.inj (hpending.symm.trans hpending'))
  obtain ⟨h, t, u, hread, -, -, -, hvalue⟩ := hdigits 3 rfl
  refine ⟨hcycle, hsame (.byte 4092) ?_, hsame .index ?_, ?_, h, t, u, hread, hvalue⟩
  · rintro (⟨hlow, -⟩ | _)
    exact absurd hlow (by decide)
  · rintro (_ | _)
  · intro r
    refine hsame (.register r) ?_
    simp [Instruction.touches_register_iff, Instruction.result?, Instruction.setsFlag]

end Machine

end Chip8
