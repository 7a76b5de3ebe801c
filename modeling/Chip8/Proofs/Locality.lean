import Chip8.Proofs.Accounting
import Chip8.Proofs.Blocks

/-!
# What a cycle reads

A cycle reads the two bytes of its word from the store, and two instructions read a block from the
index register on besides: `FX65` reads the registers that it loads, and `DXYN` the rows of its
sprite. No other byte matters. If somebody changes one, the cycle ends as it would have ended, and
leaves the same machine but for that byte.

* `Machine.withMemory` — a machine with another store
* `Machine.Reads` — the addresses that a cycle reads
* `Machine.pending_withMemory`, `Machine.refusal_withMemory` — what comes next, and whether it is
  refused
* `Machine.perform_withMemory`, `Machine.byteAt_perform_withMemory` — what an instruction does apart
  from the store, and what it does to the store
* `Machine.reads_only_declared` — a cycle depends on these addresses only
-/

namespace Chip8

namespace Machine

/-- The machine with another store. -/
def withMemory (m : Machine) (memory : Memory) : Machine := { m with memory }

/-- The addresses of the store that a cycle reads. -/
inductive Reads (m : Machine) (address : Nat) : Prop where
  /-- The first byte of the word. -/
  | high (h : (address : Int) = m.pc)
  /-- The second byte of the word. -/
  | low (h : (address : Int) = m.pc + 1)
  /-- `FX65` reads a byte for each of `V0` to `VX`. -/
  | block {x : Register} (hw : m.Fetches ⟨0xF, x, 0x6, 0x5⟩)
      (h : m.index ≤ address ∧ address ≤ m.index + x.val)
  /-- `DXYN` reads a byte for each of its `N` rows. -/
  | sprite {x y n : Nibble} (hw : m.Fetches ⟨0xD, x, y, n⟩)
      (h : m.index ≤ address ∧ address < m.index + n.val)

variable {m : Machine} {memory : Memory} {w : Word} {i : Instruction}

/-! ## The next instruction -/

/-- The word at the program counter is the same in two stores that agree on its bytes. -/
theorem word_withMemory (hpc : 0 ≤ m.pc)
    (hagree : ∀ address, m.Reads address → memory.byteAt address = m.memory.byteAt address) :
    (m.withMemory memory).word = m.word := by
  have hhigh : memory.byteAt m.pc.toNat = m.memory.byteAt m.pc.toNat := by
    apply hagree
    apply Reads.high
    omega
  have hlow : memory.byteAt (m.pc.toNat + 1) = m.memory.byteAt (m.pc.toNat + 1) := by
    apply hagree
    apply Reads.low
    omega
  unfold word withMemory
  simp only [hhigh, hlow]

/-- And so is the next instruction. Outside of the store there is none in either. -/
theorem pending_withMemory
    (hagree : ∀ address, m.Reads address → memory.byteAt address = m.memory.byteAt address) :
    (m.withMemory memory).pending = m.pending := by
  rw [pending_eq, pending_eq]
  show (if 0 ≤ m.pc ∧ m.pc ≤ 4094 then _ else _) = _
  by_cases hpc : 0 ≤ m.pc ∧ m.pc ≤ 4094
  · rw [if_pos hpc, if_pos hpc, word_withMemory hpc.1 hagree]
  · rw [if_neg hpc, if_neg hpc]
    rfl

/-- Whether an instruction is refused does not depend on any byte. -/
theorem refusal_withMemory (m : Machine) (memory : Memory) (i : Instruction) :
    (m.withMemory memory).refusal i = m.refusal i := by
  cases i <;> rfl

/-- The bytes that an instruction reads from the index register on are among those of its cycle. -/
theorem reads_of_bytesRead (hpending : m.pending = .ok (w, i)) {address : Nat}
    (hlow : m.index ≤ address) (hhigh : address < m.index + i.bytesRead) : m.Reads address := by
  obtain ⟨hw, -⟩ := Fetches.of_pending hpending
  cases i with
  | loadBlock x =>
    simp only [Instruction.bytesRead] at hhigh
    exact .block hw ⟨hlow, by omega⟩
  | draw x y n => exact .sprite hw ⟨hlow, hhigh⟩
  | _ =>
    simp only [Instruction.bytesRead] at hhigh
    omega

/-! ## Carrying it out -/

theorem bytesAtIndex_withMemory {length : Nat} (hfits : m.blockFault length = none)
    (hagree : m.memory.AgreeOn memory m.index length) :
    (m.withMemory memory).bytesAtIndex length = m.bytesAtIndex length := by
  have hread := read_eq_bytesAtIndex hfits
  have hother : memory.read m.index length = .ok ((m.withMemory memory).bytesAtIndex length) :=
    read_eq_bytesAtIndex (m := m.withMemory memory) hfits
  rw [hagree.read] at hother
  exact Except.ok.inj (hother.symm.trans hread)

theorem blockFault_of_refusal_draw {x y : Register} {n : Nibble}
    (h : m.refusal (.draw x y n) = none) : m.blockFault n.val = none := by
  rw [refusal] at h
  split at h
  · cases h
  · exact h

/-- Apart from the store, an instruction makes the same of a machine with another store, if the
stores agree on what it reads. -/
theorem perform_withMemory (hrefusal : m.refusal i = none)
    (hagree : m.memory.AgreeOn memory m.index i.bytesRead) :
    (m.withMemory memory).perform i =
      (m.perform i).withMemory ((m.withMemory memory).perform i).memory := by
  cases i with
  | loadBlock x =>
    have hbytes := bytesAtIndex_withMemory hrefusal hagree
    simp only [perform, hbytes]
    simp only [withMemory, onward, pastBlock]
  | draw x y n =>
    have hbytes := bytesAtIndex_withMemory (blockFault_of_refusal_draw hrefusal) hagree
    simp only [perform, hbytes]
    rfl
  | awaitKey x =>
    simp only [perform, withMemory]
    split <;> rfl
  | _ => rfl

/-- Bytes that are written are the same in both stores, and the others stay as they are. -/
theorem byteAt_overwrite_withMemory {bytes : List UInt8} (hfits : m.blockFault bytes.length = none)
    {address : Nat} (hsame : memory.byteAt address = m.memory.byteAt address) :
    ((m.withMemory memory).overwrite bytes).memory.byteAt address =
      (m.overwrite bytes).memory.byteAt address := by
  have hwrite : memory.write m.index bytes = .ok ((m.withMemory memory).overwrite bytes).memory :=
    write_eq_overwrite (m := m.withMemory memory) hfits
  rw [Memory.byteAt_of_write hwrite, Memory.byteAt_of_write (write_eq_overwrite hfits), hsame]

/-- An instruction leaves no byte different that was not different before. -/
theorem byteAt_perform_withMemory (hrefusal : m.refusal i = none) {address : Nat}
    (hsame : memory.byteAt address = m.memory.byteAt address) :
    ((m.withMemory memory).perform i).memory.byteAt address =
      (m.perform i).memory.byteAt address := by
  cases i with
  | storeDecimal x =>
    have hfits : m.blockFault (Effect.decimalDigits (m.reg x).toNat).length = none := hrefusal
    exact byteAt_overwrite_withMemory hfits hsame
  | storeBlock x =>
    have hfits : m.blockFault (m.block x).length = none := by rwa [length_block]
    exact byteAt_overwrite_withMemory hfits hsame
  | loadBlock x =>
    simp only [perform, onward, pastBlock]
    exact hsame
  | awaitKey x =>
    simp only [perform, withMemory]
    split <;> exact hsame
  | _ => exact hsame

/-! ## Cycles -/

/-- A cycle of a machine with another store, if the stores agree on what it reads. -/
theorem cycle_withMemory (now before : Keypad)
    (hagree : ∀ address, m.Reads address → memory.byteAt address = m.memory.byteAt address) :
    (∃ f m', m.cycle now before = .error f m' ∧
        (m.withMemory memory).cycle now before = .error f (m'.withMemory memory) ∧
        m'.memory = m.memory) ∨
      ∃ m' memory', m.cycle now before = .ok () m' ∧
        (m.withMemory memory).cycle now before = .ok () (m'.withMemory memory') ∧
        ∀ address, memory.byteAt address = m.memory.byteAt address →
          memory'.byteAt address = m'.memory.byteAt address := by
  have hpending := pending_withMemory hagree
  rw [cycle_eq, cycle_eq, hpending]
  rcases hp : m.pending with f | ⟨w, i⟩
  · exact .inl ⟨f, m, rfl, rfl, rfl⟩
  · simp only [refusal_withMemory]
    cases hr : m.refusal i with
    | some f => exact .inl ⟨f, m.latch now before, rfl, rfl, rfl⟩
    | none =>
      have hlatched : (m.latch now before).refusal i = none :=
        (refusal_latch m now before i).trans hr
      have hblock : (m.latch now before).memory.AgreeOn memory (m.latch now before).index
          i.bytesRead := by
        intro address hlow hhigh
        exact hagree address (reads_of_bytesRead hp hlow hhigh)
      have hperform := perform_withMemory hlatched hblock
      refine .inr ⟨_, _, rfl, ?_, fun _ => byteAt_perform_withMemory hlatched⟩
      show EStateM.Result.ok () (((m.latch now before).withMemory memory).perform i).counted = _
      exact congrArg (fun m' => EStateM.Result.ok () m'.counted) hperform

/-- **A cycle reads only the bytes that it declares.** Two machines are equal but for their stores,
and the stores agree on the bytes of the word at the program counter, and on those of the block that
the instruction loads or draws. Then a cycle with the same keys ends in the same error in both, or
it succeeds in both and leaves machines that are equal but for their stores. The stores then
differ only where they differed before. -/
theorem reads_only_declared (now before : List Bool)
    (hagree : ∀ address, m.Reads address → memory.byteAt address = m.memory.byteAt address) :
    (∃ e m', m.cycleFrom now before = .error e m' ∧
        (m.withMemory memory).cycleFrom now before = .error e (m'.withMemory memory) ∧
        m'.memory = m.memory) ∨
      ∃ m' memory', m.cycleFrom now before = .ok () m' ∧
        (m.withMemory memory).cycleFrom now before = .ok () (m'.withMemory memory') ∧
        ∀ address, memory'.byteAt address ≠ m'.memory.byteAt address →
          memory.byteAt address ≠ m.memory.byteAt address := by
  cases hnow : Keypad.ofList? now with
  | none =>
    exact .inl ⟨_, m, cycleFrom_of_current m hnow, cycleFrom_of_current _ hnow, rfl⟩
  | some keys =>
    cases hbefore : Keypad.ofList? before with
    | none =>
      exact .inl ⟨_, m, cycleFrom_of_previous m hnow hbefore,
        cycleFrom_of_previous _ hnow hbefore, rfl⟩
    | some previous =>
      rw [cycleFrom_eq_cycle m hnow hbefore, cycleFrom_eq_cycle _ hnow hbefore]
      rcases cycle_withMemory keys previous hagree with
        ⟨f, m', hcycle, hother, hmemory⟩ | ⟨m', memory', hcycle, hother, hsame⟩
      · rw [hcycle, hother]
        exact .inl ⟨_, m', rfl, rfl, hmemory⟩
      · rw [hcycle, hother]
        exact .inr ⟨m', memory', rfl, rfl, fun address hne heq => hne (hsame address heq)⟩

/-- Two registers are loaded from the bytes of the instruction itself. The byte right behind them
does not matter. -/
theorem reads_only_declared_next_byte :
    let m : Machine :=
      { powerOn ⟨#[0xF1, 0x65], by decide⟩ (.ofStream fun _ => 0) with index := 512 }
    let memory : Memory := .load ⟨#[0xF1, 0x65, 0xFF], by decide⟩
    let up : List Bool := .replicate 16 false
    (∀ address, m.Reads address → memory.byteAt address = m.memory.byteAt address) ∧
      memory.byteAt 514 ≠ m.memory.byteAt 514 ∧
      ∃ m' memory', m.cycleFrom up up = .ok () m' ∧
        (m.withMemory memory).cycleFrom up up = .ok () (m'.withMemory memory') ∧
        ∀ address, memory'.byteAt address ≠ m'.memory.byteAt address →
          memory.byteAt address ≠ m.memory.byteAt address := by
  intro m memory up
  have hmemory : m.memory = .load ⟨#[0xF1, 0x65], by decide⟩ := by rfl
  have hpending : m.pending = .ok (⟨0xF, 0x1, 0x6, 0x5⟩, .loadBlock 0x1) :=
    pending_of_load (k := 0) hmemory rfl (by decide) (by decide) rfl
  have hfetches : m.Fetches ⟨0xF, 0x1, 0x6, 0x5⟩ := (Fetches.of_pending hpending).1
  have hword (address : Nat) (h : address = 512 ∨ address = 513) :
      memory.byteAt address = m.memory.byteAt address := by
    rw [hmemory, Memory.byteAt_load, Memory.byteAt_load]
    rcases h with rfl | rfl <;> rfl
  have hagree (address : Nat) (h : m.Reads address) :
      memory.byteAt address = m.memory.byteAt address := by
    apply hword
    cases h with
    | high h =>
      have hpc : m.pc = 512 := rfl
      omega
    | low h =>
      have hpc : m.pc = 512 := rfl
      omega
    | block hw h =>
      obtain ⟨-, rfl, -, -⟩ := Word.mk.inj (hfetches.word.symm.trans hw.word)
      have hindex : m.index = 512 := rfl
      have hlast : ((0x1 : Register).val : Int) = 1 := rfl
      omega
    | sprite hw h =>
      have hfamily := (Word.mk.inj (hfetches.word.symm.trans hw.word)).1
      exact absurd hfamily (by decide)
  have hbehind : memory.byteAt 514 ≠ m.memory.byteAt 514 := by
    rw [hmemory, Memory.byteAt_load, Memory.byteAt_load]
    decide
  have hup : Keypad.ofList? up = some .released := by decide
  have hcycle := cycleFrom_of_pending hup hup hpending (by decide)
  rcases reads_only_declared up up hagree with ⟨e, m', herror, -⟩ | hok
  · cases hcycle.symm.trans herror
  · exact ⟨hagree, hbehind, hok⟩

end Machine

end Chip8
