import Chip8.Proofs.Flags
import Mathlib.Data.List.GetD

/-!
# Blocks stored and loaded

A program saves registers with `FX55` and gets them back with `FX65`. Both move the index register
past the block, so it has to be set back in between; apart from that nothing matters but the bytes
of the block themselves. A block that is read and written back changes nothing, and one that is
written is read as it was, and both carry over to the registers.

* `Memory.AgreeOn` — two stores with the same bytes in a block
* `Memory.write_of_read` — writing back what was read
* `Machine.storeBlock_cycle`, `Machine.loadBlock_cycle` — the cycles of both instructions
* `Machine.blocks_inverse` — each undoes the other
-/

namespace Chip8

namespace Memory

/-- Whether two stores hold the same `length` bytes from `index` on. -/
def AgreeOn (m m' : Memory) (index : Int) (length : Nat) : Prop :=
  ∀ address : Nat, index ≤ address → address < index + length →
    m'.byteAt address = m.byteAt address

variable {m m' : Memory} {index : Int}

theorem AgreeOn.refl (m : Memory) (index : Int) (length : Nat) : m.AgreeOn m index length :=
  fun _ _ _ => rfl

theorem AgreeOn.read {length : Nat} (h : m.AgreeOn m' index length) :
    m'.read index length = m.read index length := by
  unfold Memory.read
  split
  · next hin =>
    obtain ⟨hstart, -, -⟩ := hin
    congr 1
    apply List.map_congr_left
    intro k hk
    rw [List.mem_range] at hk
    exact h _ (by omega) (by omega)
  · rfl

theorem ext_byteAt (h : ∀ address, m.byteAt address = m'.byteAt address) : m = m' := by
  obtain ⟨bytes⟩ := m
  obtain ⟨bytes'⟩ := m'
  congr
  apply Vector.ext
  intro address haddress
  simpa [byteAt, haddress] using h address

/-- Writing back what was read changes nothing. -/
theorem write_of_read {length : Nat} {bytes : List UInt8}
    (h : m.read index length = .ok bytes) : m.write index bytes = .ok m := by
  obtain ⟨hin, rfl⟩ := read_eq_ok_iff.1 h
  have hlength : ((List.range (length : Int).toNat).map
      fun k => m.byteAt (index.toNat + k)).length = length := by
    simp
  have hwrite : m.write index _ = .ok ⟨put m.bytes index.toNat _⟩ :=
    if_pos (by rw [hlength]; exact hin)
  rw [hwrite]
  congr 1
  apply ext_byteAt
  intro address
  rw [byteAt_of_write hwrite]
  split
  · next hblock =>
    obtain ⟨hstart, -, -⟩ := hin
    rw [hlength] at hblock
    have hplace : index.toNat + (address - index.toNat) = address := by omega
    have hk : address - index.toNat < length := by omega
    simp [hk, hplace]
  · rfl

theorem byteAt_of_get {b : UInt8} (h : m.get index = .ok b) : m.byteAt index.toNat = b := by
  unfold get at h
  split at h
  · exact Except.ok.inj h
  · cases h

end Memory

namespace Machine

variable {m : Machine} {x : Register} {now before : List Bool}

theorem block_eq {bytes : List UInt8} (hlength : bytes.length = x.val + 1)
    (h : ∀ r ≤ x, m.reg r = bytes.getD r.val 0) : m.block x = bytes := by
  apply List.ext_getElem
  · rw [length_block, hlength]
  · intro k hk hk'
    rw [length_block] at hk
    have hr : (⟨k, by omega⟩ : Register) ≤ x := Nat.le_of_lt_succ hk
    have hreg := h _ hr
    rw [← getD_block m hr] at hreg
    simpa [hk, hk'] using hreg

section

variable (hstart : 0 ≤ m.index) (hend : m.index + x.val + 1 ≤ 4096) (hnow : now.length = 16)
  (hbefore : before.length = 16)
include hstart hend hnow hbefore

/-- `FX55` writes `V0` to `VX` to the store and keeps the registers. -/
theorem storeBlock_cycle (hw : m.Fetches ⟨0xF, x, 0x5, 0x5⟩) :
    ∃ m', m.cycleFrom now before = .ok () m' ∧ m'.index = m.index + (x.val + 1) ∧
      (∀ r, m'.reg r = m.reg r) ∧ m.memory.write m.index (m.block x) = .ok m'.memory := by
  have hrefusal : m.blockFault (x.val + 1) = none :=
    blockFault_eq_none_iff.2 ⟨hstart, by omega, by omega⟩
  obtain ⟨keys, previous, hcycle⟩ := exists_cycleFrom_of_fetches hw rfl hrefusal hnow hbefore
  refine ⟨_, hcycle, ?_, ?_, ?_⟩
  · simp only [counted, perform, onward, pastBlock, overwrite, latch]
    omega
  · intro r
    rfl
  · have hfits : m.blockFault (m.block x).length = none := by rwa [length_block]
    exact write_eq_overwrite hfits

/-- `FX65` reads `V0` to `VX` from the store and keeps the store and the other registers. -/
theorem loadBlock_cycle (hw : m.Fetches ⟨0xF, x, 0x6, 0x5⟩) :
    ∃ m' bytes, m.cycleFrom now before = .ok () m' ∧ m'.index = m.index + (x.val + 1) ∧
      m'.memory = m.memory ∧ m.memory.read m.index (x.val + 1 : Nat) = .ok bytes ∧
      bytes.length = x.val + 1 ∧ ∀ r : Register, m'.reg r = bytes.getD r.val (m.reg r) := by
  have hrefusal : m.blockFault (x.val + 1) = none :=
    blockFault_eq_none_iff.2 ⟨hstart, by omega, by omega⟩
  obtain ⟨keys, previous, hcycle⟩ := exists_cycleFrom_of_fetches hw rfl hrefusal hnow hbefore
  refine ⟨_, _, hcycle, ?_, ?_, read_eq_bytesAtIndex hrefusal, m.length_bytesAtIndex _, ?_⟩
  · simp only [counted, perform, onward, pastBlock, latch]
    omega
  · simp only [counted, perform, onward, pastBlock, latch]
  · intro r
    rw [reg_counted, reg_perform_loadBlock]
    rfl

/-- Loading a block that holds the registers of another machine gives the registers of that
machine. -/
theorem loadBlock_of_read {m₀ : Machine} (hw : m.Fetches ⟨0xF, x, 0x6, 0x5⟩)
    (hread : m.memory.read m.index (x.val + 1 : Nat) = .ok (m₀.block x)) :
    ∃ m', m.cycleFrom now before = .ok () m' ∧ m'.index = m.index + (x.val + 1) ∧
      m'.memory = m.memory ∧ (∀ r ≤ x, m'.reg r = m₀.reg r) ∧ ∀ r, x < r → m'.reg r = m.reg r := by
  obtain ⟨m', bytes, hcycle, hindex, hmemory, hbytes, hlength, hreg⟩ :=
    loadBlock_cycle hstart hend hnow hbefore hw
  obtain rfl := Except.ok.inj (hread.symm.trans hbytes)
  refine ⟨m', hcycle, hindex, hmemory, ?_, ?_⟩
  · intro r hr
    have hin : r.val < (m₀.block x).length := hlength ▸ Nat.lt_succ_of_le hr
    rw [hreg, ← getD_block m₀ hr, List.getD_eq_getElem _ _ hin, List.getD_eq_getElem _ _ hin]
  · intro r hr
    have hout : (m₀.block x).length ≤ r.val := hlength ▸ hr
    rw [hreg, List.getD_eq_getElem?_getD, List.getElem?_eq_none hout]
    rfl

/-- Storing the registers that a block holds already changes nothing in the store. -/
theorem storeBlock_of_read (hw : m.Fetches ⟨0xF, x, 0x5, 0x5⟩)
    (hread : m.memory.read m.index (x.val + 1 : Nat) = .ok (m.block x)) :
    ∃ m', m.cycleFrom now before = .ok () m' ∧ m'.index = m.index + (x.val + 1) ∧
      (∀ r, m'.reg r = m.reg r) ∧ m'.memory = m.memory := by
  obtain ⟨m', hcycle, hindex, hreg, hwrite⟩ := storeBlock_cycle hstart hend hnow hbefore hw
  exact ⟨m', hcycle, hindex, hreg,
    (Except.ok.inj ((Memory.write_of_read hread).symm.trans hwrite)).symm⟩

end

/-- **Storing and loading a block undo each other.** Where a block of registers fits into the store,
both instructions succeed and move the index register past it, a store keeps the registers, and a
load keeps the store. What was stored comes back with a load from the same place, in any machine
that still holds these bytes there, and the registers above `VX` are left alone. What was loaded
can be stored to the same place again without changing a byte. -/
theorem blocks_inverse (hstart : 0 ≤ m.index) (hend : m.index + x.val + 1 ≤ 4096)
    (hnow : now.length = 16) (hbefore : before.length = 16) :
    (m.Fetches ⟨0xF, x, 0x5, 0x5⟩ →
      ∃ m', m.cycleFrom now before = .ok () m' ∧ m'.index = m.index + (x.val + 1) ∧
        (∀ r, m'.reg r = m.reg r) ∧
        (∀ r ≤ x, m'.memory.get (m.index + r.val) = .ok (m.reg r)) ∧
        ∀ (later : Machine) (now' before' : List Bool), now'.length = 16 → before'.length = 16 →
          later.Fetches ⟨0xF, x, 0x6, 0x5⟩ → later.index = m.index →
          m'.memory.AgreeOn later.memory m.index (x.val + 1) →
          ∃ last, later.cycleFrom now' before' = .ok () last ∧
            last.index = later.index + (x.val + 1) ∧ last.memory = later.memory ∧
            (∀ r ≤ x, last.reg r = m.reg r) ∧ ∀ r, x < r → last.reg r = later.reg r) ∧
    (m.Fetches ⟨0xF, x, 0x6, 0x5⟩ →
      ∃ m', m.cycleFrom now before = .ok () m' ∧ m'.index = m.index + (x.val + 1) ∧
        m'.memory = m.memory ∧
        ∀ (later : Machine) (now' before' : List Bool), now'.length = 16 → before'.length = 16 →
          later.Fetches ⟨0xF, x, 0x5, 0x5⟩ → later.index = m.index →
          m.memory.AgreeOn later.memory m.index (x.val + 1) →
          (∀ r ≤ x, later.reg r = m'.reg r) →
          ∃ last, later.cycleFrom now' before' = .ok () last ∧
            last.index = later.index + (x.val + 1) ∧ (∀ r, last.reg r = later.reg r) ∧
            last.memory = later.memory) := by
  constructor
  · intro hw
    obtain ⟨m', hcycle, hindex, hreg, hwrite⟩ := storeBlock_cycle hstart hend hnow hbefore hw
    have hread := Memory.read_of_write hwrite
    rw [length_block] at hread
    refine ⟨m', hcycle, hindex, hreg, ?_, ?_⟩
    · intro r hr
      have hget := Memory.get_of_read hread (Nat.lt_succ_of_le hr)
      rwa [getD_block m hr] at hget
    · intro later now' before' hnow' hbefore' hlater hsame hagree
      rw [← hagree.read, ← hsame] at hread
      rw [← hsame] at hstart hend
      exact loadBlock_of_read hstart hend hnow' hbefore' hlater hread
  · intro hw
    obtain ⟨m', bytes, hcycle, hindex, hmemory, hread, hlength, hreg⟩ :=
      loadBlock_cycle hstart hend hnow hbefore hw
    refine ⟨m', hcycle, hindex, hmemory, ?_⟩
    intro later now' before' hnow' hbefore' hlater hsame hagree hregs
    have hblock : later.block x = bytes := by
      refine block_eq hlength ?_
      intro r hr
      have hin : r.val < bytes.length := hlength ▸ Nat.lt_succ_of_le hr
      rw [hregs r hr, hreg, List.getD_eq_getElem _ _ hin, List.getD_eq_getElem _ _ hin]
    rw [← hagree.read, ← hsame, ← hblock] at hread
    rw [← hsame] at hstart hend
    exact storeBlock_of_read hstart hend hnow' hbefore' hlater hread

/-- A block that is itself the instruction that loads it back, in a machine whose registers have
been cleared in between. -/
theorem blocks_inverse_self_loading :
    let start := powerOn ⟨#[0xF1, 0x55], by decide⟩ (.ofStream fun _ => 0)
    let m : Machine := { (start.setReg 0 0xF1).setReg 1 0x65 with index := 514 }
    m.Fetches ⟨0xF, 0x1, 0x5, 0x5⟩ ∧
      ∃ m', m.cycleFrom (.replicate 16 false) (.replicate 16 false) = .ok () m' ∧
        m'.index = 516 ∧
        let later : Machine := { m' with pc := 514, index := 514, v := .replicate 16 0 }
        later.Fetches ⟨0xF, 0x1, 0x6, 0x5⟩ ∧
          ∃ last, later.cycleFrom (.replicate 16 false) (.replicate 16 false) = .ok () last ∧
            last.reg 0 = 0xF1 ∧ last.reg 1 = 0x65 ∧ last.reg 2 = 0 ∧ last.memory = m'.memory := by
  intro start m
  have hmemory : m.memory = .load ⟨#[0xF1, 0x55], by decide⟩ := by rfl
  have hw : m.Fetches ⟨0xF, 0x1, 0x5, 0x5⟩ :=
    ⟨by decide, (word_of_load (m := m) (k := 0) hmemory rfl).trans (by decide)⟩
  have hkeys : (List.replicate 16 false).length = 16 := List.length_replicate
  obtain ⟨hstore, -⟩ := @blocks_inverse m 0x1 _ _ (by decide) (by decide) hkeys hkeys
  obtain ⟨m', hcycle, hindex, -, hbytes, hload⟩ := hstore hw
  have hhigh : m'.memory.byteAt 514 = 0xF1 := Memory.byteAt_of_get (hbytes 0 (by decide))
  have hlow : m'.memory.byteAt 515 = 0x65 := Memory.byteAt_of_get (hbytes 1 (by decide))
  refine ⟨hw, m', hcycle, hindex, ?_⟩
  intro later
  have hlater : later.Fetches ⟨0xF, 0x1, 0x6, 0x5⟩ := by
    refine ⟨(by decide : (0 : Int) ≤ 514 ∧ (514 : Int) ≤ 4094), ?_⟩
    change Word.ofBytes (m'.memory.byteAt 514) (m'.memory.byteAt 515) = _
    rw [hhigh, hlow]
    decide
  obtain ⟨last, hlast, -, hkept, hlower, hupper⟩ :=
    hload later _ _ hkeys hkeys hlater rfl (.refl _ _ _)
  exact ⟨hlater, last, hlast, hlower 0 (by decide), hlower 1 (by decide), hupper 2 (by decide),
    hkept⟩

end Machine

end Chip8
