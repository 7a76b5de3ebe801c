import Chip8.Proofs.Calls

/-!
# Bounds

Program counter, index register, timers and return addresses are unbounded integers, and
nothing reduces the program counter when it moves. A machine that nobody tampers with
keeps all of them small all the same: an instruction is fetched inside the store, so that
it goes on not far from the store, and what it computes comes from bytes and addresses.

* `Machine.Bounded` — the bounds
* `Machine.pc_perform_mem` — where an instruction can go on
* `Machine.index_perform_mem`, `Machine.timers_perform_mem` — what it can leave in the index
  register and in the timers
* `Machine.stack_perform_mem` — what it can leave on the stack
* `Machine.Bounded.perform` — all bounds together
* `Machine.bounded_after_powerOn` — they hold whatever a machine is asked for
-/

namespace Chip8

namespace Machine

/-- The bounds that a machine keeps when nobody tampers with it. -/
structure Bounded (m : Machine) : Prop where
  /-- The store has 4096 places, with a byte in each. -/
  memory : m.memory.bytes.toList.length = 4096 ∧ ∀ b ∈ m.memory.bytes.toList, b.toNat ≤ 255
  /-- There are sixteen registers, with a byte in each. -/
  registers : m.v.toList.length = 16 ∧ ∀ b ∈ m.v.toList, b.toNat ≤ 255
  /-- The index register has sixteen bits. -/
  index : 0 ≤ m.index ∧ m.index ≤ 0xFFFF
  /-- The program counter is an address, or what `BNNN` makes of the greatest one. -/
  pc : 0 ≤ m.pc ∧ m.pc ≤ 0xFFF + 0xFF
  /-- The delay timer is a byte. -/
  delay : 0 ≤ m.delay ∧ m.delay ≤ 255
  /-- The sound timer is a byte. -/
  sound : 0 ≤ m.sound ∧ m.sound ≤ 255
  /-- The stack holds no more return addresses than fit. -/
  depth : m.stack.length ≤ 12
  /-- Each return address is one from which a call was fetched. -/
  entries : ∀ a ∈ m.stack, 0 ≤ a ∧ a ≤ 4094

variable {m : Machine} {i : Instruction}

/-! ## Registers and memory -/

theorem toNat_byte_le (b : UInt8) : b.toNat ≤ 255 := by
  have := b.toNat_lt
  omega

theorem bytes_memory (m : Machine) :
    m.memory.bytes.toList.length = 4096 ∧ ∀ b ∈ m.memory.bytes.toList, b.toNat ≤ 255 :=
  ⟨Vector.length_toList, fun b _ => toNat_byte_le b⟩

theorem bytes_registers (m : Machine) :
    m.v.toList.length = 16 ∧ ∀ b ∈ m.v.toList, b.toNat ≤ 255 :=
  ⟨Vector.length_toList, fun b _ => toNat_byte_le b⟩

/-! ## The index register -/

/-- The index register is set to an address, to a digit sprite, or to a sum reduced to
sixteen bits. -/
theorem index_perform_mem (h : 0 ≤ m.index ∧ m.index ≤ 0xFFFF) :
    0 ≤ (m.perform i).index ∧ (m.perform i).index ≤ 0xFFFF := by
  cases i with
  | setIndex nnn =>
    simp only [perform, onward]
    omega
  | digitSprite x =>
    obtain ⟨hlow, hhigh⟩ := Font.address_mem (m.reg x).toNat
    simp only [perform, onward, Font.height] at hhigh ⊢
    omega
  | addIndex x | storeBlock x | loadBlock x =>
    simp only [perform, onward, pastBlock]
    omega
  | awaitKey x =>
    simp only [perform]
    split <;> exact h
  | _ => exact h

/-! ## The program counter -/

/-- An instruction goes on at the next one or at the one after it, at an address that it
names, by up to 255 after such an address, or after the call at a return address. -/
theorem pc_perform_mem (hpc : 0 ≤ m.pc ∧ m.pc ≤ 4094)
    (hstack : ∀ a ∈ m.stack, 0 ≤ a ∧ a ≤ 4094) :
    0 ≤ (m.perform i).pc ∧ (m.perform i).pc ≤ 0xFFF + 0xFF := by
  cases i with
  | sys nnn =>
    simp only [perform]
    omega
  | ret =>
    simp only [perform]
    cases hs : m.stack with
    | nil => simp
    | cons caller rest =>
      have := hstack caller (by simp [hs])
      simp only [List.headD_cons]
      omega
  | jump nnn | call nnn =>
    simp only [perform]
    omega
  | jumpOffset nnn =>
    have := toNat_byte_le (m.reg 0)
    simp only [perform]
    omega
  | skipIfByte x nn | skipUnlessByte x nn | skipIfEqual x y | skipUnlessEqual x y
  | skipIfDown x | skipUnlessDown x =>
    simp only [perform, skipIf]
    split <;> omega
  | awaitKey x =>
    simp only [perform]
    split <;> simp only [onward, setReg] <;> omega
  | _ =>
    simp only [perform, onward, setReg, setFlagged, overwrite, pastBlock, drawn]
    omega

/-! ## The timers -/

/-- Each timer stays as it is or is set from a register, so one that is a byte stays a byte. -/
theorem timers_perform_mem (m : Machine) (i : Instruction) :
    (0 ≤ m.delay ∧ m.delay ≤ 255 → 0 ≤ (m.perform i).delay ∧ (m.perform i).delay ≤ 255) ∧
      (0 ≤ m.sound ∧ m.sound ≤ 255 → 0 ≤ (m.perform i).sound ∧ (m.perform i).sound ≤ 255) := by
  have hbyte (x : Register) : 0 ≤ ((m.reg x).toNat : Int) ∧ ((m.reg x).toNat : Int) ≤ 255 := by
    have := toNat_byte_le (m.reg x)
    omega
  cases i with
  | setDelay x => exact ⟨fun _ => hbyte x, id⟩
  | setSound x => exact ⟨id, fun _ => hbyte x⟩
  | loadBlock x =>
    simp only [perform, onward, pastBlock]
    exact ⟨id, id⟩
  | awaitKey x =>
    simp only [perform]
    split <;> exact ⟨id, id⟩
  | _ => exact ⟨id, id⟩

theorem countDown_mem {timer : Int} (h : 0 ≤ timer ∧ timer ≤ 255) :
    0 ≤ countDown timer ∧ countDown timer ≤ 255 := by
  rw [countDown]
  split <;> omega

/-! ## The stack -/

theorem length_lt_of_refusal {nnn : Address} (h : m.refusal (.call nnn) = none) :
    m.stack.length < 12 := by
  rcases Nat.lt_or_ge m.stack.length stackCapacity with hroom | hfull
  · exact hroom
  · rw [refusal, if_pos hfull] at h
    cases h

/-- The stack stays as it is, loses its latest address, or gets the address of a call. -/
theorem stack_perform_mem (hrefusal : m.refusal i = none) (hpc : 0 ≤ m.pc ∧ m.pc ≤ 4094)
    (hdepth : m.stack.length ≤ 12) (hentries : ∀ a ∈ m.stack, 0 ≤ a ∧ a ≤ 4094) :
    (m.perform i).stack.length ≤ 12 ∧ ∀ a ∈ (m.perform i).stack, 0 ≤ a ∧ a ≤ 4094 := by
  rcases stack_perform_cases hrefusal with ⟨nnn, rfl, hstack⟩ | ⟨caller, -, hstack, -⟩ | hstack
  · have hroom := length_lt_of_refusal hrefusal
    rw [hstack]
    exact ⟨hroom, List.forall_mem_cons.2 ⟨hpc, hentries⟩⟩
  · rw [hstack] at hdepth hentries
    exact ⟨Nat.le_of_succ_le hdepth, fun a ha => hentries a (List.mem_cons_of_mem _ ha)⟩
  · rw [hstack]
    exact ⟨hdepth, hentries⟩

/-! ## Every sequence of operations -/

/-- An instruction that is fetched and not refused keeps the bounds. -/
theorem Bounded.perform {w : Word} (h : m.Bounded) (hpending : m.pending = .ok (w, i))
    (hrefusal : m.refusal i = none) : (m.perform i).Bounded := by
  obtain ⟨hpc, -, -⟩ := pending_eq_ok_iff.1 hpending
  obtain ⟨hdelay, hsound⟩ := timers_perform_mem m i
  obtain ⟨hdepth, hentries⟩ := stack_perform_mem hrefusal hpc h.depth h.entries
  exact
    { memory := bytes_memory _
      registers := bytes_registers _
      index := index_perform_mem h.index
      pc := pc_perform_mem hpc h.entries
      delay := hdelay h.delay
      sound := hsound h.sound
      depth := hdepth
      entries := hentries }

theorem Bounded.latch (h : m.Bounded) (now before : Keypad) : (m.latch now before).Bounded :=
  { h with }

theorem Bounded.counted (h : m.Bounded) : m.counted.Bounded :=
  { h with }

theorem Bounded.tick (h : m.Bounded) : m.tick.Bounded :=
  { h with
    delay := countDown_mem h.delay
    sound := countDown_mem h.sound }

theorem bounded_powerOn (program : Program) (source : RandomSource) :
    (powerOn program source).Bounded where
  memory := bytes_memory _
  registers := bytes_registers _
  index := by simp [powerOn]
  pc := by simp [powerOn, programStart]
  delay := by simp [powerOn]
  sound := by simp [powerOn]
  depth := Nat.zero_le _
  entries := List.forall_mem_nil _

/-- **A machine stays within bounds.** Whatever program was loaded, wherever the random bytes
come from, and whatever the machine is asked for since it was switched on, be it cycles that
succeed or fail, ticks or resets. -/
theorem bounded_after_powerOn (program : Program) (source : RandomSource)
    (ops : List Operation) : ((powerOn program source).after ops).Bounded := by
  refine after_induction (bounded_powerOn program source) ?_ ?_ ?_ ?_ ops
  · intro m keys previous w i h hpending hrefusal
    rw [← refusal_latch m keys previous] at hrefusal
    exact ((h.latch keys previous).perform hpending hrefusal).counted
  · intro m keys previous h
    exact h.latch keys previous
  · intro m h
    exact h.tick
  · intro m h
    exact bounded_powerOn m.program m.source.restart

end Machine

end Chip8
