import Chip8.Proofs.Operation
import Chip8.Proofs.Patterns

/-!
# When cycles fail

The faults of a cycle as they are specified: which word stands at the program counter, and
what is wrong with the stack or with the bytes that the instruction asks for. Nothing is
said of effects and their order. A cycle ends in exactly these faults, as long as the delay
timer is a byte.

* `Machine.Fetches` — the word that stands at the program counter
* `Machine.Fails` — the specification, one constructor per cause
* `Machine.fails_of_refusal`, `Machine.Fails.pending` — it agrees with refusal
* `Machine.cycleFrom_fails_iff` — a cycle fails as specified, and otherwise succeeds
-/

namespace Chip8

namespace Machine

/-- A word stands at the program counter, inside the store. -/
structure Fetches (m : Machine) (w : Word) : Prop where
  /-- Both bytes are inside the store. -/
  pc : 0 ≤ m.pc ∧ m.pc ≤ 4094
  /-- They are the bytes of the word. -/
  word : m.word = w

/-- The fault in which a cycle has to end. -/
inductive Fails (m : Machine) : Fault → Prop where
  /-- The program counter is not at two bytes of the store. -/
  | fetch (h : m.pc < 0 ∨ 4094 < m.pc) : m.Fails (.access ⟨m.pc, 2⟩)
  /-- No pattern matches the word. -/
  | unknown {w : Word} (hw : m.Fetches w) (h : ∀ i : Instruction, ¬i.pattern.Matches w) :
      m.Fails (.unknownInstruction w)
  /-- `0NNN`, but for `00E0` and `00EE`. -/
  | subroutine {nnn : Address} (hw : m.Fetches (.withAddress 0x0 nnn)) (hcls : nnn ≠ 0x0E0)
      (hret : nnn ≠ 0x0EE) : m.Fails (.unknownSubroutine nnn)
  /-- `00EE` when there is nowhere to return to. -/
  | emptyStack (hw : m.Fetches ⟨0x0, 0x0, 0xE, 0xE⟩) (h : m.stack = []) : m.Fails .emptyStack
  /-- `2NNN` when the stack is full. -/
  | stackOverflow {nnn : Address} (hw : m.Fetches (.withAddress 0x2 nnn))
      (h : 12 ≤ m.stack.length) : m.Fails (.stackOverflow m.stack.length)
  /-- `DXYN` with rows past the end of the store. -/
  | spriteOverflow {x y n : Nibble} (hw : m.Fetches ⟨0xD, x, y, n⟩)
      (h : 4096 < m.index + n.val) : m.Fails (.spriteOverflow m.index n.val)
  /-- `DXYN` from before the store on, and not past its end. -/
  | spriteStart {x y n : Nibble} (hw : m.Fetches ⟨0xD, x, y, n⟩) (h : m.index < 0)
      (hend : m.index + n.val ≤ 4096) : m.Fails (.access ⟨m.index, n.val⟩)
  /-- `FX33` with digits outside the store. -/
  | decimal {x : Nibble} (hw : m.Fetches ⟨0xF, x, 0x3, 0x3⟩)
      (h : m.index < 0 ∨ 4096 < m.index + 3) : m.Fails (.access ⟨m.index, 3⟩)
  /-- `FX55` or `FX65` with registers outside the store. -/
  | block {x : Nibble} (hw : m.Fetches ⟨0xF, x, 0x5, 0x5⟩ ∨ m.Fetches ⟨0xF, x, 0x6, 0x5⟩)
      (h : m.index < 0 ∨ 4096 < m.index + (x.val + 1)) :
      m.Fails (.access ⟨m.index, (x.val + 1 : Nat)⟩)

variable {m : Machine} {w : Word} {i : Instruction} {f : Fault}

/-! ## Words and instructions -/

theorem Fetches.of_pending (h : m.pending = .ok (w, i)) :
    m.Fetches i.encode ∧ Instruction.decode? i.encode = some i := by
  obtain ⟨hpc, rfl, hdecode⟩ := pending_eq_ok_iff.1 h
  rw [Instruction.encode_of_decode? hdecode]
  exact ⟨⟨hpc, rfl⟩, hdecode⟩

theorem Fetches.pending (h : m.Fetches w) (hdecode : Instruction.decode? w = some i) :
    m.pending = .ok (w, i) :=
  pending_eq_ok_iff.2 ⟨h.pc, h.word, hdecode⟩

/-! ## Refusal and the specification -/

theorem fails_of_pending (h : m.pending = .error f) : m.Fails f := by
  rcases pending_eq_error_iff.1 h with ⟨hpc, rfl⟩ | ⟨hpc, hdecode, rfl⟩
  · exact .fetch (by omega)
  · exact .unknown ⟨hpc, rfl⟩ (Instruction.decode?_eq_none_iff.1 hdecode)

/-- What is refused has to fail. -/
theorem fails_of_refusal (hdelay : 0 ≤ m.delay ∧ m.delay ≤ 255) (hpending : m.pending = .ok (w, i))
    (h : m.refusal i = some f) : m.Fails f := by
  obtain ⟨hw, hdecode⟩ := Fetches.of_pending hpending
  cases i with
  | sys nnn =>
    cases h
    obtain ⟨hcls, hret⟩ := Instruction.decode?_withAddress_zero_iff.1 hdecode
    exact .subroutine hw hcls hret
  | ret =>
    rw [refusal] at h
    split at h
    · next hempty =>
      cases h
      exact .emptyStack hw hempty
    · cases h
  | call nnn =>
    rw [refusal] at h
    split at h
    · next hfull =>
      cases h
      exact .stackOverflow hw hfull
    · cases h
  | draw x y n =>
    rw [refusal] at h
    split at h
    · next hend =>
      cases h
      exact .spriteOverflow hw hend
    · next hend =>
      obtain ⟨hout, rfl⟩ := blockFault_eq_some_iff.1 h
      simp only [memorySize] at hend
      exact .spriteStart hw (by omega) (by omega)
  | storeDecimal x =>
    obtain ⟨hout, rfl⟩ := blockFault_eq_some_iff.1 h
    exact .decimal hw hout
  | storeBlock x =>
    obtain ⟨hout, rfl⟩ := blockFault_eq_some_iff.1 h
    exact .block (.inl hw) hout
  | loadBlock x =>
    obtain ⟨hout, rfl⟩ := blockFault_eq_some_iff.1 h
    exact .block (.inr hw) hout
  | getDelay x =>
    rw [refusal, if_pos hdelay] at h
    cases h
  | _ => cases h

/-- What has to fail finds no instruction, or one that is refused. -/
theorem Fails.pending (h : m.Fails f) :
    m.pending = .error f ∨ ∃ w i, m.pending = .ok (w, i) ∧ m.refusal i = some f := by
  cases h with
  | fetch hpc => exact .inl (pending_eq_error_iff.2 (.inl ⟨by omega, rfl⟩))
  | unknown hw hmatch =>
    obtain ⟨hpc, rfl⟩ := hw
    exact .inl (pending_eq_error_iff.2
      (.inr ⟨hpc, Instruction.decode?_eq_none_iff.2 hmatch, rfl⟩))
  | subroutine hw hcls hret =>
    exact .inr ⟨_, _, hw.pending (Instruction.decode?_withAddress_zero_iff.2 ⟨hcls, hret⟩), rfl⟩
  | emptyStack hw hempty =>
    refine .inr ⟨_, .ret, hw.pending rfl, ?_⟩
    rw [refusal, if_pos hempty]
  | @stackOverflow nnn hw hfull =>
    refine .inr ⟨_, _, hw.pending (Instruction.decode?_withAddress_two nnn), ?_⟩
    rw [refusal]
    exact if_pos hfull
  | @spriteOverflow x y n hw hend =>
    refine .inr ⟨_, .draw x y n, hw.pending rfl, ?_⟩
    rw [refusal]
    exact if_pos hend
  | @spriteStart x y n hw hstart hend =>
    refine .inr ⟨_, .draw x y n, hw.pending rfl, ?_⟩
    rw [refusal, if_neg (by simp only [memorySize]; omega)]
    exact blockFault_eq_some_iff.2 ⟨.inl hstart, rfl⟩
  | @decimal x hw hout =>
    exact .inr ⟨_, .storeDecimal x, hw.pending rfl, blockFault_eq_some_iff.2 ⟨hout, rfl⟩⟩
  | @block x hw hout =>
    rcases hw with hw | hw
    · exact .inr ⟨_, .storeBlock x, hw.pending rfl, blockFault_eq_some_iff.2 ⟨hout, rfl⟩⟩
    · exact .inr ⟨_, .loadBlock x, hw.pending rfl, blockFault_eq_some_iff.2 ⟨hout, rfl⟩⟩

theorem cycle_fails_iff (hdelay : 0 ≤ m.delay ∧ m.delay ≤ 255) (now before : Keypad) :
    (∃ m', m.cycle now before = .error f m') ↔ m.Fails f := by
  constructor
  · rintro ⟨m', h⟩
    rcases cycle_eq_error_iff.1 h with ⟨hpending, -⟩ | ⟨w, i, hpending, hrefusal, -⟩
    · exact fails_of_pending hpending
    · exact fails_of_refusal hdelay hpending hrefusal
  · intro h
    rcases h.pending with hpending | ⟨w, i, hpending, hrefusal⟩
    · exact ⟨_, cycle_eq_error_iff.2 (.inl ⟨hpending, rfl⟩)⟩
    · exact ⟨_, cycle_eq_error_iff.2 (.inr ⟨w, i, hpending, hrefusal, rfl⟩)⟩

/-- **A cycle fails exactly as specified.** With a delay timer that is a byte and one entry for
each key in both lists, the only errors are the faults of the specification. A cycle that
has none of them succeeds. -/
theorem cycleFrom_fails_iff (hdelay : 0 ≤ m.delay ∧ m.delay ≤ 255) {now before : List Bool}
    (hnow : now.length = 16) (hbefore : before.length = 16) :
    (∀ e, (∃ m', m.cycleFrom now before = .error e m') ↔ ∃ f, e = .fault f ∧ m.Fails f) ∧
      ((∃ m', m.cycleFrom now before = .ok () m') ↔ ∀ f, ¬m.Fails f) := by
  obtain ⟨keys, hkeys⟩ := Keypad.ofList?_of_length hnow
  obtain ⟨previous, hprevious⟩ := Keypad.ofList?_of_length hbefore
  rw [cycleFrom_eq_cycle m hkeys hprevious]
  simp only [← cycle_fails_iff hdelay keys previous]
  cases m.cycle keys previous with
  | ok u m' => simp
  | error fault m' => simp [eq_comm]

/-- A sprite without rows is looked for all the same, and not found before the store. -/
theorem cycleFrom_fails_iff_empty_sprite :
    let program : Program := ⟨#[0xD0, 0x10], by decide⟩
    let m : Machine := { powerOn program (.ofStream fun _ => 0) with index := -1 }
    ∃ m', m.cycleFrom (.replicate 16 false) (.replicate 16 false) =
      .error (.fault (.access ⟨-1, 0⟩)) m' := by
  intro program m
  have hmemory : m.memory = .load program := by rfl
  have hfetches : m.Fetches ⟨0xD, 0x0, 0x1, 0x0⟩ :=
    ⟨by decide, (word_of_load (m := m) (k := 0) hmemory rfl).trans (by decide)⟩
  have hfails : m.Fails (.access ⟨-1, 0⟩) := .spriteStart hfetches (by decide) (by decide)
  obtain ⟨herror, -⟩ := cycleFrom_fails_iff (m := m) (by decide)
    (List.length_replicate (n := 16) (a := false)) (List.length_replicate (n := 16) (a := false))
  exact (herror _).2 ⟨_, rfl, hfails⟩

end Machine

end Chip8
