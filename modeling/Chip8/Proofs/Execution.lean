import Chip8.Proofs.Semantics

/-!
# What a cycle does

Execution is carried out effect by effect, and an effect that fails takes nothing
back of what was done before it. This file shows that nothing ever has to be taken
back: whatever can fail comes before the first change, so that a cycle ends in one
of three ways.

* `Effect.run_execute` — an instruction is refused, and the machine is as it was,
  or it is performed
* `Machine.cycle_eq` — a cycle finds no instruction, refuses it, or performs it
* `Machine.cycle_eq_ok_iff`, `Machine.cycle_eq_error_iff` — success and failure
* `Machine.cycleFrom_eq_ok_iff`, `Machine.cycleFrom_eq_error` — the same with the keys
  given as lists
-/

namespace Chip8

/-! ## Arithmetic on bytes -/

section Arithmetic

variable (a b : UInt8)

theorem byteOf_add : byteOf (a.toNat + b.toNat) = a + b := by
  apply UInt8.toNat_inj.1
  simp only [byteOf, UInt8.toNat_ofNat', UInt8.toNat_add]
  omega

theorem byteOf_sub : byteOf (a.toNat - b.toNat) = a - b := by
  have ha := a.toNat_lt
  have hb := b.toNat_lt
  apply UInt8.toNat_inj.1
  simp only [byteOf, UInt8.toNat_ofNat', UInt8.toNat_sub]
  omega

theorem byteOf_half : byteOf (b.toNat / 2) = b / 2 := by
  have hb := b.toNat_lt
  apply UInt8.toNat_inj.1
  simp only [byteOf, UInt8.toNat_ofNat', UInt8.toNat_div]
  rw [show (2 : UInt8).toNat = 2 from rfl]
  omega

theorem byteOf_double : byteOf (2 * b.toNat) = 2 * b := by
  apply UInt8.toNat_inj.1
  simp only [byteOf, UInt8.toNat_ofNat', UInt8.toNat_mul]
  rw [show (2 : UInt8).toNat = 2 from rfl]
  omega

end Arithmetic

/-! ## Each effect by itself -/

namespace Effect

open EStateM (run_bind run_get)

variable (m : Machine)

theorem run_bind_ok {α β : Type} {x : Effect α} {f : α → Effect β} {m m' : Machine} {a : α}
    (h : x.run m = .ok a m') : (x >>= f).run m = (f a).run m' := by
  rw [run_bind, h]

theorem run_bind_error {α β : Type} {x : Effect α} {f : α → Effect β} {m m' : Machine}
    {fault : Fault} (h : x.run m = .error fault m') : (x >>= f).run m = .error fault m' := by
  rw [run_bind, h]

theorem run_ofExcept_ok {ε α : Type} (a : α) :
    (ofExcept (.ok a : Except ε α) : EStateM ε Machine α).run m = .ok a m := rfl

@[simp] theorem run_value (x : Register) : (value x).run m = .ok (m.reg x).toNat m := rfl

@[simp] theorem run_next : next.run m = .ok (m.pc + 2) m := rfl

@[simp] theorem run_skipIf (c : Bool) :
    (skipIf c).run m = .ok (m.pc + if c then 4 else 2) m := rfl

@[simp] theorem run_count (f : Counters → Counters) :
    (count f).run m = .ok () { m with counters := f m.counters } := rfl

@[simp] theorem run_drawSprite (x y : Int) (sprite : List UInt8) :
    (drawSprite x y sprite).run m =
      .ok (m.screen.collides x y sprite) { m with screen := m.screen.draw x y sprite } := rfl

theorem run_countDraw (rows : Nat) (hit : Bool) :
    (countDraw rows hit).run m =
      .ok () { m with
        counters.draws := m.counters.draws + 1
        counters.reads := m.counters.reads + rows
        counters.collisions := m.counters.collisions + if hit then 1 else 0 } := by
  cases hit <;> rfl

@[simp] theorem run_randomByte :
    randomByte.run m = .ok m.source.draw.1 { m with source := m.source.draw.2 } := rfl

@[simp] theorem run_assign_byte (x : Register) (b : UInt8) :
    (assign x b.toNat).run m = .ok () (m.setReg x b) := by
  have := b.toNat_lt
  rw [assign, if_pos (by omega)]
  simp

@[simp] theorem run_assign_mod (x : Register) (n : Int) :
    (assign x (n % 256)).run m = .ok () (m.setReg x (byteOf n)) := by
  rw [assign, if_pos (by omega)]
  rfl

theorem run_assign_bit (x : Register) (b : Bool) :
    (assign x (bit b)).run m = .ok () (m.setReg x (Machine.flag b)) := by
  cases b <;> rfl

theorem run_assign_wide {x : Register} {n : Int} (h : ¬(0 ≤ n ∧ n ≤ 255)) :
    (assign x n).run m = .error (.tooWide n) m := by
  rw [assign, if_neg h]
  rfl

theorem run_assignFlagged (x : Register) (n : Int) (flag : UInt8) :
    (assignFlagged x n flag.toNat).run m = .ok () (m.setFlagged x (byteOf n) flag) := by
  simp only [assignFlagged, run_bind, run_assign_mod, run_assign_byte]
  rfl

theorem run_assignFlagged_bit (x : Register) (n : Int) (b : Bool) :
    (assignFlagged x n (bit b)).run m = .ok () (m.setFlagged x (byteOf n) (Machine.flag b)) := by
  simp only [assignFlagged, run_bind, run_assign_mod, run_assign_bit]
  rfl

/-! ### The stack -/

theorem run_pop :
    pop.run m =
      match m.stack with
      | [] => .error .emptyStack m
      | address :: rest => .ok address { m with stack := rest } := by
  simp only [pop, run_bind, run_get]
  cases m.stack <;> rfl

theorem run_push (address : Int) :
    (push address).run m =
      if stackCapacity ≤ m.stack.length then .error (.stackOverflow m.stack.length) m
      else .ok () { m with stack := address :: m.stack } := by
  simp only [push, run_bind, run_get]
  by_cases h : stackCapacity ≤ m.stack.length
  · simp only [h, if_true]
    rfl
  · simp only [h, if_false]
    rfl

/-! ### Blocks -/

theorem run_read_ok {length : Nat} (h : m.blockFault length = none) :
    (read length).run m = .ok (m.bytesAtIndex length) m := by
  have hin := Machine.blockFault_eq_none_iff.1 h
  simp only [read, run_bind, run_get, Memory.read, if_pos hin]
  rfl

theorem run_read_error {length : Nat} {fault : Fault} (h : m.blockFault length = some fault) :
    (read length).run m = .error fault m := by
  obtain ⟨hout, rfl⟩ := Machine.blockFault_eq_some_iff.1 h
  simp only [read, run_bind, run_get, Memory.read, if_neg (Memory.not_inRange_iff.2 hout)]
  rfl

theorem run_store_ok {bytes : List UInt8} (h : m.blockFault bytes.length = none) :
    (store bytes).run m =
      .ok () { m with memory := ⟨Memory.put m.memory.bytes m.index.toNat bytes⟩ } := by
  have hin := Machine.blockFault_eq_none_iff.1 h
  simp only [store, run_bind, run_get, Memory.write, if_pos hin]
  rfl

theorem run_store_error {bytes : List UInt8} {fault : Fault}
    (h : m.blockFault bytes.length = some fault) :
    (store bytes).run m = .error fault m := by
  obtain ⟨hout, rfl⟩ := Machine.blockFault_eq_some_iff.1 h
  simp only [store, run_bind, run_get, Memory.write, if_neg (Memory.not_inRange_iff.2 hout)]
  rfl

theorem run_checkEnd (length : Nat) :
    (checkEnd length).run m =
      if memorySize < m.index + length then .error (.access ⟨m.index, length⟩) m
      else .ok () m := by
  simp only [checkEnd, run_bind, run_get]
  split <;> rfl

/-- A block is checked twice, at its upper end and when it is accessed, and both checks fail
with the same fault. So it is enough to look at the access. -/
theorem run_checkEnd_bind {length : Nat} {access : Unit → Effect Int} {pc : Int} {m' : Machine}
    (hout : ∀ fault, m.blockFault length = some fault → (access ()).run m = .error fault m)
    (hin : m.blockFault length = none → (access ()).run m = .ok pc m') :
    (checkEnd length >>= access).run m =
      match m.blockFault length with
      | some fault => .error fault m
      | none => .ok pc m' := by
  by_cases hend : (memorySize : Int) < m.index + length
  · have hfault : m.blockFault length = some (.access ⟨m.index, length⟩) :=
      Machine.blockFault_eq_some_iff.2 ⟨.inr hend, rfl⟩
    rw [hfault]
    apply run_bind_error
    rw [run_checkEnd, if_pos hend]
  · have hpass : (checkEnd length).run m = .ok () m := by
      rw [run_checkEnd, if_neg hend]
    rw [run_bind_ok hpass]
    cases hf : m.blockFault length with
    | some fault => exact hout fault hf
    | none => exact hin hf

/-! ## Execution -/

/-- **Execution is refusal or performance.** An instruction that is refused leaves the
machine as it was. Otherwise the machine is the one that performs it, but for the program
counter, which moves only when the cycle ends. -/
theorem run_execute (m : Machine) (i : Instruction) :
    (execute i).run m =
      match m.refusal i with
      | some fault => .error fault m
      | none => .ok (m.perform i).pc { m.perform i with pc := m.pc } := by
  cases i with
  | sys nnn => rfl
  | cls => rfl
  | ret =>
    simp only [execute, run_bind, run_pop, Machine.refusal]
    cases hs : m.stack with
    | nil => rfl
    | cons caller rest => simp [Machine.perform, hs]
  | jump nnn => rfl
  | call nnn =>
    simp only [execute, run_bind, run_get, run_push, Machine.refusal]
    by_cases h : stackCapacity ≤ m.stack.length
    · rw [if_pos h, if_pos h]
    · rw [if_neg h, if_neg h]
      rfl
  | skipIfByte x nn =>
    simp only [execute, run_bind, run_value, run_skipIf, UInt8.toNat_inj]
    rfl
  | skipUnlessByte x nn =>
    simp only [execute, run_bind, run_value, run_skipIf, ne_eq, UInt8.toNat_inj]
    rfl
  | skipIfEqual x y =>
    simp only [execute, run_bind, run_value, run_skipIf, UInt8.toNat_inj]
    rfl
  | skipUnlessEqual x y =>
    simp only [execute, run_bind, run_value, run_skipIf, ne_eq, UInt8.toNat_inj]
    rfl
  | skipIfDown x => rfl
  | skipUnlessDown x => rfl
  | setByte x nn =>
    simp only [execute, run_bind, run_assign_byte, run_next]
    rfl
  | addByte x nn =>
    simp only [execute, run_bind, run_value, run_assign_mod, run_next, byteOf_add]
    rfl
  | copy x y =>
    simp only [execute, run_bind, run_value, run_assign_byte, run_next]
    rfl
  | or x y =>
    simp only [execute, run_bind, run_value, ← UInt8.toNat_or, run_assign_byte, run_next]
    rfl
  | and x y =>
    simp only [execute, run_bind, run_value, ← UInt8.toNat_and, run_assign_byte, run_next]
    rfl
  | xor x y =>
    simp only [execute, run_bind, run_value, ← UInt8.toNat_xor, run_assign_byte, run_next]
    rfl
  | add x y =>
    simp only [execute, run_bind, run_value, run_assignFlagged_bit, run_next, byteOf_add]
    rfl
  | sub x y =>
    simp only [execute, run_bind, run_value, run_assignFlagged_bit, run_next, byteOf_sub]
    rfl
  | subFrom x y =>
    simp only [execute, run_bind, run_value, run_assignFlagged_bit, run_next, byteOf_sub]
    rfl
  | shiftRight x y =>
    have hlow : ((m.reg y).toNat : Int) % 2 = (m.reg y % 2).toNat := rfl
    simp only [execute, run_bind, run_value, hlow, run_assignFlagged, run_next, byteOf_half]
    rfl
  | shiftLeft x y =>
    have hhigh : ((m.reg y).toNat : Int) / 128 = (m.reg y / 128).toNat := rfl
    simp only [execute, run_bind, run_value, hhigh, run_assignFlagged, run_next, byteOf_double]
    rfl
  | random x nn =>
    simp only [execute, run_bind, run_randomByte, run_assign_byte, run_count, run_next]
    rfl
  | setIndex nnn => rfl
  | jumpOffset nnn => rfl
  | addIndex x => rfl
  | digitSprite x => rfl
  | storeDecimal x =>
    have hlength : (decimalDigits (m.reg x).toNat).length = 3 := rfl
    refine run_checkEnd_bind m (fun fault hout => ?_) (fun hin => ?_)
    · rw [run_bind_ok (run_value m x), run_bind_error (run_store_error m (hlength ▸ hout))]
    · rw [run_bind_ok (run_value m x), run_bind_ok (run_store_ok m (hlength ▸ hin))]
      rfl
  | storeBlock x =>
    have hlength := m.length_block x
    refine run_checkEnd_bind m (fun fault hout => ?_) (fun hin => ?_)
    · rw [run_bind_ok (run_get m), run_bind_error (run_store_error m (hlength ▸ hout))]
    · rw [run_bind_ok (run_get m), run_bind_ok (run_store_ok m (hlength ▸ hin))]
      simp only [Machine.perform, Machine.overwrite, hlength]
      rfl
  | loadBlock x =>
    refine run_checkEnd_bind m (fun fault hout => ?_) (fun hin => ?_)
    · rw [run_bind_error (run_read_error m hout)]
    · rw [run_bind_ok (run_read_ok m hin)]
      rfl
  | draw x y n =>
    simp only [execute, Machine.refusal, run_bind, run_get]
    by_cases h : (memorySize : Int) < m.index + n.val
    · simp only [h, if_true]
      rfl
    · simp only [h, if_false]
      cases hf : m.blockFault n.val with
      | some fault => rw [run_bind_error (run_read_error m hf)]
      | none =>
        rw [run_bind_ok (run_read_ok m hf)]
        simp only [run_bind, run_value, run_drawSprite, run_assign_bit, run_countDraw, run_next,
          Machine.perform, Machine.drawn, Machine.length_bytesAtIndex]
        rfl
  | getDelay x =>
    simp only [execute, run_bind, run_get, Machine.refusal]
    by_cases h : 0 ≤ m.delay ∧ m.delay ≤ 255
    · rw [assign, if_pos h, if_pos h]
      rfl
    · rw [run_assign_wide m h, if_neg h]
  | setDelay x => rfl
  | setSound x => rfl
  | awaitKey x =>
    simp only [execute, run_bind, run_get, Machine.refusal, Machine.perform]
    cases hk : Keypad.firstReleased? m.previousKeys m.keys with
    | none => rfl
    | some key =>
      have hkey : (key.val : Int) = (UInt8.ofNat key.val).toNat := by
        rw [UInt8.toNat_ofNat', Nat.mod_eq_of_lt (by omega)]
      simp only [hkey, run_bind, run_assign_byte, run_next]
      rfl

end Effect

/-! ## Cycles -/

namespace Machine

variable {m m' : Machine} {now before : Keypad}

/-- A cycle finds no instruction, or it refuses it, or it performs it. -/
theorem cycle_eq (m : Machine) (now before : Keypad) :
    m.cycle now before =
      match m.pending with
      | .error fault => .error fault m
      | .ok (_, i) =>
        match m.refusal i with
        | some fault => .error fault (m.latch now before)
        | none => .ok () ((m.latch now before).perform i).counted := by
  rw [cycle, Effect.cycle]
  simp only [EStateM.run_bind, EStateM.run_get]
  cases m.pending with
  | error fault => rfl
  | ok p =>
    simp only [Effect.run_ofExcept_ok, EStateM.run_modify, Effect.run_execute, refusal_latch]
    cases m.refusal p.2 <;> rfl

/-- A cycle that succeeds has performed an instruction that is not refused. -/
theorem cycle_eq_ok_iff :
    m.cycle now before = .ok () m' ↔
      ∃ w i, m.pending = .ok (w, i) ∧ m.refusal i = none ∧
        m' = ((m.latch now before).perform i).counted := by
  rw [cycle_eq]
  cases m.pending with
  | error fault => simp
  | ok p =>
    cases hr : m.refusal p.2 <;> grind

/-- A cycle that fails has found no instruction, or one that is refused. -/
theorem cycle_eq_error_iff {fault : Fault} :
    m.cycle now before = .error fault m' ↔
      (m.pending = .error fault ∧ m' = m) ∨
      ∃ w i, m.pending = .ok (w, i) ∧ m.refusal i = some fault ∧ m' = m.latch now before := by
  rw [cycle_eq]
  cases m.pending with
  | error fault => grind
  | ok p =>
    cases hr : m.refusal p.2 <;> grind

/-! ## Keys given as lists -/

variable {current previous : List Bool}

/-- With one entry for each key in both lists, a cycle is one with keypads. -/
theorem cycleFrom_eq_cycle (m : Machine) (hnow : Keypad.ofList? current = some now)
    (hbefore : Keypad.ofList? previous = some before) :
    m.cycleFrom current previous =
      match m.cycle now before with
      | .ok _ m' => .ok () m'
      | .error fault m' => .error (.fault fault) m' := by
  rw [cycleFrom, Effect.cycleFrom, Keypad.ofStates, Keypad.ofStates, hnow, hbefore]
  change (EStateM.adaptExcept CycleError.fault (Effect.cycle now before)).run m = _
  rw [EStateM.run_adaptExcept, ← cycle]
  cases m.cycle now before <;> rfl

/-- The current keys are looked at first. -/
theorem cycleFrom_of_current (m : Machine) (hnow : Keypad.ofList? current = none) :
    m.cycleFrom current previous =
      .error (.keyCount ⟨"current_keys", current.length⟩) m := by
  rw [cycleFrom, Effect.cycleFrom, Keypad.ofStates, hnow]
  rfl

theorem cycleFrom_of_previous (m : Machine) (hnow : Keypad.ofList? current = some now)
    (hbefore : Keypad.ofList? previous = none) :
    m.cycleFrom current previous =
      .error (.keyCount ⟨"previous_keys", previous.length⟩) m := by
  rw [cycleFrom, Effect.cycleFrom, Keypad.ofStates, Keypad.ofStates, hnow, hbefore]
  rfl

theorem cycleFrom_eq_ok_iff :
    m.cycleFrom current previous = .ok () m' ↔
      ∃ now before, Keypad.ofList? current = some now ∧ Keypad.ofList? previous = some before ∧
        m.cycle now before = .ok () m' := by
  cases hnow : Keypad.ofList? current with
  | none => simp [cycleFrom_of_current m hnow]
  | some now =>
    cases hbefore : Keypad.ofList? previous with
    | none => simp [cycleFrom_of_previous m hnow hbefore]
    | some before =>
      rw [cycleFrom_eq_cycle m hnow hbefore]
      cases hc : m.cycle now before <;> simp [hc]

/-- A cycle with lists fails because of a list, and the machine is as it was, or because the
cycle itself fails. -/
theorem cycleFrom_eq_error {e : CycleError} (h : m.cycleFrom current previous = .error e m') :
    m' = m ∨ ∃ now before fault, m.cycle now before = .error fault m' := by
  cases hnow : Keypad.ofList? current with
  | none =>
    rw [cycleFrom_of_current m hnow] at h
    cases h
    exact .inl rfl
  | some now =>
    cases hbefore : Keypad.ofList? previous with
    | none =>
      rw [cycleFrom_of_previous m hnow hbefore] at h
      cases h
      exact .inl rfl
    | some before =>
      rw [cycleFrom_eq_cycle m hnow hbefore] at h
      cases hc : m.cycle now before with
      | ok u m₁ =>
        rw [hc] at h
        cases h
      | error fault m₁ =>
        rw [hc] at h
        cases h
        exact .inr ⟨now, before, fault, hc⟩

end Machine

end Chip8
