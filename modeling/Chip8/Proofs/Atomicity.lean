import Chip8.Proofs.Operation

/-!
# Failed cycles are atomic

A cycle that fails may have shown the machine new keys, and that is all it has
done. The keys of one cycle are of no use to the next, which is shown its own, so
that nothing that is asked of the machine afterwards can tell whether the failed
cycle was made.

* `Machine.visible` — the machine but for the keys that it was shown last
* `Machine.observe` — what a sequence of operations shows
* `Machine.observe_eq_of_visible_eq` — the keys shown last are never seen again
* `Machine.failed_cycle_atomic` — a failed cycle leaves no trace
-/

namespace Chip8

namespace Machine

/-- The machine but for the keys that it was shown last. -/
def visible (m : Machine) : Machine := m.latch .released .released

/-- What a sequence of operations shows: what each ends in, and the machine after it but
for the keys that it was shown last. -/
def observe (m : Machine) (ops : List Operation) : List (Option CycleError × Machine) :=
  (m.trace ops).map fun (e, m') => (e, m'.visible)

variable {m m' : Machine}

@[simp] theorem visible_latch (m : Machine) (keys previous : Keypad) :
    (m.latch keys previous).visible = m.visible := rfl

/-- No operation depends on the keys shown last. -/
theorem apply_latch (m : Machine) (keys previous : Keypad) (op : Operation) :
    ((m.latch keys previous).apply op).1 = (m.apply op).1 ∧
      ((m.latch keys previous).apply op).2.visible = (m.apply op).2.visible := by
  cases op with
  | tick => exact ⟨rfl, rfl⟩
  | reset => exact ⟨rfl, rfl⟩
  | cycle now before =>
    simp only [apply]
    cases hnow : Keypad.ofList? now with
    | none => simp [cycleFrom_of_current _ hnow]
    | some current =>
      cases hbefore : Keypad.ofList? before with
      | none => simp [cycleFrom_of_previous _ hnow hbefore]
      | some last =>
        simp only [cycleFrom_eq_cycle _ hnow hbefore, cycle_eq, pending_latch, refusal_latch]
        cases m.pending with
        | error fault => simp
        | ok p => cases m.refusal p.2 <;> simp [latch]

/-- What is shown afterwards does not depend on the keys shown last. -/
theorem observe_eq_of_visible_eq (h : m.visible = m'.visible) (ops : List Operation) :
    m.observe ops = m'.observe ops := by
  induction ops generalizing m m' with
  | nil => rfl
  | cons op ops ih =>
    obtain ⟨herror, hvisible⟩ := apply_latch m .released .released op
    obtain ⟨herror', hvisible'⟩ := apply_latch m' .released .released op
    have hlatch : m.latch .released .released = m'.latch .released .released := h
    rw [hlatch] at herror hvisible
    have hhead : (m.apply op).1 = (m'.apply op).1 := herror.symm.trans herror'
    have hnext : (m.apply op).2.visible = (m'.apply op).2.visible :=
      hvisible.symm.trans hvisible'
    simp only [observe, trace, List.map_cons, hhead, hnext]
    exact congrArg _ (ih hnext)

/-- **A failed cycle is atomic.** Whatever it fails with, everything is as it was but the keys
that the machine was shown, and no later sequence of operations can tell that the cycle was
made. -/
theorem failed_cycle_atomic {now before : List Bool} {e : CycleError}
    (h : m.cycleFrom now before = .error e m') :
    m' = { m with keys := m'.keys, previousKeys := m'.previousKeys } ∧
      ∀ ops, m'.observe ops = m.observe ops := by
  have happly : m.apply (.cycle now before) = (some e, m') := by rw [apply, h]
  obtain ⟨keys, previous, rfl⟩ := apply_cycle_eq_some happly
  exact ⟨rfl, observe_eq_of_visible_eq rfl⟩

/-- Storing two registers at the last byte of memory fails after the machine was shown its
keys. -/
theorem failed_cycle_atomic_store :
    let m : Machine :=
      { powerOn ⟨#[0xF1, 0x55], by decide⟩ (.ofStream fun _ => 0) with index := 4095 }
    let pressed : Keypad := .set .released 0 true
    m.cycleFrom (true :: .replicate 15 false) (.replicate 16 false) =
        .error (.fault (.access ⟨4095, 2⟩)) (m.latch pressed .released) ∧
      m.latch pressed .released = { m with keys := pressed, previousKeys := .released } ∧
      ∀ ops, (m.latch pressed .released).observe ops = m.observe ops := by
  intro m pressed
  have hmemory : m.memory = .load ⟨#[0xF1, 0x55], by decide⟩ := by rfl
  have hpc : m.pc = programStart + (0 : Nat) := rfl
  have hpending : m.pending = .ok (⟨0xF, 0x1, 0x5, 0x5⟩, .storeBlock 1) :=
    pending_eq_ok_iff.2 ⟨by decide, (word_of_load hmemory hpc).trans (by decide), rfl⟩
  have hcycle : m.cycle pressed .released =
      .error (.access ⟨4095, 2⟩) (m.latch pressed .released) :=
    cycle_eq_error_iff.2 (.inr ⟨_, _, hpending, by decide, rfl⟩)
  have hnow : Keypad.ofList? (true :: .replicate 15 false) = some pressed := by decide
  have hbefore : Keypad.ofList? (.replicate 16 false) = some .released := by decide
  have hfail : m.cycleFrom (true :: .replicate 15 false) (.replicate 16 false) =
      .error (.fault (.access ⟨4095, 2⟩)) (m.latch pressed .released) := by
    rw [cycleFrom_eq_cycle m hnow hbefore, hcycle]
  exact ⟨hfail, failed_cycle_atomic hfail⟩

end Machine

end Chip8
