import Chip8.Proofs.Randomness
import Chip8.Proofs.Unattended

/-!
# Runs without random bytes

Only `CXNN` looks at the source of random bytes. A run in which it does not occur goes the same way
whatever the source is.

* `Machine.withSource` — a machine with another source
* `Machine.perform_withSource` — what an instruction does that draws no byte
* `CycleRecord.Drawless`, `CycleRecord.error_withSource`, `CycleRecord.after_withSource` — a cycle
  that draws no byte
* `Machine.unattended_withSource` — a machine that runs unattended
* `Session.run_drawless` — a run from the start
-/

namespace Chip8

/-! ## One instruction -/

namespace Machine

/-- The machine with another source of random bytes. -/
def withSource (m : Machine) (source : RandomSource) : Machine := { m with source }

theorem refusal_withSource (m : Machine) (source : RandomSource) (i : Instruction) :
    (m.withSource source).refusal i = m.refusal i := by
  cases i <;> rfl

/-- An instruction that draws no byte makes the same of a machine with another source. -/
theorem perform_withSource {i : Instruction} (hi : i.draws = 0) (m : Machine)
    (source : RandomSource) :
    (m.withSource source).perform i = (m.perform i).withSource source := by
  cases i with
  | random x nn => cases hi
  | loadBlock x =>
    simp only [perform, onward, pastBlock, withSource]
    rfl
  | awaitKey x =>
    simp only [perform, withSource]
    split <;> rfl
  | _ => rfl

end Machine

/-! ## One cycle -/

namespace CycleRecord

/-- Whether the cycle carries out no instruction that draws a byte. -/
def Drawless (r : CycleRecord) : Prop :=
  ∀ w i, r.machine.pending = .ok (w, i) → i.draws = 0

/-- The same cycle of a machine with another source. -/
def withSource (r : CycleRecord) (source : RandomSource) : CycleRecord :=
  { r with machine := r.machine.withSource source }

variable {r : CycleRecord}

/-- Whether a cycle fails, and with what, does not depend on the source. -/
theorem error_withSource (hall : r.ShowsAll) (source : RandomSource) :
    (r.withSource source).error = r.error := by
  have himpasse : (r.machine.withSource source).impasse = r.machine.impasse := by
    have hpending : (r.machine.withSource source).pending = r.machine.pending := rfl
    simp only [Machine.impasse, hpending, Machine.refusal_withSource]
  rw [Machine.error_eq_impasse hall, Machine.error_eq_impasse (r := r.withSource source) hall,
    withSource, himpasse]

/-- A cycle that draws no byte leaves the same machine but for the source. -/
theorem after_withSource (hall : r.ShowsAll) (h : r.Drawless) (source : RandomSource) :
    (r.withSource source).after = r.after.withSource source := by
  obtain ⟨keys, hkeys⟩ := Keypad.ofList?_of_length hall.1
  obtain ⟨previous, hprevious⟩ := Keypad.ofList?_of_length hall.2
  have hpending : (r.machine.withSource source).pending = r.machine.pending := rfl
  simp only [after, withSource, Machine.apply, Machine.cycleFrom_eq_cycle _ hkeys hprevious,
    Machine.cycle_eq, hpending, Machine.refusal_withSource]
  rcases hp : r.machine.pending with f | ⟨w, i⟩
  · rfl
  · simp only
    cases r.machine.refusal i with
    | some f => rfl
    | none =>
      exact congrArg Machine.counted
        (Machine.perform_withSource (h w i hp) (r.machine.latch keys previous) source)

end CycleRecord

/-! ## Whole runs -/

namespace Machine

/-- **Without random bytes the source does not matter.** If no cycle before cycle `k` draws a byte,
then cycle `k` is the same with another source. -/
theorem unattended_withSource {m : Machine} {rate k : Nat} (source : RandomSource)
    (h : ∀ j < k, (m.unattended rate j).Drawless) :
    (m.withSource source).unattended rate k = (m.unattended rate k).withSource source := by
  have hmachine : ((m.withSource source).unattended rate k).machine =
      (m.unattended rate k).machine.withSource source := by
    induction k with
    | zero =>
      rw [unattended_zero, unattended_zero]
      rfl
    | succ k ih =>
      have hbefore := ih fun j hj => h j (Nat.lt_succ_of_lt hj)
      have hafter : ((m.withSource source).unattended rate k).after =
          (m.unattended rate k).after.withSource source := by
        rw [← CycleRecord.after_withSource (showsAll_unattended m rate k) (h k k.lt_succ_self)]
        show (CycleRecord.mk ((m.withSource source).unattended rate k).machine _ _).after = _
        rw [hbefore]
        rfl
      rw [machine_unattended_succ, machine_unattended_succ, hafter]
      split <;> rfl
  show CycleRecord.mk ((m.withSource source).unattended rate k).machine _ _ = _
  rw [hmachine]
  rfl

end Machine

/-- A run from the start, told by a machine with any source of random bytes, as long as no cycle
that is made draws one. -/
theorem Session.run_drawless (settings : Settings) (program : Program)
    (source source' : RandomSource) (traced : Bool) (n : Int) :
    let rate := settings.cyclesPerFrame
    let limit := n.toNat * rate
    let cycles := (Machine.powerOn program source).unattended rate
    (∀ k < limit, (∀ j < k, (cycles j).error = none) → (cycles k).Drawless) →
      ((ofMachine settings (.powerOn program source') traced).run n).ToldBy cycles rate limit := by
  intro rate limit cycles hdrawless
  let cycles' := (Machine.powerOn program source').unattended rate
  have hsame {k : Nat} (hk : k ≤ limit) (hbefore : ∀ j < k, (cycles j).error = none) :
      cycles' k = (cycles k).withSource source' :=
    Machine.unattended_withSource (m := .powerOn program source) source' fun j hj =>
      hdrawless j (Nat.lt_of_lt_of_le hj hk) fun i hi => hbefore i (Nat.lt_trans hi hj)
  have herror {k : Nat} (hk : k ≤ limit) (hbefore : ∀ j < k, (cycles j).error = none) :
      (cycles' k).error = (cycles k).error := by
    rw [hsame hk hbefore, CycleRecord.error_withSource (Machine.showsAll_unattended _ _ _)]
  -- cycle by cycle, the one machine succeeds where the other does
  have hbefore {k : Nat} (hk : k ≤ limit) (h : ∀ j < k, (cycles' j).error = none) :
      ∀ j < k, (cycles j).error = none := by
    induction k with
    | zero => intro j hj; exact absurd hj (Nat.not_lt_zero j)
    | succ k ih =>
      have hearlier := ih (Nat.le_of_succ_le hk) fun j hj => h j (Nat.lt_succ_of_lt hj)
      intro j hj
      rcases Nat.lt_succ_iff_lt_or_eq.1 hj with hj | rfl
      · exact hearlier j hj
      · rw [← herror (Nat.le_of_succ_le hk) hearlier]
        exact h j j.lt_succ_self
  cases run_unattended settings program source' traced n with
  | completed hall hfault hframes hinstructions =>
    exact .completed (hbefore (Nat.le_refl limit) hall) hfault hframes hinstructions
  | @failed k f hk hfirst hfault hframes hinstructions hpc =>
    have hearlier := hbefore (Nat.le_of_lt hk) hfirst.before
    have herror := (herror (Nat.le_of_lt hk) hearlier).symm.trans hfirst.error
    have hafter := CycleRecord.after_withSource (Machine.showsAll_unattended _ _ _)
      (hdrawless k hk hearlier) source'
    refine .failed hk ⟨hearlier, herror⟩ hfault hframes hinstructions (hpc.trans ?_)
    show (cycles' k).after.pc = _
    rw [hsame (Nat.le_of_lt hk) hearlier, hafter]
    rfl

end Chip8
