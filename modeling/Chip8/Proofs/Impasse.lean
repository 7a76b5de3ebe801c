import Chip8.Proofs.Command
import Chip8.Proofs.Faults

/-!
# Crashes are permanent

Whether a cycle fails, and with what, can be told before it is made: it depends on what
stands at the program counter, on the stack and on the index register, but never on the
keys. A failed cycle changes none of these, and neither does a tick. So a machine that
failed once fails in the same way for ever, unless it is reset.

The delay timer is the one exception. If it holds a number that is no byte, which only
somebody who tampers with the machine can bring about, then `FX07` fails until the timer
has counted down. That fault is not the program's, and it stops no session.

* `Machine.impasse` — the fault in which the next cycle ends, if it ends in one
* `Machine.cycle_of_impasse`, `Machine.cycle_of_impasse_eq_none` — what the cycle then does
* `Machine.error_eq_impasse` — in what a cycle ends that shows the machine all its keys
* `Machine.isCrash_of_impasse` — with a delay timer that is a byte, every fault is a crash
* `Machine.impasse_apply`, `Machine.impasse_after` — a crash stays
* `Machine.step_of_impasse` — a session is stopped by it
* `Machine.crash_permanent` — the same of cycles and of sessions that are tried again
-/

namespace Chip8

/-- The machine of a session is tried again in spite of the fault that stopped it. -/
def Session.retry (s : Session) : Session := { s with fault := none }.step

namespace Machine

/-- The fault in which the next cycle ends, if it ends in one. -/
def impasse (m : Machine) : Option Fault :=
  match m.pending with
  | .error fault => some fault
  | .ok (_, i) => m.refusal i

variable {m m' : Machine} {f : Fault}

/-! ## One cycle -/

theorem impasse_eq_some_iff :
    m.impasse = some f ↔
      m.pending = .error f ∨ ∃ w i, m.pending = .ok (w, i) ∧ m.refusal i = some f := by
  rw [impasse]
  rcases m.pending with fault | ⟨w, i⟩ <;> grind

theorem impasse_eq_none_iff :
    m.impasse = none ↔ ∃ w i, m.pending = .ok (w, i) ∧ m.refusal i = none := by
  rw [impasse]
  rcases m.pending with fault | ⟨w, i⟩ <;> grind

@[simp] theorem impasse_latch (m : Machine) (now before : Keypad) :
    (m.latch now before).impasse = m.impasse := by
  simp only [impasse, pending_latch, refusal_latch]

/-- At an impasse a cycle fails, and shows the machine its keys at most. -/
theorem cycle_of_impasse (h : m.impasse = some f) (now before : Keypad) :
    ∃ keys previous, m.cycle now before = .error f (m.latch keys previous) := by
  rcases impasse_eq_some_iff.1 h with hpending | ⟨w, i, hpending, hrefusal⟩
  · exact ⟨m.keys, m.previousKeys, cycle_eq_error_iff.2 (.inl ⟨hpending, rfl⟩)⟩
  · exact ⟨now, before, cycle_eq_error_iff.2 (.inr ⟨w, i, hpending, hrefusal, rfl⟩)⟩

/-- Without one it performs an instruction. -/
theorem cycle_of_impasse_eq_none (h : m.impasse = none) (now before : Keypad) :
    ∃ w i, m.pending = .ok (w, i) ∧ m.refusal i = none ∧
      m.cycle now before = .ok () ((m.latch now before).perform i).counted := by
  obtain ⟨w, i, hpending, hrefusal⟩ := impasse_eq_none_iff.1 h
  exact ⟨w, i, hpending, hrefusal, cycle_eq_ok_iff.2 ⟨w, i, hpending, hrefusal, rfl⟩⟩

/-- A cycle fails with the fault of the impasse. -/
theorem impasse_of_cycle {now before : Keypad} (h : m.cycle now before = .error f m') :
    m.impasse = some f := by
  rcases cycle_eq_error_iff.1 h with ⟨hpending, -⟩ | ⟨w, i, hpending, hrefusal, -⟩
  · exact impasse_eq_some_iff.2 (.inl hpending)
  · exact impasse_eq_some_iff.2 (.inr ⟨w, i, hpending, hrefusal⟩)

theorem cycleFrom_of_impasse (h : m.impasse = some f) {now before : List Bool}
    (hnow : now.length = 16) (hbefore : before.length = 16) :
    ∃ keys previous, m.cycleFrom now before = .error (.fault f) (m.latch keys previous) := by
  obtain ⟨current, hcurrent⟩ := Keypad.ofList?_of_length hnow
  obtain ⟨last, hlast⟩ := Keypad.ofList?_of_length hbefore
  obtain ⟨keys, previous, hcycle⟩ := cycle_of_impasse h current last
  refine ⟨keys, previous, ?_⟩
  rw [cycleFrom_eq_cycle m hcurrent hlast, hcycle]

theorem impasse_of_cycleFrom {now before : List Bool} {e : CycleError} (hnow : now.length = 16)
    (hbefore : before.length = 16) (h : m.cycleFrom now before = .error e m') :
    (∃ f, e = .fault f ∧ m.impasse = some f) ∧ ∃ keys previous, m' = m.latch keys previous := by
  obtain ⟨current, hcurrent⟩ := Keypad.ofList?_of_length hnow
  obtain ⟨last, hlast⟩ := Keypad.ofList?_of_length hbefore
  have happly : m.apply (.cycle now before) = (some e, m') := by rw [apply, h]
  refine ⟨?_, apply_cycle_eq_some happly⟩
  rw [cycleFrom_eq_cycle m hcurrent hlast] at h
  cases hcycle : m.cycle current last with
  | ok u m₁ =>
    rw [hcycle] at h
    cases h
  | error f m₁ =>
    rw [hcycle] at h
    cases h
    exact ⟨f, rfl, impasse_of_cycle hcycle⟩

/-- A cycle that shows all keys ends in the fault of the impasse, if there is one. -/
theorem error_eq_impasse {r : CycleRecord} (hr : r.ShowsAll) :
    r.error = r.machine.impasse.map .fault := by
  rw [CycleRecord.error]
  cases himpasse : r.machine.impasse with
  | some f =>
    obtain ⟨keys, previous, hcycle⟩ := cycleFrom_of_impasse himpasse hr.1 hr.2
    rw [apply, hcycle]
    rfl
  | none =>
    obtain ⟨keys, hkeys⟩ := Keypad.ofList?_of_length hr.1
    obtain ⟨previous, hprevious⟩ := Keypad.ofList?_of_length hr.2
    obtain ⟨w, i, hpending, hrefusal⟩ := impasse_eq_none_iff.1 himpasse
    rw [apply_cycle hkeys hprevious hpending hrefusal]
    rfl

/-- A cycle that shows all keys and does not fail performs an instruction. -/
theorem after_of_error_eq_none {r : CycleRecord} (hr : r.ShowsAll) (hok : r.error = none) :
    ∃ keys previous w i, r.machine.pending = .ok (w, i) ∧ r.machine.refusal i = none ∧
      r.after = ((r.machine.latch keys previous).perform i).counted := by
  rw [error_eq_impasse hr, Option.map_eq_none_iff] at hok
  obtain ⟨w, i, hpending, hrefusal⟩ := impasse_eq_none_iff.1 hok
  obtain ⟨keys, hkeys⟩ := Keypad.ofList?_of_length hr.1
  obtain ⟨previous, hprevious⟩ := Keypad.ofList?_of_length hr.2
  refine ⟨keys, previous, w, i, hpending, hrefusal, ?_⟩
  rw [CycleRecord.after, apply_cycle hkeys hprevious hpending hrefusal]

/-! ## Crashes -/

/-- Every fault of the specification is the program's. -/
theorem Fails.isCrash (h : m.Fails f) : f.isCrash = true := by
  cases h <;> rfl

/-- With a delay timer that is a byte, every fault is the program's. -/
theorem isCrash_of_impasse (hdelay : 0 ≤ m.delay ∧ m.delay ≤ 255) (h : m.impasse = some f) :
    f.isCrash = true := by
  obtain ⟨keys, previous, hcycle⟩ := cycle_of_impasse h .released .released
  exact ((cycle_fails_iff hdelay _ _).1 ⟨_, hcycle⟩).isCrash

/-- What is refused for a reason of the program is refused after a tick as well. -/
theorem refusal_tick {i : Instruction} (hcrash : f.isCrash = true) (h : m.refusal i = some f) :
    m.tick.refusal i = some f := by
  cases i with
  | getDelay x =>
    -- the only instruction that is refused because of a timer
    rw [refusal] at h
    split at h
    · cases h
    · cases h
      cases hcrash
  | _ => exact h

/-- A tick does not help out of a crash. -/
theorem impasse_tick (hcrash : f.isCrash = true) (h : m.impasse = some f) :
    m.tick.impasse = some f := by
  rcases impasse_eq_some_iff.1 h with hpending | ⟨w, i, hpending, hrefusal⟩
  · exact impasse_eq_some_iff.2 (.inl hpending)
  · exact impasse_eq_some_iff.2 (.inr ⟨w, i, hpending, refusal_tick hcrash hrefusal⟩)

/-- Nothing that drives a crashed machine on moves it or changes how it fails. -/
theorem impasse_apply (hcrash : f.isCrash = true) (h : m.impasse = some f) {op : Operation}
    (hop : op.Drives) : (m.apply op).2.impasse = some f ∧ (m.apply op).2.pc = m.pc := by
  cases op with
  | reset => exact hop.elim
  | tick => exact ⟨impasse_tick hcrash h, rfl⟩
  | cycle now before =>
    obtain ⟨keys, previous, hcycle⟩ := cycleFrom_of_impasse h hop.1 hop.2
    rw [apply, hcycle]
    exact ⟨(impasse_latch m keys previous).trans h, rfl⟩

theorem impasse_after (hcrash : f.isCrash = true) (h : m.impasse = some f) {ops : List Operation}
    (hops : ∀ op ∈ ops, op.Drives) :
    (m.after ops).impasse = some f ∧ (m.after ops).pc = m.pc := by
  induction ops generalizing m with
  | nil => exact ⟨h, rfl⟩
  | cons op ops ih =>
    obtain ⟨hop, hrest⟩ := List.forall_mem_cons.1 hops
    obtain ⟨hnext, hpc⟩ := impasse_apply hcrash h hop
    obtain ⟨hlast, hpcs⟩ := ih hnext hrest
    exact ⟨hlast, hpcs.trans hpc⟩

/-! ## Sessions -/

variable {s : Session}

/-- A session whose machine is at an impasse is stopped by its next step, and shows the machine
its keys at most. -/
theorem step_of_impasse (hs : s.crashed = false) (hcrash : f.isCrash = true)
    (h : s.machine.impasse = some f) :
    ∃ keys previous log, s.step =
      { s with
        machine := s.machine.latch keys previous, fault := some f, interruption := none, log } := by
  obtain ⟨keys, previous, hcycle⟩ := cycle_of_impasse h s.keys s.previousKeys
  obtain ⟨log, hstep⟩ := Session.exists_step hs
  refine ⟨keys, previous, log, ?_⟩
  rw [hstep, hcycle]
  simp only [hcrash, if_true]

/-- **A crash is permanent.** Suppose that a cycle fails. Its fault is the program's, unless
the delay timer is no byte. Then, whatever drives the machine on afterwards, the program
counter stays where it was, and every further cycle, with whatever keys, ends in the same
error. Nor does a session get any further by trying the machine again. -/
theorem crash_permanent {now before : List Bool} {e : CycleError} (hnow : now.length = 16)
    (hbefore : before.length = 16) (h : m.cycleFrom now before = .error e m') :
    ∃ f, e = .fault f ∧ (0 ≤ m.delay ∧ m.delay ≤ 255 → f.isCrash = true) ∧
      (f.isCrash = true → ∀ ops, (∀ op ∈ ops, op.Drives) →
        (m'.after ops).pc = m.pc ∧
        (∀ now' before', now'.length = 16 → before'.length = 16 →
          ∃ m'', (m'.after ops).cycleFrom now' before' = .error e m'' ∧ m''.pc = m.pc) ∧
        ∀ s : Session, s.machine = m'.after ops →
          s.retry.fault = some f ∧ s.retry.machine.pc = m.pc) := by
  obtain ⟨⟨f, rfl, himpasse⟩, keys, previous, rfl⟩ := impasse_of_cycleFrom hnow hbefore h
  refine ⟨f, rfl, fun hdelay => isCrash_of_impasse hdelay himpasse, ?_⟩
  intro hcrash ops hops
  have hlatch : (m.latch keys previous).impasse = some f :=
    (impasse_latch m keys previous).trans himpasse
  obtain ⟨hlast, hpc⟩ := impasse_after hcrash hlatch hops
  refine ⟨hpc, ?_, ?_⟩
  · intro now' before' hnow' hbefore'
    obtain ⟨keys', previous', hcycle⟩ := cycleFrom_of_impasse hlast hnow' hbefore'
    exact ⟨_, hcycle, hpc⟩
  · intro s hs
    have hagain : ({ s with fault := none } : Session).machine.impasse = some f := hs ▸ hlast
    obtain ⟨keys', previous', log, hstep⟩ := step_of_impasse rfl hcrash hagain
    rw [Session.retry, hstep]
    exact ⟨rfl, (congrArg pc hs).trans hpc⟩

/-- A call when the stack is full fails for ever, even while a delay timer that is no byte
counts down. -/
theorem crash_permanent_stack_overflow :
    let m : Machine :=
      { powerOn ⟨#[0x22, 0x00], by decide⟩ (.ofStream fun _ => 0) with
        stack := .replicate 12 0, delay := 256 }
    let up : List Bool := .replicate 16 false
    m.cycleFrom up up = .error (.fault (.stackOverflow 12)) (m.latch .released .released) ∧
      ∀ ops, (∀ op ∈ ops, op.Drives) → ∀ now before, now.length = 16 → before.length = 16 →
        ∃ m'', ((m.latch .released .released).after ops).cycleFrom now before =
          .error (.fault (.stackOverflow 12)) m'' ∧ m''.pc = 0x200 := by
  intro m up
  have hmemory : m.memory = .load ⟨#[0x22, 0x00], by decide⟩ := by rfl
  have hpc : m.pc = programStart + (0 : Nat) := rfl
  have hpending : m.pending = .ok (⟨0x2, 0x2, 0x0, 0x0⟩, .call 0x200) :=
    pending_eq_ok_iff.2 ⟨by decide, (word_of_load hmemory hpc).trans (by decide), rfl⟩
  have hcycle : m.cycle .released .released =
      .error (.stackOverflow 12) (m.latch .released .released) :=
    cycle_eq_error_iff.2 (.inr ⟨_, _, hpending, by decide, rfl⟩)
  have hup : Keypad.ofList? up = some .released := by decide
  have hfail : m.cycleFrom up up =
      .error (.fault (.stackOverflow 12)) (m.latch .released .released) := by
    rw [cycleFrom_eq_cycle m hup hup, hcycle]
  obtain ⟨f, hf, -, hpermanent⟩ := crash_permanent (by decide) (by decide) hfail
  cases hf
  exact ⟨hfail, fun ops hops => (hpermanent rfl ops hops).2.1⟩

end Machine

end Chip8
