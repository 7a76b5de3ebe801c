import Chip8.Proofs.Execution

/-!
# Sequences of operations

Whoever drives a machine asks it for cycles, for ticks of its timers, and for
resets, in any order. An operation may fail, and the next one then finds the
machine that the failed one left.

* `Operation` — a cycle with its two key lists, a tick, or a reset
* `Operation.Drives` — whether an operation drives a machine on
* `Machine.apply` — the error of an operation, if it fails, and the machine after it
* `Machine.trace` — the same for each operation of a sequence
* `Machine.after` — the machine after a sequence
* `CycleRecord`, `Machine.cycles` — the cycles among the operations of a sequence
* `Machine.after_induction` — what every operation keeps holds after every sequence
-/

namespace Chip8

/-- What a machine is asked for. -/
inductive Operation where
  /-- A cycle, with the states of the keys now and those a frame before. -/
  | cycle (now before : List Bool)
  /-- A tick of both timers. -/
  | tick
  /-- A reset. -/
  | reset
deriving DecidableEq, Repr

/-- Whether an operation drives a machine on: a tick does, and so does a cycle that shows it
all its keys. -/
def Operation.Drives : Operation → Prop
  | .cycle now before => now.length = 16 ∧ before.length = 16
  | .tick => True
  | .reset => False

namespace Machine

/-- The error that an operation ends in, if it does, and the machine after it. -/
def apply (m : Machine) : Operation → Option CycleError × Machine
  | .cycle now before =>
    match m.cycleFrom now before with
    | .ok _ m' => (none, m')
    | .error e m' => (some e, m')
  | .tick => (none, m.tick)
  | .reset => (none, m.reset)

/-- What each operation of a sequence ends in, and the machine after each. -/
def trace (m : Machine) : List Operation → List (Option CycleError × Machine)
  | [] => []
  | op :: ops => m.apply op :: (m.apply op).2.trace ops

/-- The machine after a sequence of operations. -/
def after (m : Machine) (ops : List Operation) : Machine :=
  ops.foldl (fun m op => (m.apply op).2) m

end Machine

/-- A cycle that a machine was asked for. -/
structure CycleRecord where
  /-- The machine before the cycle. -/
  machine : Machine
  /-- The states of the keys that it was shown. -/
  now : List Bool
  /-- The states that it was shown as those a frame before. -/
  before : List Bool

namespace CycleRecord

/-- The error that the cycle ended in, if it did. -/
def error (r : CycleRecord) : Option CycleError := (r.machine.apply (.cycle r.now r.before)).1

/-- The machine after the cycle. -/
def after (r : CycleRecord) : Machine := (r.machine.apply (.cycle r.now r.before)).2

/-- Whether the cycle shows the machine the state of every key, now and a frame before. -/
def ShowsAll (r : CycleRecord) : Prop := r.now.length = 16 ∧ r.before.length = 16

end CycleRecord

namespace Machine

/-- The cycles among the operations of a sequence. -/
def cycles (m : Machine) : List Operation → List CycleRecord
  | [] => []
  | .cycle now before :: ops => ⟨m, now, before⟩ :: (m.apply (.cycle now before)).2.cycles ops
  | .tick :: ops => m.tick.cycles ops
  | .reset :: ops => m.reset.cycles ops

variable {m m' : Machine}

@[simp] theorem after_nil (m : Machine) : m.after [] = m := rfl

@[simp] theorem after_cons (m : Machine) (op : Operation) (ops : List Operation) :
    m.after (op :: ops) = (m.apply op).2.after ops := rfl

theorem after_append (m : Machine) (ops ops' : List Operation) :
    m.after (ops ++ ops') = (m.after ops).after ops' :=
  List.foldl_append

@[simp] theorem apply_tick (m : Machine) : m.apply .tick = (none, m.tick) := rfl

/-- With one entry for each key in both lists, an instruction that is not refused is
performed. -/
theorem apply_cycle {now before : List Bool} {keys previous : Keypad} {w : Word}
    {i : Instruction} (hnow : Keypad.ofList? now = some keys)
    (hbefore : Keypad.ofList? before = some previous) (hpending : m.pending = .ok (w, i))
    (hrefusal : m.refusal i = none) :
    m.apply (.cycle now before) = (none, ((m.latch keys previous).perform i).counted) := by
  have hcycle : m.cycle keys previous = .ok () ((m.latch keys previous).perform i).counted :=
    cycle_eq_ok_iff.2 ⟨w, i, hpending, hrefusal, rfl⟩
  rw [apply, cycleFrom_eq_ok_iff.2 ⟨keys, previous, hnow, hbefore, hcycle⟩]

/-- A cycle that succeeds has performed an instruction that is not refused. -/
theorem apply_cycle_eq_none {now before : List Bool}
    (h : m.apply (.cycle now before) = (none, m')) :
    ∃ keys previous w i, m.pending = .ok (w, i) ∧ m.refusal i = none ∧
      m' = ((m.latch keys previous).perform i).counted := by
  rw [apply] at h
  cases hc : m.cycleFrom now before with
  | error e m₁ => simp [hc] at h
  | ok u m₁ =>
    rw [hc] at h
    cases h
    obtain ⟨keys, previous, -, -, hcycle⟩ := cycleFrom_eq_ok_iff.1 hc
    obtain ⟨w, i, hpending, hrefusal, rfl⟩ := cycle_eq_ok_iff.1 hcycle
    exact ⟨keys, previous, w, i, hpending, hrefusal, rfl⟩

/-- A cycle that fails leaves everything as it was but the keys that it was shown. -/
theorem apply_cycle_eq_some {now before : List Bool} {e : CycleError}
    (h : m.apply (.cycle now before) = (some e, m')) :
    ∃ keys previous, m' = m.latch keys previous := by
  rw [apply] at h
  cases hc : m.cycleFrom now before with
  | ok u m₁ => simp [hc] at h
  | error e m₁ =>
    rw [hc] at h
    cases h
    rcases cycleFrom_eq_error hc with rfl | ⟨keys, previous, fault, hcycle⟩
    · exact ⟨m'.keys, m'.previousKeys, rfl⟩
    · rcases cycle_eq_error_iff.1 hcycle with ⟨-, rfl⟩ | ⟨w, i, -, -, rfl⟩
      · exact ⟨m'.keys, m'.previousKeys, rfl⟩
      · exact ⟨keys, previous, rfl⟩

/-- What holds at the start and is kept by every operation holds after every sequence. The
cases are the ways in which an operation ends: a cycle performs an instruction or fails,
the timers tick, or the machine is reset. -/
theorem after_induction {Inv : Machine → Prop} (start : Inv m)
    (perform : ∀ m keys previous w i, Inv m → m.pending = .ok (w, i) → m.refusal i = none →
      Inv ((m.latch keys previous).perform i).counted)
    (latch : ∀ m keys previous, Inv m → Inv (m.latch keys previous))
    (tick : ∀ m, Inv m → Inv m.tick) (reset : ∀ m, Inv m → Inv m.reset)
    (ops : List Operation) : Inv (m.after ops) := by
  induction ops generalizing m with
  | nil => exact start
  | cons op ops ih =>
    rw [after_cons]
    refine ih ?_
    cases op with
    | tick => exact tick m start
    | reset => exact reset m start
    | cycle now before =>
      rcases hop : m.apply (.cycle now before) with ⟨_ | e, m₁⟩
      · obtain ⟨keys, previous, w, i, hpending, hrefusal, rfl⟩ := apply_cycle_eq_none hop
        exact perform m keys previous w i start hpending hrefusal
      · obtain ⟨keys, previous, rfl⟩ := apply_cycle_eq_some hop
        exact latch m keys previous start

end Machine

end Chip8
