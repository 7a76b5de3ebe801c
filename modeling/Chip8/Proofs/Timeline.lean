import Chip8.Proofs.Operation

/-!
# Timelines

What a machine holds at the end of a sequence of operations is often told by its past: by
what was done last, or by how often something was done. For that the operations have to be
seen together with the machines that they were asked of, and with what came of them.

* `Stage` — an operation with the machine that is asked for it
* `Stage.executed?` — the instruction that it carries out, if it does
* `Outcome`, `Stage.outcome` — the ways in which an operation ends
* `Machine.stages` — the operations of a sequence, each with its machine
* `Machine.stages_concat` — a sequence grows at its end
* `Machine.stages_eq_append_cons` — what comes before a stage leads up to it
-/

namespace Chip8

/-- An operation that a machine is asked for. -/
structure Stage where
  /-- The machine before the operation. -/
  machine : Machine
  /-- The operation. -/
  operation : Operation

namespace Stage

/-- The error that the operation ends in, if it does. -/
def error (s : Stage) : Option CycleError := (s.machine.apply s.operation).1

/-- The machine after the operation. -/
def after (s : Stage) : Machine := (s.machine.apply s.operation).2

/-- The instruction that is carried out: the one at the program counter, if the operation is
a cycle that does not fail. -/
def executed? (s : Stage) : Option Instruction :=
  match s.operation, s.error, s.machine.pending with
  | .cycle _ _, none, .ok (_, i) => some i
  | _, _, _ => none

end Stage

/-! ## Outcomes -/

/-- What comes of an operation: the instruction that it carries out, if it does, and the
machine after it. -/
inductive Outcome (m : Machine) : Operation → Option Instruction → Machine → Prop where
  /-- A cycle carries an instruction out that is not refused. -/
  | executed {now before : List Bool} {keys previous : Keypad} {w : Word} {i : Instruction}
      (pending : m.pending = .ok (w, i)) (refusal : m.refusal i = none) :
      Outcome m (.cycle now before) (some i) ((m.latch keys previous).perform i).counted
  /-- A cycle fails, and it may have shown the machine its keys. -/
  | failed {now before : List Bool} {keys previous : Keypad} :
      Outcome m (.cycle now before) none (m.latch keys previous)
  /-- The timers tick. -/
  | ticked : Outcome m .tick none m.tick
  /-- The machine is reset. -/
  | restarted : Outcome m .reset none m.reset

/-- Every operation ends in one of these ways. -/
theorem Stage.outcome (s : Stage) : Outcome s.machine s.operation s.executed? s.after := by
  obtain ⟨m, op⟩ := s
  cases op with
  | tick => exact .ticked
  | reset => exact .restarted
  | cycle now before =>
    rcases hop : m.apply (.cycle now before) with ⟨_ | e, m'⟩
    · obtain ⟨keys, previous, w, i, hpending, hrefusal, rfl⟩ := Machine.apply_cycle_eq_none hop
      simp only [executed?, error, after, hop, hpending]
      exact .executed hpending hrefusal
    · obtain ⟨keys, previous, rfl⟩ := Machine.apply_cycle_eq_some hop
      simp only [executed?, error, after, hop]
      exact .failed

theorem Stage.executed?_of_apply {m m' : Machine} {now before : List Bool} {w : Word}
    {i : Instruction} (hpending : m.pending = .ok (w, i))
    (happly : m.apply (.cycle now before) = (none, m')) :
    (Stage.mk m (.cycle now before)).executed? = some i := by
  simp only [executed?, error, happly, hpending]

/-- An instruction that is carried out was found, was not refused, and has been performed. -/
theorem Stage.after_of_executed {s : Stage} {i : Instruction} (h : s.executed? = some i) :
    ∃ keys previous w, s.machine.pending = .ok (w, i) ∧ s.machine.refusal i = none ∧
      s.after = ((s.machine.latch keys previous).perform i).counted := by
  have houtcome := s.outcome
  rw [h] at houtcome
  generalize s.operation = op, s.after = m' at houtcome ⊢
  cases houtcome with
  | executed hpending hrefusal => exact ⟨_, _, _, hpending, hrefusal, rfl⟩

/-! ## Sequences -/

namespace Machine

/-- The operations of a sequence, each with the machine that is asked for it. -/
def stages (m : Machine) : List Operation → List Stage
  | [] => []
  | op :: ops => ⟨m, op⟩ :: (m.apply op).2.stages ops

theorem stages_append (m : Machine) (ops ops' : List Operation) :
    m.stages (ops ++ ops') = m.stages ops ++ (m.after ops).stages ops' := by
  induction ops generalizing m with
  | nil => rfl
  | cons op ops ih => rw [List.cons_append, stages, ih, stages, after_cons, List.cons_append]

/-- A sequence that grows by an operation grows by its stage. -/
theorem stages_concat (m : Machine) (ops : List Operation) (op : Operation) :
    m.stages (ops ++ [op]) = m.stages ops ++ [⟨m.after ops, op⟩] :=
  m.stages_append ops [op]

theorem after_concat (m : Machine) (ops : List Operation) (op : Operation) :
    m.after (ops ++ [op]) = (Stage.mk (m.after ops) op).after :=
  m.after_append ops [op]

/-- The stages before a stage are those of the operations that lead up to it. -/
theorem stages_eq_append_cons {m : Machine} {ops : List Operation} {earlier later : List Stage}
    {s : Stage} (h : m.stages ops = earlier ++ s :: later) :
    ∃ first rest, ops = first ++ s.operation :: rest ∧ earlier = m.stages first ∧
      s.machine = m.after first := by
  induction earlier generalizing m ops with
  | nil =>
    cases ops with
    | nil => cases h
    | cons op ops =>
      cases h
      exact ⟨[], ops, rfl, rfl, rfl⟩
  | cons e earlier ih =>
    cases ops with
    | nil => cases h
    | cons op ops =>
      obtain ⟨rfl, htail⟩ := List.cons.inj h
      obtain ⟨first, rest, rfl, rfl, hmachine⟩ := ih htail
      exact ⟨op :: first, rest, rfl, rfl, hmachine⟩

end Machine

end Chip8
