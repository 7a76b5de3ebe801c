import Chip8.Proofs.Operation

/-!
# Random bytes

Only `CXNN` touches the source of random bytes, and what it does is to draw the next byte.
What the source was started from, the words of a seed or a stream, stays the same even
when the machine is reset.

* `RandomSource.origin` — what a source was started from
* `Instruction.draws`, `Machine.source_perform` — how many bytes an instruction draws
* `Machine.descends_after` — no operation changes the program or the origin of the bytes
-/

namespace Chip8

namespace RandomSource

/-- What a source was started from: the words of a seed, or a stream. -/
def origin : RandomSource → List UInt32 ⊕ (Nat → UInt8)
  | seeded entropy _ => .inl entropy
  | stream bytes _ => .inr bytes

variable {s : RandomSource}

@[simp] theorem origin_draw (s : RandomSource) : s.draw.2.origin = s.origin := by
  cases s <;> rfl

@[simp] theorem origin_restart (s : RandomSource) : s.restart.origin = s.origin := by
  cases s <;> simp only [restart, ofEntropy, origin]

@[simp] theorem origin_after (s : RandomSource) (count : Nat) :
    (s.after count).origin = s.origin := by
  induction count with
  | zero => rfl
  | succ count ih => rw [after, origin_draw, ih]

/-- Power-on takes a source that comes from a seed back to its start. -/
theorem restart_of_seed {entropy : List UInt32} (h : s.origin = .inl entropy) :
    s.restart = ofEntropy entropy := by
  cases s with
  | seeded words generator =>
    cases h
    rfl
  | stream bytes position => cases h

/-- Power-on leaves a stream where it is. -/
theorem restart_of_stream {bytes : Nat → UInt8} (h : s.origin = .inr bytes) :
    s.restart = s ∧ ∃ position, s = .stream bytes position := by
  cases s with
  | seeded words generator => cases h
  | stream bytes position =>
    cases h
    exact ⟨rfl, position, rfl⟩

theorem after_after (s : RandomSource) (first second : Nat) :
    (s.after first).after second = s.after (first + second) := by
  induction second with
  | zero => rfl
  | succ second ih => rw [after, ih, Nat.add_succ, after]

end RandomSource

/-- The number of random bytes that an instruction draws. -/
def Instruction.draws : Instruction → Nat
  | .random _ _ => 1
  | _ => 0

namespace Machine

/-- The source after an instruction. -/
theorem source_perform (m : Machine) (i : Instruction) :
    (m.perform i).source = m.source.after i.draws := by
  cases i with
  | loadBlock x =>
    simp only [perform, onward, pastBlock]
    rfl
  | awaitKey x =>
    simp only [perform]
    split <;> rfl
  | _ => rfl

theorem program_perform (m : Machine) (i : Instruction) : (m.perform i).program = m.program := by
  cases i with
  | loadBlock x => simp only [perform, onward, pastBlock]
  | awaitKey x =>
    simp only [perform]
    split <;> rfl
  | _ => rfl

theorem program_powerOn (program : Program) (source : RandomSource) :
    (powerOn program source).program = program := rfl

theorem source_powerOn (program : Program) (source : RandomSource) :
    (powerOn program source).source = source := rfl

theorem program_reset (m : Machine) : m.reset.program = m.program :=
  program_powerOn m.program m.source.restart

theorem source_reset (m : Machine) : m.reset.source = m.source.restart :=
  source_powerOn m.program m.source.restart

/-- A machine has the program of another one, and its bytes have the same origin. -/
structure Descends (m m' : Machine) : Prop where
  /-- The program. -/
  program : m'.program = m.program
  /-- The origin of the random bytes. -/
  origin : m'.source.origin = m.source.origin

namespace Descends

variable {m m₁ m₂ : Machine}

theorem refl (m : Machine) : m.Descends m := ⟨rfl, rfl⟩

theorem trans (h₁ : m.Descends m₁) (h₂ : m₁.Descends m₂) : m.Descends m₂ :=
  ⟨h₂.program.trans h₁.program, h₂.origin.trans h₁.origin⟩

end Descends

theorem descends_perform (m : Machine) (i : Instruction) : m.Descends (m.perform i) where
  program := program_perform m i
  origin := by rw [source_perform, RandomSource.origin_after]

theorem descends_reset (m : Machine) : m.Descends m.reset where
  program := program_reset m
  origin := by rw [source_reset, RandomSource.origin_restart]

/-- Whatever a machine is asked for, it keeps its program and the origin of its bytes. -/
theorem descends_after (m : Machine) (ops : List Operation) : m.Descends (m.after ops) := by
  refine after_induction (Descends.refl m) ?_ ?_ ?_ ?_ ops
  · intro m' keys previous w i h _ _
    obtain ⟨hprogram, horigin⟩ := descends_perform (m'.latch keys previous) i
    exact h.trans ⟨hprogram, horigin⟩
  · intro m' keys previous h
    exact ⟨h.program, h.origin⟩
  · intro m' h
    exact ⟨h.program, h.origin⟩
  · intro m' h
    exact h.trans (descends_reset m')

end Machine

end Chip8
