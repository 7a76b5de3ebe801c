import Chip8.Proofs.ControlFlow
import Chip8.Proofs.Timeline

/-!
# Loops

A machine that runs along the lines of a listing gets farther into its program with every cycle,
unless the cycle turns back: by a jump that the listing shows as a loop, by a call, a return or a
jump by a register, or by a wait for a key that was not let go. So whatever a program does over
and over, it turns back in between.

* `Stage.Follows`, `Machine.RunsAlong` — operations and runs along the lines of a listing
* `Flow.TurnsBack` — the cycles that need not get farther
* `Machine.AtLine.turnsBack_or_lt` — every other cycle gets farther
* `Machine.RunsAlong.pc_le_after` — and so does a run without one
* `Flow.loops_complete` — a run that gets back to an address has turned back
-/

namespace Chip8

/-! ## Runs along a listing -/

/-- Operations of a machine that runs along the lines of a program: the timers tick, or a cycle
succeeds at a line of two bytes that the store still holds. -/
inductive Stage.Follows (program : Program) : Stage → Prop where
  /-- The timers tick. -/
  | tick {m : Machine} : Follows program ⟨m, .tick⟩
  /-- A cycle succeeds at a line. -/
  | cycle {m m' : Machine} {line : Line} {now before : List Bool} (atLine : m.AtLine program line)
      (succeeds : m.apply (.cycle now before) = (none, m')) :
      Follows program ⟨m, .cycle now before⟩

/-- A machine runs along the lines of a program with every operation of a sequence. -/
def Machine.RunsAlong (m : Machine) (program : Program) (ops : List Operation) : Prop :=
  ∀ s ∈ m.stages ops, s.Follows program

/-- The cycles that need not get farther into a program: a jump that its flow shows as a loop,
a call, a return, a jump by a register, and a wait for a key while none is let go. -/
inductive Flow.TurnsBack (flow : Flow) (s : Stage) : Prop where
  /-- A jump is taken, and the flow shows it as a loop. -/
  | loop {nnn : Address} (executed : s.executed? = some (.jump nnn))
      (listed : (s.machine.pc, s.after.pc) ∈ flow.loops)
  /-- A subroutine is called. -/
  | call {nnn : Address} (executed : s.executed? = some (.call nnn))
  /-- A subroutine returns. -/
  | ret (executed : s.executed? = some .ret)
  /-- A jump depends on a register. -/
  | offset {nnn : Address} (executed : s.executed? = some (.jumpOffset nnn))
  /-- No key of those that the machine was shown went up. -/
  | wait {x : Register} (executed : s.executed? = some (.awaitKey x))
      (held : Keypad.firstReleased? s.after.previousKeys s.after.keys = none)

/-- Where the next instruction follows or may be skipped, the program counter grows. -/
theorem Flow.Takes.lt {flow : Flow} {m : Machine} {next : Int} {kind : Transfer}
    (h : flow.Takes m next kind) (hkind : kind = .onward ∨ kind = .skip) : m.pc < next := by
  obtain ⟨-, hnext⟩ := h
  rcases hkind with rfl | rfl
  · have honward : next = m.pc + 2 := hnext
    omega
  · obtain ⟨-, hskip⟩ : _ ∧ (next = m.pc + 2 ∨ next = m.pc + 4) := hnext
    omega

namespace Machine

variable {m m' : Machine} {program : Program} {line : Line} {flow : Flow}
variable {ops ops' : List Operation}

/-! ## One cycle -/

theorem AtLine.mem_loops (h : m.AtLine program line)
    (hflow : Flow.ofLines (Listing.ofProgram program) = .ok flow) {nnn : Address}
    (hdecode : Instruction.decode? m.word = some (.jump nnn)) (hback : (nnn.val : Int) ≤ m.pc) :
    (m.pc, (nnn.val : Int)) ∈ flow.loops := by
  refine h.mem_flow Flow.isPart_loops hflow hdecode ?_
  rw [Flow.ofInstruction, if_pos hback]
  exact List.mem_singleton_self _

/-- A wait for a key gets farther unless no key went up. -/
theorem held_or_lt_perform_awaitKey (m : Machine) (x : Register) :
    Keypad.firstReleased? (m.perform (.awaitKey x)).previousKeys (m.perform (.awaitKey x)).keys =
      none ∨ m.pc < (m.perform (.awaitKey x)).pc := by
  rw [perform]
  split
  · exact .inr (Int.lt_add_of_pos_right _ (by decide))
  · exact .inl ‹_›

/-- A cycle that succeeds at a line turns back or gets farther. -/
theorem AtLine.turnsBack_or_lt (h : m.AtLine program line)
    (hflow : Flow.ofLines (Listing.ofProgram program) = .ok flow) {now before : List Bool}
    (happly : m.apply (.cycle now before) = (none, m')) :
    flow.TurnsBack ⟨m, .cycle now before⟩ ∨ m.pc < m'.pc := by
  have hafter : (Stage.mk m (.cycle now before)).after = m' := congrArg Prod.snd happly
  obtain ⟨keys, previous, i, hpending, hdecode, hrefusal, rfl⟩ := exists_perform_of_apply happly
  have hexecuted := Stage.executed?_of_apply hpending happly
  have htakes := (h.latch keys previous).takes_perform hflow hdecode hrefusal
  cases i with
  | jump nnn =>
    rcases Int.lt_or_le m.pc nnn.val with hforward | hback
    · exact .inr hforward
    · exact .inl (.loop hexecuted (hafter ▸ h.mem_loops hflow hdecode hback))
  | call nnn => exact .inl (.call hexecuted)
  | ret => exact .inl (.ret hexecuted)
  | jumpOffset nnn => exact .inl (.offset hexecuted)
  | awaitKey x =>
    rcases (m.latch keys previous).held_or_lt_perform_awaitKey x with hheld | hlt
    · exact .inl (.wait hexecuted (hafter ▸ hheld))
    · exact .inr hlt
  | skipIfByte x nn | skipUnlessByte x nn | skipIfEqual x y | skipUnlessEqual x y
  | skipIfDown x | skipUnlessDown x => exact .inr (htakes.lt (.inr rfl))
  | _ => exact .inr (htakes.lt (.inl rfl))

theorem pc_lt_of_follows {s : Stage} (h : s.Follows program)
    (hflow : Flow.ofLines (Listing.ofProgram program) = .ok flow) (hop : s.operation ≠ .tick)
    (hforward : ¬flow.TurnsBack s) : s.machine.pc < s.after.pc := by
  cases h with
  | tick => exact absurd rfl hop
  | cycle hline happly =>
    rw [Stage.after, happly]
    exact (hline.turnsBack_or_lt hflow happly).resolve_left hforward

/-! ## Runs -/

theorem runsAlong_append :
    m.RunsAlong program (ops ++ ops') ↔
      m.RunsAlong program ops ∧ (m.after ops).RunsAlong program ops' := by
  rw [RunsAlong, stages_append]
  exact List.forall_mem_append

/-- A run that never turns back gets farther with every cycle, and ticks leave it where it is. -/
theorem RunsAlong.pc_le_after (h : m.RunsAlong program ops)
    (hflow : Flow.ofLines (Listing.ofProgram program) = .ok flow)
    (hforward : ∀ s ∈ m.stages ops, ¬flow.TurnsBack s) :
    m.pc ≤ (m.after ops).pc ∧ ((∃ op ∈ ops, op ≠ .tick) → m.pc < (m.after ops).pc) := by
  induction ops generalizing m with
  | nil => exact ⟨Int.le_refl _, fun ⟨_, hmem, _⟩ => absurd hmem List.not_mem_nil⟩
  | cons op ops ih =>
    obtain ⟨hfollows, hrest⟩ := List.forall_mem_cons.1 h
    obtain ⟨hop, hops⟩ := List.forall_mem_cons.1 hforward
    obtain ⟨hle, hlt⟩ := ih hrest hops
    rw [after_cons]
    by_cases htick : op = .tick
    · -- the rest of the run has all the cycles
      subst htick
      exact ⟨hle, fun ⟨op, hmem, hne⟩ =>
        hlt ⟨op, (List.mem_cons.1 hmem).resolve_left hne, hne⟩⟩
    · have hcycle : m.pc < (m.apply op).2.pc := pc_lt_of_follows hfollows hflow htick hop
      exact ⟨by omega, fun _ => by omega⟩

end Machine

/-! ## Completeness -/

/-- **The loops of a listing are complete.** On a run along the lines of a program, a cycle that
does not turn back gets farther. And if the run is at the same address before and after some of
its operations, with a cycle among them, one of these has turned back: it took a jump that the
flow shows as a loop, called, returned, jumped by a register, or waited for a key in vain. -/
theorem Flow.loops_complete {program : Program} {m : Machine} {ops : List Operation}
    (hruns : m.RunsAlong program ops) :
    ∃ flow, Flow.ofLines (Listing.ofProgram program) = .ok flow ∧
      (∀ s ∈ m.stages ops, s.operation ≠ .tick → ¬flow.TurnsBack s →
        s.machine.pc < s.after.pc) ∧
      ∀ first loop last, ops = first ++ loop ++ last → (∃ op ∈ loop, op ≠ .tick) →
        (m.after first).pc = (m.after (first ++ loop)).pc →
          ∃ s ∈ (m.after first).stages loop, flow.TurnsBack s := by
  obtain ⟨flow, hflow⟩ := Flow.exists_ofLines_ofBytes program.bytes.toList programStart
  refine ⟨flow, hflow, fun s hs => Machine.pc_lt_of_follows (hruns s hs) hflow, ?_⟩
  rintro first loop last rfl hcycle hsame
  obtain ⟨hbefore, -⟩ := Machine.runsAlong_append.1 hruns
  obtain ⟨-, hloop⟩ := Machine.runsAlong_append.1 hbefore
  by_cases hback : ∃ s ∈ (m.after first).stages loop, flow.TurnsBack s
  · exact hback
  · have hforward : ∀ s ∈ (m.after first).stages loop, ¬flow.TurnsBack s :=
      fun s hs hturns => hback ⟨s, hs, hturns⟩
    have hlt := (hloop.pc_le_after hflow hforward).2 hcycle
    rw [← Machine.after_append, ← hsame] at hlt
    exact absurd hlt (Int.lt_irrefl _)

/-- A program that counts without end: after its addition and its jump, and a tick in between,
the machine is where it was, and it has turned back. -/
theorem Flow.loops_complete_counting :
    let program : Program := ⟨#[0x70, 0x01, 0x12, 0x00], by decide⟩
    let m := Machine.powerOn program (.ofStream fun _ => 0)
    let cycle : Operation := .cycle (.replicate 16 false) (.replicate 16 false)
    let ops : List Operation := [cycle, .tick, cycle]
    m.RunsAlong program ops ∧ (m.after ops).pc = m.pc ∧
      ∃ flow, Flow.ofLines (Listing.ofProgram program) = .ok flow ∧
        ∃ s ∈ m.stages ops, flow.TurnsBack s := by
  intro program m cycle ops
  let m₁ := ((m.latch .released .released).perform (.addByte 0x0 1)).counted
  let m₂ := ((m₁.tick.latch .released .released).perform (.jump 0x200)).counted
  have hup : Keypad.ofList? (.replicate 16 false) = some .released := by decide
  have hmemory : m.memory = .load program := by rfl
  have hlisting : Listing.ofProgram program =
      [.ofWord 512 ⟨0x7, 0x0, 0x0, 0x1⟩, .ofWord 514 ⟨0x1, 0x2, 0x0, 0x0⟩] := by decide
  have hline : m.AtLine program (.ofWord 512 ⟨0x7, 0x0, 0x0, 0x1⟩) :=
    Machine.atLine_of_load hmemory (hlisting ▸ List.mem_cons_self)
      (Line.not_isByte_ofWord _ _) rfl
  have hline₁ : m₁.tick.AtLine program (.ofWord 514 ⟨0x1, 0x2, 0x0, 0x0⟩) :=
    Machine.atLine_of_load hmemory
      (hlisting ▸ List.mem_cons_of_mem _ List.mem_cons_self) (Line.not_isByte_ofWord _ _) rfl
  have hpending : m.pending = .ok (⟨0x7, 0x0, 0x0, 0x1⟩, .addByte 0x0 1) :=
    Machine.pending_of_load (k := 0) hmemory rfl (by decide) (by decide) rfl
  have hpending₁ : m₁.tick.pending = .ok (⟨0x1, 0x2, 0x0, 0x0⟩, .jump 0x200) :=
    Machine.pending_of_load (k := 2) (m := m₁.tick) hmemory rfl (by decide) (by decide) rfl
  have hstep : m.apply cycle = (none, m₁) := Machine.apply_cycle hup hup hpending rfl
  have hstep₁ : m₁.tick.apply cycle = (none, m₂) := Machine.apply_cycle hup hup hpending₁ rfl
  have hstages : m.stages ops = [⟨m, cycle⟩, ⟨m₁, .tick⟩, ⟨m₁.tick, cycle⟩] := by
    simp only [ops, Machine.stages, hstep, Machine.apply_tick]
  have hruns : m.RunsAlong program ops := by
    rw [Machine.RunsAlong, hstages]
    simp only [List.forall_mem_cons]
    exact ⟨.cycle hline hstep, .tick, .cycle hline₁ hstep₁, List.forall_mem_nil _⟩
  have hlast : m.after ops = m₂ := by
    change m.after [cycle, .tick, cycle] = m₂
    rw [Machine.after_cons, hstep, Machine.after_cons, Machine.apply_tick, Machine.after_cons,
      hstep₁, Machine.after_nil]
  have hsame : (m.after ops).pc = m.pc := (congrArg Machine.pc hlast).trans rfl
  obtain ⟨flow, hflow, -, hturns⟩ := Flow.loops_complete hruns
  obtain ⟨s, hs, hback⟩ := hturns [] ops [] (List.append_nil _).symm
    ⟨cycle, List.mem_cons_self, by decide⟩ hsame.symm
  exact ⟨hruns, hsame, flow, hflow, s, hs, hback⟩

end Chip8
