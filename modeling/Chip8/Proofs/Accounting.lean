import Chip8.Proofs.Bounds
import Chip8.Proofs.Timeline
import Mathlib.Data.List.Induction

/-!
# What the counters tell

A machine counts what it does while it does it, each instruction in its own place. Taken
together the counts still tell the truth about the whole past: which cycles succeeded, how
many bytes moved, and how deep the stack is. What an instruction adds to the counts is said
once, and everything else follows from that.

* `Machine.tally` — what an instruction adds to the counts
* `Machine.counters_perform` — that is all that it does to them
* `Instruction.bytesRead`, `Instruction.bytesWritten` — the bytes of memory that move
* `Stage.succeeded`, `executed`, `bytesMoved` — what the past tells
* `Truthful` — what the counts tell about the past
* `Truthful.stage` — every operation but a reset keeps them truthful
* `Machine.counters_truthful` — so they are after any run
-/

namespace Chip8

/-! ## What is counted -/

/-- Two counts of everything, added up. -/
def Counters.add (c d : Counters) : Counters where
  instructions := c.instructions + d.instructions
  clears := c.clears + d.clears
  draws := c.draws + d.draws
  collisions := c.collisions + d.collisions
  reads := c.reads + d.reads
  writes := c.writes + d.writes
  timerSets := c.timerSets + d.timerSets
  keyWaits := c.keyWaits + d.keyWaits
  jumps := c.jumps + d.jumps
  calls := c.calls + d.calls
  returns := c.returns + d.returns
  randoms := c.randoms + d.randoms
  ticks := c.ticks + d.ticks

/-- The bytes of memory that an instruction reads. -/
def Instruction.bytesRead : Instruction → Nat
  | .draw _ _ n => n.val
  | .loadBlock x => x.val + 1
  | _ => 0

/-- The bytes of memory that an instruction writes. -/
def Instruction.bytesWritten : Instruction → Nat
  | .storeDecimal _ => 3
  | .storeBlock x => x.val + 1
  | _ => 0

namespace Machine

variable {m : Machine} {i : Instruction}

/-- Whether a sprite that a machine is about to draw switches off a lit pixel. -/
def hits (m : Machine) (x y : Register) (n : Nibble) : Bool :=
  m.screen.collides (m.reg x).toNat (m.reg y).toNat (m.bytesAtIndex n.val)

/-- What an instruction adds to the counts. -/
def tally (m : Machine) : Instruction → Counters
  | .cls => { clears := 1 }
  | .ret => { returns := 1 }
  | .jump _ | .jumpOffset _ => { jumps := 1 }
  | .call _ => { calls := 1 }
  | .random _ _ => { randoms := 1 }
  | .setDelay _ | .setSound _ => { timerSets := 1 }
  | .draw x y n => { draws := 1, reads := n.val, collisions := if m.hits x y n then 1 else 0 }
  | .storeDecimal _ => { writes := 3 }
  | .storeBlock x => { writes := x.val + 1 }
  | .loadBlock x => { reads := x.val + 1 }
  | .awaitKey _ =>
    { keyWaits := if (Keypad.firstReleased? m.previousKeys m.keys).isNone then 1 else 0 }
  | _ => {}

/-- **An instruction adds its tally to the counts**, and does nothing else to them. -/
theorem counters_perform (m : Machine) (i : Instruction) :
    (m.perform i).counters = m.counters.add (m.tally i) := by
  cases i with
  | storeBlock x =>
    simp only [perform, onward, pastBlock, overwrite, length_block]
    rfl
  | loadBlock x =>
    simp only [perform, onward, pastBlock]
    rfl
  | draw x y n =>
    simp only [perform, onward, drawn, length_bytesAtIndex]
    rfl
  | awaitKey x =>
    simp only [perform, tally]
    split <;> next hkeys =>
      rw [hkeys]
      rfl
  | _ => rfl

/-! ## Facts about tallies -/

/-- An instruction counts neither instructions nor ticks. Its cycle counts it. -/
theorem tally_instructions (m : Machine) (i : Instruction) :
    (m.tally i).instructions = 0 ∧ (m.tally i).ticks = 0 := by
  cases i <;> exact ⟨rfl, rfl⟩

/-- Only a sprite that is drawn can switch off lit pixels. -/
theorem tally_collisions_le (m : Machine) (i : Instruction) :
    (m.tally i).collisions ≤ (m.tally i).draws := by
  cases i with
  | draw x y n =>
    simp only [tally]
    split <;> omega
  | _ => exact Nat.le_refl _

/-- An instruction does at most one of the things that are counted one by one. -/
theorem tally_events_le (m : Machine) (i : Instruction) :
    (m.tally i).clears + (m.tally i).draws + (m.tally i).timerSets + (m.tally i).keyWaits +
        (m.tally i).jumps + (m.tally i).calls + (m.tally i).returns + (m.tally i).randoms ≤ 1 := by
  cases i with
  | awaitKey x =>
    simp only [tally]
    split <;> omega
  | _ => simp only [tally]; omega

theorem tally_bytes (m : Machine) (i : Instruction) :
    (m.tally i).reads = i.bytesRead ∧ (m.tally i).writes = i.bytesWritten := by
  cases i <;> exact ⟨rfl, rfl⟩

/-- A call is counted when the stack grows, and a return when it shrinks. -/
theorem tally_depth (hrefusal : m.refusal i = none) :
    (m.perform i).stack.length + (m.tally i).returns = m.stack.length + (m.tally i).calls := by
  cases i with
  | call nnn => rfl
  | ret =>
    obtain ⟨caller, hstack, -⟩ := stack_perform_ret hrefusal
    rw [hstack]
    rfl
  | _ =>
    rw [stack_perform (by simp) (by simp)]
    rfl

theorem depth_perform_le (hrefusal : m.refusal i = none) (h : m.stack.length ≤ 12) :
    (m.perform i).stack.length ≤ 12 := by
  rcases stack_perform_cases hrefusal with ⟨nnn, rfl, hstack⟩ | ⟨caller, -, hstack, -⟩ | hstack
  · rw [hstack]
    exact length_lt_of_refusal hrefusal
  · rw [hstack] at h
    exact Nat.le_of_succ_le h
  · rwa [hstack]

end Machine

/-! ## What the past tells -/

/-- Whether an operation is a cycle. -/
def Operation.isCycle : Operation → Bool
  | .cycle _ _ => true
  | _ => false

/-- Whether a stage is a cycle that does not fail. -/
def Stage.succeeded (s : Stage) : Bool := s.operation.isCycle && s.error.isNone

/-- A cycle that does not fail carries an instruction out, and nothing else does. -/
theorem Stage.isSome_executed? (s : Stage) : s.executed?.isSome = s.succeeded := by
  obtain ⟨m, op⟩ := s
  cases op with
  | tick => rfl
  | reset => rfl
  | cycle now before =>
    rcases hop : m.apply (.cycle now before) with ⟨_ | e, m'⟩
    · obtain ⟨keys, previous, w, i, hpending, -, -⟩ := Machine.apply_cycle_eq_none hop
      simp [executed?, succeeded, error, Operation.isCycle, hop, hpending]
    · simp [executed?, succeeded, error, Operation.isCycle, hop]

/-- The instructions that were carried out. -/
def executed (past : List Stage) : List Instruction := past.filterMap Stage.executed?

theorem length_executed (past : List Stage) :
    (executed past).length = past.countP Stage.succeeded := by
  simp only [executed, List.length_filterMap_eq_countP, Stage.isSome_executed?]

/-- The number of bytes that were moved, where each instruction moves so many. -/
def bytesMoved (bytes : Instruction → Nat) (past : List Stage) : Nat :=
  (executed past).foldl (fun total i => total + bytes i) 0

section Past

variable {bytes : Instruction → Nat} {past : List Stage} {s : Stage} {i : Instruction}

theorem bytesMoved_concat_of_executed (h : s.executed? = some i) :
    bytesMoved bytes (past ++ [s]) = bytesMoved bytes past + bytes i := by
  simp [bytesMoved, executed, h]

theorem bytesMoved_concat_of_not_executed (h : s.executed? = none) :
    bytesMoved bytes (past ++ [s]) = bytesMoved bytes past := by
  simp [bytesMoved, executed, h]

end Past

/-- What the counts of a machine tell about its past. -/
structure Truthful (past : List Stage) (m : Machine) : Prop where
  /-- The depth of the stack is the number of calls not yet returned from. -/
  depth : (m.counters.calls : Int) - m.counters.returns = m.stack.length
  /-- There are never more of them than the stack can hold. -/
  capacity : m.stack.length ≤ 12
  /-- The instructions are the cycles that did not fail. -/
  instructions : m.counters.instructions = past.countP Stage.succeeded
  /-- The ticks are those that were asked for. -/
  ticks : m.counters.ticks = past.countP (·.operation = .tick)
  /-- Only a sprite that was drawn can have switched off lit pixels. -/
  collisions : m.counters.collisions ≤ m.counters.draws
  /-- An instruction counts for at most one thing. -/
  events :
    m.counters.clears + m.counters.draws + m.counters.timerSets + m.counters.keyWaits +
        m.counters.jumps + m.counters.calls + m.counters.returns + m.counters.randoms ≤
      m.counters.instructions
  /-- The bytes written are those of the instructions that were carried out. -/
  writes : m.counters.writes = bytesMoved Instruction.bytesWritten past
  /-- And so are the bytes read. -/
  reads : m.counters.reads = bytesMoved Instruction.bytesRead past

namespace Truthful

variable {past : List Stage} {s : Stage} {m m' : Machine} {i : Instruction}

theorem powerOn (program : Program) (source : RandomSource) :
    Truthful [] (.powerOn program source) := by
  constructor <;> simp [Machine.powerOn, bytesMoved, executed]

theorem concat_of_idle (h : Truthful past m) (hs : s.executed? = none)
    (htick : s.operation ≠ .tick) (hstack : m'.stack = m.stack)
    (hcounters : m'.counters = m.counters) : Truthful (past ++ [s]) m' where
  depth := by rw [hcounters, hstack, h.depth]
  capacity := hstack ▸ h.capacity
  instructions := by simp [hcounters, h.instructions, ← s.isSome_executed?, hs]
  ticks := by simp [hcounters, htick, h.ticks]
  collisions := hcounters ▸ h.collisions
  events := hcounters ▸ h.events
  writes := by rw [hcounters, bytesMoved_concat_of_not_executed hs, h.writes]
  reads := by rw [hcounters, bytesMoved_concat_of_not_executed hs, h.reads]

theorem concat_of_tick (h : Truthful past m) (hs : s.executed? = none)
    (htick : s.operation = .tick) : Truthful (past ++ [s]) m.tick where
  depth := h.depth
  capacity := h.capacity
  instructions := by simp [Machine.tick, h.instructions, ← s.isSome_executed?, hs]
  ticks := by simp [Machine.tick, htick, h.ticks]
  collisions := h.collisions
  events := h.events
  writes := by rw [bytesMoved_concat_of_not_executed hs, ← h.writes]; rfl
  reads := by rw [bytesMoved_concat_of_not_executed hs, ← h.reads]; rfl

/-- An instruction that is carried out is counted with all that it does. -/
theorem concat_of_executed (h : Truthful past m) (hs : s.executed? = some i)
    (hcycle : s.operation ≠ .tick) (hrefusal : m.refusal i = none) :
    Truthful (past ++ [s]) (m.perform i).counted := by
  obtain ⟨hinstructions, hticks⟩ := m.tally_instructions i
  obtain ⟨hreads, hwrites⟩ := m.tally_bytes i
  have hdepth := Machine.tally_depth hrefusal
  have hcollisions := m.tally_collisions_le i
  have hevents := m.tally_events_le i
  constructor
  case capacity => exact Machine.depth_perform_le hrefusal h.capacity
  all_goals simp only [Machine.counted, Machine.counters_perform, Counters.add]
  case depth =>
    have := h.depth
    omega
  case instructions =>
    simp [h.instructions, hinstructions, ← s.isSome_executed?, hs]
  case ticks =>
    simp [hcycle, h.ticks, hticks]
  case collisions =>
    have := h.collisions
    omega
  case events =>
    have := h.events
    omega
  case writes =>
    rw [bytesMoved_concat_of_executed hs, h.writes, hwrites]
  case reads =>
    rw [bytesMoved_concat_of_executed hs, h.reads, hreads]

/-- **The counts stay truthful** whatever a machine is asked for, up to a reset. -/
theorem stage (h : Truthful past s.machine) (hs : s.operation ≠ .reset) :
    Truthful (past ++ [s]) s.after := by
  have houtcome := s.outcome
  generalize hi : s.executed? = i?, ho : s.operation = op, s.after = m' at houtcome hs ⊢
  cases houtcome with
  | @executed _ _ keys previous w i hpending hrefusal =>
    rw [← Machine.refusal_latch _ keys previous] at hrefusal
    -- the keys that a machine is shown are neither counted nor stacked
    have hlatched : Truthful past (s.machine.latch keys previous) := { h with }
    exact hlatched.concat_of_executed hi (by simp [ho]) hrefusal
  | failed => exact h.concat_of_idle hi (by simp [ho]) rfl rfl
  | ticked => exact h.concat_of_tick hi ho
  | restarted => contradiction

end Truthful

namespace Machine

/-- **The counters tell the truth.** Since a machine was switched on, and up to a reset, it has
made as many calls more than returns as its stack is deep; its instructions are the cycles that
did not fail, and its ticks are those that were asked for; the sprites that switched off lit
pixels are among those drawn; no instruction counts for more than one thing; and the bytes
that it read and wrote are those of the instructions that it carried out. -/
theorem counters_truthful (program : Program) (source : RandomSource) {ops : List Operation}
    (hreset : .reset ∉ ops) :
    Truthful ((powerOn program source).stages ops) ((powerOn program source).after ops) := by
  induction ops using List.reverseRecOn with
  | nil => exact .powerOn program source
  | append_singleton ops op ih =>
    rw [List.mem_append, List.mem_singleton, not_or] at hreset
    rw [after_concat, stages_concat]
    exact (ih hreset.1).stage (Ne.symm hreset.2)

/-- A call and a store of two registers, with a cycle in between that fails for want of keys. -/
theorem counters_truthful_call_and_store :
    let program : Program := ⟨#[0x22, 0x02, 0xF1, 0x55], by decide⟩
    let m := powerOn program (.ofStream fun _ => 0)
    let cycle : Operation := .cycle (.replicate 16 false) (.replicate 16 false)
    let ops : List Operation := [cycle, .cycle [] [], .tick, cycle]
    let m' := m.after ops
    .reset ∉ ops ∧ Truthful (m.stages ops) m' ∧ m'.counters.instructions = 2 ∧
      m'.counters.ticks = 1 ∧ m'.counters.writes = 2 ∧ m'.counters.reads = 0 := by
  intro program m cycle ops m'
  let m₁ := ((m.latch .released .released).perform (.call 0x202)).counted
  let m₃ := ((m₁.tick.latch .released .released).perform (.storeBlock 1)).counted
  have hup : Keypad.ofList? (.replicate 16 false) = some .released := by decide
  have hmemory : m.memory = .load program := by rfl
  have hpending : m.pending = .ok (⟨0x2, 0x2, 0x0, 0x2⟩, .call 0x202) :=
    pending_of_load (k := 0) hmemory rfl (by decide) (by decide) rfl
  have hpending₁ : m₁.tick.pending = .ok (⟨0xF, 0x1, 0x5, 0x5⟩, .storeBlock 1) :=
    pending_of_load (k := 2) (m := m₁.tick) hmemory rfl (by decide) (by decide) rfl
  have hstep : m.apply cycle = (none, m₁) := apply_cycle hup hup hpending (by decide)
  have hfail : m₁.apply (.cycle [] []) = (some (.keyCount ⟨"current_keys", 0⟩), m₁) := by
    rw [apply, m₁.cycleFrom_of_current (by decide)]
    rfl
  have hstep₁ : m₁.tick.apply cycle = (none, m₃) := apply_cycle hup hup hpending₁ (by decide)
  have hreset : .reset ∉ ops := by decide
  have htruthful : Truthful (m.stages ops) m' := counters_truthful program _ hreset
  have hstages : m.stages ops =
      [⟨m, cycle⟩, ⟨m₁, .cycle [] []⟩, ⟨m₁, .tick⟩, ⟨m₁.tick, cycle⟩] := by
    simp only [ops, stages, hstep, hfail, apply_tick]
  have hcall : (Stage.mk m cycle).executed? = some (.call 0x202) :=
    Stage.executed?_of_apply hpending hstep
  have hfailed : (Stage.mk m₁ (.cycle [] [])).executed? = none := by
    simp only [Stage.executed?, Stage.error, hfail]
  have htick : (Stage.mk m₁ .tick).executed? = none := rfl
  have hstore : (Stage.mk m₁.tick cycle).executed? = some (.storeBlock 1) :=
    Stage.executed?_of_apply hpending₁ hstep₁
  -- the counts are told by the stages, and the machine is not evaluated
  clear_value m m'
  have hexecuted : executed (m.stages ops) = [.call 0x202, .storeBlock 1] := by
    rw [hstages, executed, List.filterMap_cons_some hcall, List.filterMap_cons_none hfailed,
      List.filterMap_cons_none htick, List.filterMap_cons_some hstore, List.filterMap_nil]
  have hsucceeded : (m.stages ops).countP Stage.succeeded = 2 := by
    rw [← length_executed, hexecuted]
    rfl
  have hticks : (m.stages ops).countP (·.operation = .tick) = 1 := by
    rw [hstages]
    rfl
  refine ⟨hreset, htruthful, htruthful.instructions.trans hsucceeded,
    htruthful.ticks.trans hticks, ?_, ?_⟩
  · rw [htruthful.writes, bytesMoved, hexecuted]
    rfl
  · rw [htruthful.reads, bytesMoved, hexecuted]
    rfl

end Machine

end Chip8
