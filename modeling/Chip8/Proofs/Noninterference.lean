import Chip8.Proofs.Bounds
import Chip8.Proofs.Command
import Chip8.Proofs.Impasse
import Chip8.Proofs.Randomness

/-!
# Noninterference of time and input

When the timers tick and which keys are down is decided outside of the machine, and it
differs from run to run. A program can find out about it by four instructions only:
`FX07` looks at the delay timer, and `EX9E`, `EXA1` and `FX0A` look at the keys. Until one
of them is carried out, two runs of a program that draw the same random bytes go the same
way, cycle by cycle, however their drivers differ.

* `Instruction.senses` — the four instructions
* `Driver`, `Driver.cycles` — who drives a machine, and the cycles that he makes
* `Machine.Agree` — two machines that differ in their timers and in the count of ticks
* `Machine.timeless_perform` — other instructions do not look at what time and input change
* `Machine.Alike`, `Machine.Alike.cycle` — what two runs keep, cycle by cycle
* `Driver.noninterference` — two drivers of the same program
-/

namespace Chip8

/-- Whether an instruction looks at the delay timer or at the keys. -/
def Instruction.senses : Instruction → Bool
  | .getDelay _ | .awaitKey _ | .skipIfDown _ | .skipUnlessDown _ => true
  | _ => false

/-- Whether a cycle carries out none of the instructions that look at the delay timer or at
the keys. -/
def CycleRecord.Blind (r : CycleRecord) : Prop :=
  ∀ w i, r.machine.pending = .ok (w, i) → i.senses = false

/-! ## Drivers -/

/-- Someone who drives a machine that was just switched on. -/
inductive Driver where
  /-- He asks the machine itself for cycles and ticks. -/
  | direct (ops : List Operation)
  /-- He gives commands to a session of the machine. -/
  | session (settings : Settings) (traced : Bool) (commands : List Session.Command)

namespace Driver

/-- Whether the driver shows the machine all keys in each cycle, and never resets it. -/
def Steady : Driver → Prop
  | direct ops => ∀ op ∈ ops, op.Drives
  | session _ _ commands => .reset ∉ commands

/-- What the driver asks of a machine. -/
def operations (m : Machine) : Driver → List Operation
  | direct ops => ops
  | session settings traced commands =>
    Session.operations ((Session.ofMachine settings m traced).history commands)

/-- The cycles that the driver makes with a program and a source of random bytes. -/
def cycles (d : Driver) (program : Program) (source : RandomSource) : List CycleRecord :=
  (Machine.powerOn program source).cycles (d.operations (.powerOn program source))

end Driver

namespace Machine

/-! ## What time and input leave alone -/

/-- Two machines agree in everything but their timers and the number of ticks. Their sources
have given out the same number of bytes. -/
structure Agree (source₁ source₂ : RandomSource) (m₁ m₂ : Machine) : Prop where
  /-- The store. -/
  memory : m₁.memory = m₂.memory
  /-- The registers `V0` to `VF`. -/
  registers : m₁.v = m₂.v
  /-- The index register. -/
  index : m₁.index = m₂.index
  /-- The program counter. -/
  pc : m₁.pc = m₂.pc
  /-- The return addresses. -/
  stack : m₁.stack = m₂.stack
  /-- Every pixel. -/
  screen : m₁.screen = m₂.screen
  /-- Where the sources stand. -/
  position : ∃ n, m₁.source = source₁.after n ∧ m₂.source = source₂.after n
  /-- Every count but that of the ticks. -/
  counters : { m₁.counters with ticks := 0 } = { m₂.counters with ticks := 0 }

/-- The machine without what time and input change, and without its source. -/
def timeless (m : Machine) : Machine :=
  { m with
    delay := 0, sound := 0, keys := .released, previousKeys := .released
    source := .ofStream fun _ => 0
    counters.ticks := 0 }

variable {m m₁ m₂ : Machine} {i : Instruction}

@[simp] theorem timeless_tick (m : Machine) : m.tick.timeless = m.timeless := rfl

@[simp] theorem timeless_ticks (m : Machine) (n : Nat) : (m.ticks n).timeless = m.timeless := by
  induction n generalizing m with
  | zero => rfl
  | succ n ih => rw [Machine.ticks, ih, timeless_tick]

theorem source_ticks (m : Machine) (n : Nat) : (m.ticks n).source = m.source := by
  induction n generalizing m with
  | zero => rfl
  | succ n ih => rw [Machine.ticks, ih, tick]

theorem Bounded.ticks (h : m.Bounded) (n : Nat) : (m.ticks n).Bounded := by
  induction n generalizing m with
  | zero => exact h
  | succ n ih => exact ih h.tick

theorem timeless_counted (m : Machine) : m.counted.timeless = m.timeless.counted := rfl

/-- An instruction that looks at neither the delay timer nor the keys does not depend on them,
and of the source it sees the next byte only. -/
theorem timeless_perform (hi : i.senses = false) :
    (m.perform i).timeless =
      ({ m.timeless with source := .ofStream fun _ => m.source.draw.1 }.perform i).timeless := by
  cases i with
  | skipIfDown x | skipUnlessDown x | getDelay x | awaitKey x => cases hi
  | loadBlock x =>
    simp only [perform, onward, pastBlock, timeless]
    rfl
  | _ => rfl

/-- With a delay timer that is a byte, no fault depends on it. -/
theorem impasse_timeless (hdelay : 0 ≤ m.delay ∧ m.delay ≤ 255) :
    m.timeless.impasse = m.impasse := by
  have hpending : m.timeless.pending = m.pending := rfl
  rw [impasse, impasse, hpending]
  rcases m.pending with fault | ⟨w, i⟩
  · rfl
  · cases i with
    | getDelay x =>
      simp only [refusal]
      rw [if_pos hdelay, if_pos (by simp [timeless])]
    | _ => rfl

/-! ## Two runs -/

/-- What two runs have in common. Their machines differ only in what time and input change,
their sources stand at the same place, and neither has been tampered with. -/
structure Alike (source₁ source₂ : RandomSource) (m₁ m₂ : Machine) : Prop where
  /-- The machines without what time and input change. -/
  timeless : m₁.timeless = m₂.timeless
  /-- Where the sources stand. -/
  position : ∃ n, m₁.source = source₁.after n ∧ m₂.source = source₂.after n
  /-- The first machine is within its bounds. -/
  left : m₁.Bounded
  /-- The second machine is within its bounds. -/
  right : m₂.Bounded

variable {source₁ source₂ : RandomSource}

theorem alike_powerOn (program : Program) (source₁ source₂ : RandomSource) :
    Alike source₁ source₂ (powerOn program source₁) (powerOn program source₂) where
  timeless := rfl
  position := ⟨0, rfl, rfl⟩
  left := bounded_powerOn program source₁
  right := bounded_powerOn program source₂

namespace Alike

theorem view (h : Alike source₁ source₂ m₁ m₂) {α : Type} (f : Machine → α) :
    f m₁.timeless = f m₂.timeless :=
  congrArg f h.timeless

theorem agree (h : Alike source₁ source₂ m₁ m₂) : Agree source₁ source₂ m₁ m₂ where
  memory := h.view Machine.memory
  registers := h.view Machine.v
  index := h.view Machine.index
  pc := h.view Machine.pc
  stack := h.view Machine.stack
  screen := h.view Machine.screen
  position := h.position
  counters := h.view Machine.counters

theorem pending (h : Alike source₁ source₂ m₁ m₂) : m₁.pending = m₂.pending :=
  h.view Machine.pending

theorem fetch (h : Alike source₁ source₂ m₁ m₂) : m₁.fetch = m₂.fetch :=
  h.view Machine.fetch

theorem impasse (h : Alike source₁ source₂ m₁ m₂) : m₁.impasse = m₂.impasse := by
  rw [← impasse_timeless h.left.delay, ← impasse_timeless h.right.delay, h.timeless]

theorem ticks (h : Alike source₁ source₂ m₁ m₂) (n₁ n₂ : Nat) :
    Alike source₁ source₂ (m₁.ticks n₁) (m₂.ticks n₂) where
  timeless := by rw [timeless_ticks, timeless_ticks, h.timeless]
  position := by
    rw [source_ticks, source_ticks]
    exact h.position
  left := h.left.ticks n₁
  right := h.right.ticks n₂

/-- An instruction that looks at neither the delay timer nor the keys keeps two machines alike,
as long as their sources give out the same bytes. -/
theorem perform (hsources : ∀ n, source₁.byteAfter n = source₂.byteAfter n)
    (h : Alike source₁ source₂ m₁ m₂) (hi : i.senses = false) {w : Word}
    (hpending : m₁.pending = .ok (w, i)) (hrefusal₁ : m₁.refusal i = none)
    (hrefusal₂ : m₂.refusal i = none) :
    Alike source₁ source₂ (m₁.perform i).counted (m₂.perform i).counted := by
  obtain ⟨n, hsource₁, hsource₂⟩ := h.position
  have hbyte : m₁.source.draw.1 = m₂.source.draw.1 := by
    rw [hsource₁, hsource₂]
    exact hsources n
  have htimeless : (m₁.perform i).timeless = (m₂.perform i).timeless := by
    rw [timeless_perform (m := m₁) hi, timeless_perform (m := m₂) hi, h.timeless, hbyte]
  refine ⟨?_, ⟨n + i.draws, ?_, ?_⟩, ?_, ?_⟩
  · rw [timeless_counted, timeless_counted, htimeless]
  · exact (source_perform m₁ i).trans (by rw [hsource₁, RandomSource.after_after])
  · exact (source_perform m₂ i).trans (by rw [hsource₂, RandomSource.after_after])
  · exact (h.left.perform hpending hrefusal₁).counted
  · exact (h.right.perform (h.pending ▸ hpending) hrefusal₂).counted

theorem latch (h : Alike source₁ source₂ m₁ m₂) (now₁ before₁ now₂ before₂ : Keypad) :
    Alike source₁ source₂ (m₁.latch now₁ before₁) (m₂.latch now₂ before₂) where
  timeless := h.timeless
  position := h.position
  left := h.left.latch now₁ before₁
  right := h.right.latch now₂ before₂

end Alike

/-! ## Cycle by cycle -/

variable {r₁ r₂ : CycleRecord}

theorem Alike.error (h : Alike source₁ source₂ r₁.machine r₂.machine) (hr₁ : r₁.ShowsAll)
    (hr₂ : r₂.ShowsAll) : r₁.error = r₂.error := by
  rw [error_eq_impasse hr₁, error_eq_impasse hr₂, h.impasse]

/-- A cycle that neither fails nor looks at time or input keeps two machines alike. -/
theorem Alike.cycle (hsources : ∀ n, source₁.byteAfter n = source₂.byteAfter n)
    (h : Alike source₁ source₂ r₁.machine r₂.machine) (hr₁ : r₁.ShowsAll) (hr₂ : r₂.ShowsAll)
    (hok : r₁.error = none) (hblind : r₁.Blind) :
    Alike source₁ source₂ r₁.after r₂.after := by
  obtain ⟨keys₁, previous₁, w, i, hpending₁, hrefusal₁, hafter₁⟩ :=
    after_of_error_eq_none hr₁ hok
  obtain ⟨keys₂, previous₂, w₂, i₂, hpending₂, hrefusal₂, hafter₂⟩ :=
    after_of_error_eq_none hr₂ ((h.error hr₁ hr₂).symm.trans hok)
  cases hpending₁.symm.trans (h.pending.trans hpending₂)
  rw [hafter₁, hafter₂]
  exact (h.latch keys₁ previous₁ keys₂ previous₂).perform hsources (hblind w i hpending₁)
    hpending₁ ((refusal_latch _ _ _ i).trans hrefusal₁) ((refusal_latch _ _ _ i).trans hrefusal₂)

/-- The first cycle of a sequence is made after some ticks, and the others after it. -/
theorem cycles_eq_cons {ops : List Operation} (hops : ∀ op ∈ ops, op.Drives) {r : CycleRecord}
    {rs : List CycleRecord} (h : m.cycles ops = r :: rs) :
    (∃ n, r.machine = m.ticks n) ∧ r.ShowsAll ∧
      ∃ ops', (∀ op ∈ ops', op.Drives) ∧ rs = r.after.cycles ops' := by
  induction ops generalizing m with
  | nil => cases h
  | cons op ops ih =>
    obtain ⟨hop, hrest⟩ := List.forall_mem_cons.1 hops
    cases op with
    | reset => exact hop.elim
    | tick =>
      obtain ⟨⟨n, hn⟩, hr⟩ := ih hrest h
      exact ⟨⟨n + 1, hn⟩, hr⟩
    | cycle now before =>
      cases h
      exact ⟨⟨0, rfl⟩, hop, ops, hrest, rfl⟩

/-- Before each cycle the machines of two runs are alike, as long as no earlier cycle of the
first run failed or looked at time or input. -/
theorem alike_before (hsources : ∀ n, source₁.byteAfter n = source₂.byteAfter n) (k : Nat)
    {ops₁ ops₂ : List Operation} (h : Alike source₁ source₂ m₁ m₂)
    (hops₁ : ∀ op ∈ ops₁, op.Drives) (hops₂ : ∀ op ∈ ops₂, op.Drives)
    (hblind : ∀ r ∈ (m₁.cycles ops₁).take k, r.error = none ∧ r.Blind)
    (hr₁ : (m₁.cycles ops₁)[k]? = some r₁) (hr₂ : (m₂.cycles ops₂)[k]? = some r₂) :
    Alike source₁ source₂ r₁.machine r₂.machine ∧ r₁.ShowsAll ∧ r₂.ShowsAll := by
  induction k generalizing m₁ m₂ ops₁ ops₂ with
  | zero =>
    obtain ⟨rs₁, hcycles₁⟩ := List.head?_eq_some_iff.1 (List.head?_eq_getElem?.trans hr₁)
    obtain ⟨rs₂, hcycles₂⟩ := List.head?_eq_some_iff.1 (List.head?_eq_getElem?.trans hr₂)
    obtain ⟨⟨n₁, hn₁⟩, hall₁, -⟩ := cycles_eq_cons hops₁ hcycles₁
    obtain ⟨⟨n₂, hn₂⟩, hall₂, -⟩ := cycles_eq_cons hops₂ hcycles₂
    rw [hn₁, hn₂]
    exact ⟨h.ticks n₁ n₂, hall₁, hall₂⟩
  | succ k ih =>
    cases hcycles₁ : m₁.cycles ops₁ with
    | nil => simp [hcycles₁] at hr₁
    | cons first₁ rs₁ =>
      cases hcycles₂ : m₂.cycles ops₂ with
      | nil => simp [hcycles₂] at hr₂
      | cons first₂ rs₂ =>
        obtain ⟨⟨n₁, hn₁⟩, hall₁, ops₁', hops₁', rfl⟩ := cycles_eq_cons hops₁ hcycles₁
        obtain ⟨⟨n₂, hn₂⟩, hall₂, ops₂', hops₂', rfl⟩ := cycles_eq_cons hops₂ hcycles₂
        rw [hcycles₁, List.take_succ_cons, List.forall_mem_cons] at hblind
        rw [hcycles₁, List.getElem?_cons_succ] at hr₁
        rw [hcycles₂, List.getElem?_cons_succ] at hr₂
        have hfirst : Alike source₁ source₂ first₁.machine first₂.machine := by
          rw [hn₁, hn₂]
          exact h.ticks n₁ n₂
        exact ih (hfirst.cycle hsources hall₁ hall₂ hblind.1.1 hblind.1.2) hops₁' hops₂'
          hblind.2 hr₁ hr₂

end Machine

/-! ## Two drivers -/

namespace Driver

/-- What a steady driver asks for drives the machine on. -/
theorem Steady.operations {d : Driver} (h : d.Steady) (m : Machine) :
    ∀ op ∈ d.operations m, op.Drives := by
  cases d with
  | direct ops => exact h
  | session settings traced commands => exact Session.drives_history h

/-- **Noninterference.** Two drivers run the same program, and their sources give out the same
bytes. If the first `N` cycles of the first driver succeed without looking at the delay
timer or at the keys, then the second driver's first `N` cycles succeed as well, if he makes
so many. They carry out the same words at the same addresses, and after each of them the two
machines agree. If the next cycle of the first driver fails, the second driver's next cycle
fails with the same error. -/
theorem noninterference (program : Program) {source₁ source₂ : RandomSource}
    (hsources : ∀ n, source₁.byteAfter n = source₂.byteAfter n) {d₁ d₂ : Driver}
    (h₁ : d₁.Steady) (h₂ : d₂.Steady) {N : Nat} (hN : N ≤ (d₁.cycles program source₁).length)
    (hblind : ∀ r ∈ (d₁.cycles program source₁).take N, r.error = none ∧ r.Blind) :
    (∀ k < N, ∀ r₂, (d₂.cycles program source₂)[k]? = some r₂ →
      r₂.error = none ∧ ∃ r₁, (d₁.cycles program source₁)[k]? = some r₁ ∧
        r₁.machine.pc = r₂.machine.pc ∧ r₁.machine.fetch = r₂.machine.fetch ∧
        Machine.Agree source₁ source₂ r₁.after r₂.after) ∧
      ∀ r₁ r₂ e, (d₁.cycles program source₁)[N]? = some r₁ →
        (d₂.cycles program source₂)[N]? = some r₂ → r₁.error = some e → r₂.error = some e := by
  have hstart := Machine.alike_powerOn program source₁ source₂
  have hops₁ := h₁.operations (.powerOn program source₁)
  have hops₂ := h₂.operations (.powerOn program source₂)
  constructor
  · intro k hk r₂ hr₂
    obtain ⟨r₁, hr₁⟩ : ∃ r₁, (d₁.cycles program source₁)[k]? = some r₁ :=
      ⟨_, List.getElem?_eq_getElem (by omega)⟩
    have hearlier : ∀ r ∈ (d₁.cycles program source₁).take k, r.error = none ∧ r.Blind :=
      fun r hr => hblind r (List.take_subset_take_left _ (Nat.le_of_lt hk) hr)
    obtain ⟨halike, hall₁, hall₂⟩ :=
      Machine.alike_before hsources k hstart hops₁ hops₂ hearlier hr₁ hr₂
    have hmem : r₁ ∈ (d₁.cycles program source₁).take N :=
      List.mem_of_getElem? ((List.getElem?_take_of_lt hk).trans hr₁)
    obtain ⟨hok, hr₁blind⟩ := hblind r₁ hmem
    refine ⟨(halike.error hall₁ hall₂).symm.trans hok, r₁, hr₁, halike.agree.pc, halike.fetch, ?_⟩
    exact (halike.cycle hsources hall₁ hall₂ hok hr₁blind).agree
  · intro r₁ r₂ e hr₁ hr₂ he
    obtain ⟨halike, hall₁, hall₂⟩ :=
      Machine.alike_before hsources N hstart hops₁ hops₂ hblind hr₁ hr₂
    exact (halike.error hall₁ hall₂).symm.trans he

/-- A random byte is drawn and a register is set, with a tick in between, and by a session
with a key down. The sources differ, but not in the bytes to come. -/
theorem noninterference_random :
    let program : Program := ⟨#[0xC0, 0xFF, 0x61, 0x05], by decide⟩
    let source₁ : RandomSource := .ofStream fun _ => 7
    let source₂ : RandomSource := .stream (fun _ => 7) 5
    let up : List Bool := .replicate 16 false
    let d₁ : Driver := .direct [.cycle up up, .tick, .cycle up up]
    let d₂ : Driver := .session .standard true [.setKey 3 true, .run 2]
    (∀ r ∈ (d₁.cycles program source₁).take 2, r.error = none ∧ r.Blind) ∧
      ∀ k < 2, ∀ r₂, (d₂.cycles program source₂)[k]? = some r₂ →
        r₂.error = none ∧ ∃ r₁, (d₁.cycles program source₁)[k]? = some r₁ ∧
          r₁.machine.pc = r₂.machine.pc ∧ r₁.machine.fetch = r₂.machine.fetch ∧
          Machine.Agree source₁ source₂ r₁.after r₂.after := by
  intro program source₁ source₂ up d₁ d₂
  let m := Machine.powerOn program source₁
  let m₁ := ((m.latch .released .released).perform (.random 0x0 0xFF)).counted
  have hup : Keypad.ofList? up = some .released := by decide
  have hmemory : m.memory = .load program := by rfl
  have hpending : m.pending = .ok (⟨0xC, 0x0, 0xF, 0xF⟩, .random 0x0 0xFF) :=
    Machine.pending_eq_ok_iff.2
      ⟨by decide, (Machine.word_of_load (k := 0) hmemory rfl).trans (by decide), rfl⟩
  have hpending₁ : m₁.tick.pending = .ok (⟨0x6, 0x1, 0x0, 0x5⟩, .setByte 0x1 0x05) :=
    Machine.pending_eq_ok_iff.2
      ⟨by decide, (Machine.word_of_load (m := m₁.tick) (k := 2) hmemory rfl).trans (by decide), rfl⟩
  have hstep : m.apply (.cycle up up) = (none, m₁) := Machine.apply_cycle hup hup hpending rfl
  have hcycles : d₁.cycles program source₁ =
      [⟨m, up, up⟩, ⟨(m.apply (.cycle up up)).2.tick, up, up⟩] := rfl
  rw [hstep] at hcycles
  have hblind : ∀ r ∈ (d₁.cycles program source₁).take 2, r.error = none ∧ r.Blind := by
    rw [hcycles]
    refine List.forall_mem_cons.2 ⟨⟨?_, ?_⟩, List.forall_mem_singleton.2 ⟨?_, ?_⟩⟩
    · rw [CycleRecord.error, hstep]
    · intro w i h
      cases hpending.symm.trans h
      rfl
    · rw [CycleRecord.error, Machine.apply_cycle hup hup hpending₁ rfl]
    · intro w i h
      cases hpending₁.symm.trans h
      rfl
  have hsteady₁ : d₁.Steady := by simp [d₁, Steady, Operation.Drives, up]
  have hsteady₂ : d₂.Steady := by simp [d₂, Steady]
  have hsources (n : Nat) : source₁.byteAfter n = source₂.byteAfter n := by
    rw [RandomSource.byteAfter_stream]
    exact RandomSource.byteAfter_stream _ 0 n
  have hN : 2 ≤ (d₁.cycles program source₁).length := by rw [hcycles]; decide
  exact ⟨hblind, (noninterference program hsources hsteady₁ hsteady₂ hN hblind).1⟩

end Driver

end Chip8
