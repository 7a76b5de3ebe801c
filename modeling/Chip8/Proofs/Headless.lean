import Chip8.Proofs.Keys

/-!
# Running without a keyboard

As long as nobody presses a key, no key can be released either. A program that comes to `FX0A`
then waits for ever: its cycles are counted, the timers tick, and nothing else happens to the
machine. Frames go on being completed, since waiting is no fault.

* `Machine.Idle` — a machine has only waited since it was another one
* `Session.Command.Headless` — a command that presses no key, and is no reset
* `Session.idle_step` — a cycle on `FX0A` is one of waiting
* `Session.Unpressed`, `Session.unpressed_lasts` — what commands without a keyboard keep
* `Session.wait_absorbing` — the first wait is the last thing that a program does
-/

namespace Chip8

theorem Keypad.set_released (key : Key) : released.set key false = released :=
  congrArg mk Vector.set_replicate_self

/-! ## Idle machines -/

namespace Machine

/-- A machine has only waited since it was `m`: it is `m` but for its timers, the keys that it was
shown, and the counts of instructions, of cycles spent waiting, and of ticks. -/
structure Idle (m m' : Machine) : Prop where
  /-- The store. -/
  memory : m'.memory = m.memory
  /-- The registers `V0` to `VF`. -/
  registers : m'.v = m.v
  /-- The index register. -/
  index : m'.index = m.index
  /-- The program counter. -/
  pc : m'.pc = m.pc
  /-- The return addresses. -/
  stack : m'.stack = m.stack
  /-- Every pixel. -/
  screen : m'.screen = m.screen
  /-- Where the source of random bytes stands. -/
  source : m'.source = m.source
  /-- Every count but those of instructions, of cycles spent waiting, and of ticks. -/
  counters : { m'.counters with instructions := 0, keyWaits := 0, ticks := 0 } =
    { m.counters with instructions := 0, keyWaits := 0, ticks := 0 }
  /-- Every instruction was a cycle spent waiting. -/
  waits : ∃ n, m'.counters.instructions = m.counters.instructions + n ∧
    m'.counters.keyWaits = m.counters.keyWaits + n

namespace Idle

variable {m m₁ m₂ : Machine}

theorem trans (h₁ : m.Idle m₁) (h₂ : m₁.Idle m₂) : m.Idle m₂ where
  memory := h₂.memory.trans h₁.memory
  registers := h₂.registers.trans h₁.registers
  index := h₂.index.trans h₁.index
  pc := h₂.pc.trans h₁.pc
  stack := h₂.stack.trans h₁.stack
  screen := h₂.screen.trans h₁.screen
  source := h₂.source.trans h₁.source
  counters := h₂.counters.trans h₁.counters
  waits := by
    obtain ⟨n₁, hinstructions₁, hwaits₁⟩ := h₁.waits
    obtain ⟨n₂, hinstructions₂, hwaits₂⟩ := h₂.waits
    exact ⟨n₁ + n₂, by omega, by omega⟩

theorem pending (h : m.Idle m₁) : m₁.pending = m.pending := pending_congr h.memory h.pc

end Idle

theorem idle_tick (m : Machine) : m.Idle m.tick :=
  ⟨rfl, rfl, rfl, rfl, rfl, rfl, rfl, rfl, 0, rfl, rfl⟩

end Machine

namespace Session

/-! ## Commands without a keyboard -/

/-- Whether a command presses no key and is no reset. -/
def Command.Headless : Command → Prop
  | .setKey _ pressed => pressed = false
  | .reset => False
  | .releaseAll | .step | .frame | .run _ => True

variable {s : Session} {w : Word} {x : Register}

/-! ## One step with every key up -/

/-- A cycle on `FX0A` is one of waiting, and stops no session. -/
theorem idle_step (hs : s.crashed = false) (hup : s.previousKeys = .released)
    (hpending : s.machine.pending = .ok (w, .awaitKey x)) :
    s.step.fault = none ∧ s.machine.Idle s.step.machine := by
  have hnone : Keypad.firstReleased? s.previousKeys s.keys = none := by
    rw [hup]
    exact Keypad.firstReleased?_of_released s.keys
  obtain ⟨log, hstep⟩ := step_waiting hs hpending hnone
  rw [hstep]
  exact ⟨crashed_eq_false_iff.1 hs, rfl, rfl, rfl, rfl, rfl, rfl, rfl, rfl, 1, rfl, rfl⟩

theorem pc_step_skipIfDown (hs : s.crashed = false) (hup : s.keys = .released)
    (hpending : s.machine.pending = .ok (w, .skipIfDown x)) :
    s.step.machine.pc = s.machine.pc + 2 := by
  obtain ⟨log, hstep⟩ := step_of_pending hs hpending rfl
  rw [hstep, hup]
  simp [Machine.perform, Machine.skipIf, Machine.latch, Machine.counted]

theorem pc_step_skipUnlessDown (hs : s.crashed = false) (hup : s.keys = .released)
    (hpending : s.machine.pending = .ok (w, .skipUnlessDown x)) :
    s.step.machine.pc = s.machine.pc + 4 := by
  obtain ⟨log, hstep⟩ := step_of_pending hs hpending rfl
  rw [hstep, hup]
  simp [Machine.perform, Machine.skipIf, Machine.latch, Machine.counted]

/-! ## Whole runs -/

variable {past : List Moment}

/-- No key is down and none was at the end of the last frame. Since any wait for a key the session
was not stopped, and its machine has done nothing else. -/
structure Unpressed (past : List Moment) (s : Session) : Prop where
  /-- The keys now. -/
  keys : s.keys = .released
  /-- The keys at the end of the last completed frame. -/
  previousKeys : s.previousKeys = .released
  /-- Since any wait for a key. -/
  waiting : ∀ t ∈ past, t.move = .cycle →
    ∀ w x, t.session.machine.pending = .ok (w, .awaitKey x) →
      s.fault = none ∧ t.session.machine.Idle s.machine

namespace Unpressed

/-- A move that is no cycle needs no keys, and lets the machine wait at most. -/
theorem other {move : Move} {s' : Session} (h : Unpressed past s) (hmove : move ≠ .cycle)
    (hkeys : s'.keys = .released) (hprevious : s'.previousKeys = .released)
    (hfault : s.fault = none → s'.fault = none)
    (hidle : ∀ m : Machine, m.Idle s.machine → m.Idle s'.machine) :
    Unpressed (past ++ [⟨move, s⟩]) s' where
  keys := hkeys
  previousKeys := hprevious
  waiting := by
    refine List.forall_mem_append.2 ⟨?_, List.forall_mem_singleton.2 fun ht => absurd ht hmove⟩
    intro t ht hcycle w x hpending
    obtain ⟨hrunning, hwaited⟩ := h.waiting t ht hcycle w x hpending
    exact ⟨hfault hrunning, hidle _ hwaited⟩

/-- After a wait, every cycle is another one at the same place. -/
theorem step (h : Unpressed past s) (hs : s.crashed = false) :
    Unpressed (past ++ [⟨.cycle, s⟩]) s.step := by
  obtain ⟨hkeys, hprevious, -⟩ := frames_step hs
  refine ⟨hkeys.trans h.keys, hprevious.trans h.previousKeys, ?_⟩
  refine List.forall_mem_append.2 ⟨?_, List.forall_mem_singleton.2 ?_⟩
  · intro t ht hcycle w x hpending
    have hwaited := (h.waiting t ht hcycle w x hpending).2
    obtain ⟨hgoes, hidle⟩ := idle_step hs h.previousKeys (hwaited.pending.trans hpending)
    exact ⟨hgoes, hwaited.trans hidle⟩
  · intro _ w x hpending
    exact idle_step hs h.previousKeys hpending

end Unpressed

/-- Without a keyboard, no key is ever down. -/
theorem unpressed_lasts {commands : List Command} (hheadless : ∀ c ∈ commands, c.Headless) :
    Lasting commands Unpressed where
  press n pressed hmem past s key h := by
    obtain rfl : pressed = false := hheadless _ hmem
    have hkeys : s.keys.set key false = .released := by
      rw [h.keys]
      exact Keypad.set_released key
    exact ⟨hkeys, h.previousKeys, h.waiting⟩
  releaseAll past s h := ⟨rfl, h.previousKeys, h.waiting⟩
  resume past s h := ⟨h.keys, h.previousKeys, h.waiting⟩
  begin past s h := h.other (by decide) h.keys h.previousKeys id fun _ hm => hm
  cycle past s hs h := h.step hs
  finish past s _ h :=
    h.other (by decide) h.keys h.keys id fun _ hm => hm.trans (Machine.idle_tick s.machine)
  reset hmem := (hheadless _ hmem).elim

/-- Every key of a session is up when it starts and after a reset. -/
theorem unpressed_start {settings : Settings} {bytes : Array UInt8} {entropy : Nat}
    {traced : Bool} {fresh : Session} (hstart : start settings bytes entropy traced = .ok fresh)
    (hs : s = fresh ∨ ∃ commands, s = fresh.after (commands ++ [.reset])) : Unpressed [] s := by
  rcases hs with rfl | ⟨commands, rfl⟩
  · obtain ⟨m, -, rfl⟩ := start_eq_ok_iff.1 hstart
    exact ⟨rfl, rfl, List.forall_mem_nil _⟩
  · have hreset : fresh.after (commands ++ [.reset]) = (fresh.after commands).reset :=
      after_append fresh commands [.reset]
    rw [hreset, Session.reset, ofMachine]
    exact ⟨rfl, rfl, List.forall_mem_nil _⟩

/-- **Without a keyboard, a wait for a key is absorbing.** A session has just started or was just
reset, and from there on no key is pressed. Once a cycle carries out `FX0A`, every later cycle
carries out the same word at the same address. The machine never crashes, and nothing about it
changes but the timers and three counts, of which those of instructions and of cycles spent waiting
grow alike. Besides, no `EX9E` ever skips in such a run, and every `EXA1` does. -/
theorem wait_absorbing {settings : Settings} {bytes : Array UInt8} {entropy : Nat}
    {traced : Bool} {fresh : Session} (hstart : start settings bytes entropy traced = .ok fresh)
    (hs : s = fresh ∨ ∃ earlier, s = fresh.after (earlier ++ [.reset]))
    {commands : List Command} (hheadless : ∀ c ∈ commands, c.Headless) :
    (∀ earlier t later w x, s.history commands = earlier ++ t :: later → t.move = .cycle →
      t.session.machine.pending = .ok (w, .awaitKey x) →
      (∀ u ∈ later, u.session.crashed = false ∧ t.session.machine.Idle u.session.machine ∧
        (u.move = .cycle → u.session.machine.pending = .ok (w, .awaitKey x))) ∧
      (s.after commands).crashed = false ∧
        t.session.machine.Idle (s.after commands).machine) ∧
    ∀ t ∈ s.history commands, t.move = .cycle → ∀ w x,
      (t.session.machine.pending = .ok (w, .skipIfDown x) →
        t.session.step.machine.pc = t.session.machine.pc + 2) ∧
      (t.session.machine.pending = .ok (w, .skipUnlessDown x) →
        t.session.step.machine.pc = t.session.machine.pc + 4) := by
  have hcarried : Carried Unpressed [] (s.history commands) (s.after commands) :=
    (unpressed_lasts hheadless).carried (fun _ hc => hc) (unpressed_start hstart hs)
  constructor
  · intro earlier t later w x hhistory ht hpending
    refine ⟨?_, ?_⟩
    · intro u hu
      obtain ⟨between, rest, rfl⟩ := List.append_of_mem hu
      have hsplit : s.history commands = (earlier ++ t :: between) ++ u :: rest := by
        rw [hhistory, List.append_assoc, List.cons_append]
      have hmem : t ∈ earlier ++ t :: between :=
        List.mem_append_right earlier List.mem_cons_self
      obtain ⟨hfault, hidle⟩ := (hcarried.before hsplit).1.waiting t hmem ht w x hpending
      exact ⟨crashed_eq_false_iff.2 hfault, hidle, fun _ => hidle.pending.trans hpending⟩
    · have hmem : t ∈ s.history commands := by
        rw [hhistory]
        exact List.mem_append_right earlier List.mem_cons_self
      obtain ⟨hfault, hidle⟩ := hcarried.last.waiting t hmem ht w x hpending
      exact ⟨crashed_eq_false_iff.2 hfault, hidle⟩
  · intro t ht hcycle w x
    obtain ⟨earlier, later, hsplit⟩ := List.append_of_mem ht
    obtain ⟨hunpressed, hrunning⟩ := hcarried.before hsplit
    exact ⟨pc_step_skipIfDown (hrunning hcycle) hunpressed.keys,
      pc_step_skipUnlessDown (hrunning hcycle) hunpressed.keys⟩

/-- A program that begins with a wait does nothing else in a hundred frames. -/
theorem wait_absorbing_from_start :
    let program : Program := ⟨#[0xF3, 0x0A], by decide⟩
    let fresh := ofMachine .standard (.powerOn program (.ofEntropy (Seed.number 1).entropy)) false
    let commands : List Command := [.step, .setKey 5 false, .run 100]
    start .standard program.bytes 1 false = .ok fresh ∧ (∀ c ∈ commands, c.Headless) ∧
      (fresh.after commands).crashed = false ∧
      fresh.machine.Idle (fresh.after commands).machine := by
  intro program fresh commands
  have hstart : start .standard program.bytes 1 false = .ok fresh :=
    start_program program false (by decide)
  have hheadless : ∀ c ∈ commands, c.Headless := by simp [commands, Command.Headless]
  have hmemory : fresh.machine.memory = .load program := by rfl
  have hpending : fresh.machine.pending = .ok (⟨0xF, 0x3, 0x0, 0xA⟩, .awaitKey 0x3) :=
    Machine.pending_of_load (k := 0) hmemory rfl (by decide) (by decide) rfl
  have hrunning : fresh.crashed = false := rfl
  clear_value fresh
  have hhistory : fresh.history commands =
      [] ++ ⟨.cycle, fresh⟩ :: (fresh.apply .step).2.history [.setKey 5 false, .run 100] := by
    rw [history, chronicle_step hrunning, List.singleton_append, List.nil_append]
  have hwaits := (wait_absorbing hstart (.inl rfl) hheadless).1 _ _ _ _ _ hhistory rfl hpending
  exact ⟨hstart, hheadless, hwaits.2⟩

end Session

end Chip8
