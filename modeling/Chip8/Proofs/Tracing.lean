import Chip8.Proofs.Frames
import Chip8.Proofs.History
import Chip8.Proofs.Runs

/-!
# The log of a session

A session that traces notes each instruction before it is carried out, and a session that is
stopped notes why. Nothing else is noted. So the log tells which cycles were made: there is one
entry for each cycle that found an instruction, in the order of the cycles, and at most one warning,
which comes last.

The machine counts instructions when they are done, and the session notes them before. The two
counts differ by one exactly if the machine was stopped while it carried out an instruction.

* `Machine.notice?` — what is noted of the next cycle
* `Session.attempts`, `Session.trace` — the cycles that were made, and what is noted of them
* `Session.warning?` — what is noted of the fault that stopped a session
* `Session.log_step` — what a step adds to the log
* `Session.Traced`, `Session.Traced.cycle` — the log is a trace of the moves so far
* `Session.Fresh` — sessions that were just started or reset
* `Session.log_traces_cycles` — what the log of a session tells after any commands
-/

namespace Chip8

namespace Machine

/-- What is noted of the next cycle: the word at the program counter and its instruction. -/
def notice? (m : Machine) : Option LogEntry :=
  if 0 ≤ m.pc ∧ m.pc ≤ 4094 then
    (Instruction.decode? m.word).map fun i => .executing m.word m.pc i
  else none

variable {m : Machine}

theorem notice?_of_pending {w : Word} {i : Instruction} (h : m.pending = .ok (w, i)) :
    m.notice? = some (.executing w m.pc i) := by
  obtain ⟨hpc, rfl, hdecode⟩ := pending_eq_ok_iff.1 h
  rw [notice?, if_pos hpc, hdecode]
  rfl

theorem notice?_of_pending_error {f : Fault} (h : m.pending = .error f) : m.notice? = none := by
  rw [notice?]
  rcases pending_eq_error_iff.1 h with ⟨hpc, -⟩ | ⟨-, hdecode, -⟩
  · rw [if_neg hpc]
  · rw [hdecode]
    exact ite_self _

@[simp] theorem notice?_latch (m : Machine) (now before : Keypad) :
    (m.latch now before).notice? = m.notice? := rfl

end Machine

namespace LogEntry

theorem isWarning_of_notice? {m : Machine} {e : LogEntry} (h : m.notice? = some e) :
    e.isWarning = false := by
  rw [Machine.notice?] at h
  split at h
  · obtain ⟨i, -, rfl⟩ := Option.map_eq_some_iff.1 h
    rfl
  · cases h

end LogEntry

namespace Session

variable {s : Session} {past : List Moment} {earlier : Array LogEntry}

/-! ## What is noted -/

/-- The sessions right before the cycles among some moves. -/
def attempts (ts : List Moment) : List Session :=
  (ts.filter (·.move = .cycle)).map Moment.session

/-- What is noted of the cycles among some moves. -/
def trace (ts : List Moment) : List LogEntry := (attempts ts).filterMap (·.machine.notice?)

/-- What is noted of the fault that stopped a session. -/
def warning? (s : Session) : Option LogEntry := s.fault.map fun f => .crashed s.machine.pc f

theorem attempts_append (ts ts' : List Moment) :
    attempts (ts ++ ts') = attempts ts ++ attempts ts' := by
  simp only [attempts, List.filter_append, List.map_append]

theorem attempts_cycle (s : Session) (ts : List Moment) :
    attempts (ts ++ [⟨.cycle, s⟩]) = attempts ts ++ [s] ∧
      trace (ts ++ [⟨.cycle, s⟩]) = trace ts ++ s.machine.notice?.toList := by
  have hattempts : attempts (ts ++ [⟨.cycle, s⟩]) = attempts ts ++ [s] := attempts_append _ _
  refine ⟨hattempts, ?_⟩
  rw [trace, hattempts, List.filterMap_append]
  cases hnotice : s.machine.notice? <;> simp [trace, hnotice]

theorem attempts_other {t : Moment} (ht : t.move ≠ .cycle) (ts : List Moment) :
    attempts (ts ++ [t]) = attempts ts ∧ trace (ts ++ [t]) = trace ts := by
  have hattempts : attempts (ts ++ [t]) = attempts ts := by
    simp [attempts, ht]
  exact ⟨hattempts, by rw [trace, trace, hattempts]⟩

theorem warning?_eq_none (hs : s.crashed = false) : s.warning? = none := by
  rw [warning?, crashed_eq_false_iff.1 hs, Option.map_none]

theorem log_noteNext (htraced : s.traced = true) :
    s.noteNext.log.toList = s.log.toList ++ s.machine.notice?.toList := by
  rw [noteNext, if_pos htraced]
  cases hpending : s.machine.pending with
  | error f =>
    rw [Machine.notice?_of_pending_error hpending, Option.toList_none, List.append_nil]
  | ok p =>
    rw [Machine.notice?_of_pending hpending, Option.toList_some]
    exact Array.toList_push

/-- **A step notes the instruction that it finds, and then the fault that it ends in.** -/
theorem log_step (hs : s.crashed = false) (htraced : s.traced = true) :
    s.step.log.toList =
      s.log.toList ++ s.machine.notice?.toList ++ s.step.warning?.toList := by
  have hfault := crashed_eq_false_iff.1 hs
  rw [← log_noteNext htraced, step_eq hs]
  cases s.machine.cycle s.keys s.previousKeys with
  | ok u machine => simp [warning?, hfault]
  | error f machine =>
    simp only
    split
    · simp [warning?]
    · simp [warning?, hfault]

/-! ## The log as a trace -/

/-- The log of a session is a trace of the moves that it has made since its log held the entries
`earlier`. -/
structure Traced (earlier : Array LogEntry) (past : List Moment) (s : Session) : Prop where
  /-- The session traces. -/
  traced : s.traced = true
  /-- The delay timer is a byte, so that every fault is the program's. -/
  delay : 0 ≤ s.machine.delay ∧ s.machine.delay ≤ 255
  /-- What was noted since are the cycles, and the fault that stopped the session. -/
  log : s.log.toList = earlier.toList ++ trace past ++ s.warning?.toList
  /-- An instruction that was noted was counted, but for the one that stopped the session. -/
  count : (trace past).length =
    s.machine.counters.instructions + if s.crashed && s.machine.notice?.isSome then 1 else 0
  /-- A session that was stopped shows the keys of the cycle that failed, and is otherwise as it
  was before that cycle, which was the last. -/
  failed : ∀ f, s.fault = some f → ∃ others t keys previous, attempts past = others ++ [t] ∧
    t.machine.impasse = some f ∧ s.machine = t.machine.latch keys previous

namespace Traced

/-- As long as the session was not stopped, every instruction that was noted was counted. -/
theorem count_of_running (h : Traced earlier past s) (hs : s.crashed = false) :
    (trace past).length = s.machine.counters.instructions := by
  have hcount := h.count
  rwa [hs, Bool.false_and, if_neg Bool.false_ne_true, Nat.add_zero] at hcount

/-- **A cycle keeps the law.** It adds an entry if it finds an instruction, and the warning if it
fails. -/
theorem cycle (h : Traced earlier past s) (hs : s.crashed = false) :
    Traced earlier (past ++ [⟨.cycle, s⟩]) s.step := by
  obtain ⟨hattempts, htrace⟩ := attempts_cycle s past
  have hcount := h.count_of_running hs
  have hdelay := (uninterrupted_step hs h.delay).delay
  have hlog : s.step.log.toList =
      earlier.toList ++ trace (past ++ [⟨.cycle, s⟩]) ++ s.step.warning?.toList := by
    rw [log_step hs h.traced, h.log, warning?_eq_none hs, htrace, Option.toList_none,
      List.append_nil, List.append_assoc earlier.toList]
  -- the instruction is noted in both cases, but counted only if it is not refused
  cases himpasse : s.machine.impasse with
  | none =>
    obtain ⟨w, i, hpending, hrefusal⟩ := Machine.impasse_eq_none_iff.1 himpasse
    obtain ⟨log, hstep⟩ := step_of_pending hs hpending hrefusal
    have hrunning : s.step.fault = none := (congrArg fault hstep).trans (crashed_eq_false_iff.1 hs)
    have hinstructions : s.step.machine.counters.instructions =
        s.machine.counters.instructions + 1 := by
      rw [hstep]
      exact congrArg (· + 1) (Machine.counts_perform _ i).1
    refine ⟨(congrArg Session.traced hstep).trans h.traced, hdelay, hlog, ?_, ?_⟩
    · rw [htrace, Machine.notice?_of_pending hpending, List.length_append, hcount, hinstructions,
        crashed_eq_false_iff.2 hrunning]
      rfl
    · intro f hf
      rw [hrunning] at hf
      cases hf
  | some f =>
    have hcrash := Machine.isCrash_of_impasse h.delay himpasse
    obtain ⟨keys, previous, log, hstep⟩ := Machine.step_of_impasse hs hcrash himpasse
    have hmachine : s.step.machine = s.machine.latch keys previous := congrArg machine hstep
    have hfault : s.step.fault = some f := congrArg fault hstep
    refine ⟨(congrArg Session.traced hstep).trans h.traced, hdelay, hlog, ?_, ?_⟩
    · have hcrashed : s.step.crashed = true := by rw [crashed, hfault, Option.isSome_some]
      rw [htrace, List.length_append, hcount, hcrashed, hmachine, Machine.notice?_latch]
      cases s.machine.notice? <;> rfl
    · intro f' hf'
      rw [hfault] at hf'
      cases hf'
      exact ⟨attempts past, s, keys, previous, hattempts, himpasse, hmachine⟩

/-- A frame that begins keeps it. -/
theorem begin (h : Traced earlier past s) : Traced earlier (past ++ [⟨.begin, s⟩]) s := by
  obtain ⟨hattempts, htrace⟩ := attempts_other (t := ⟨.begin, s⟩) (by nofun) past
  exact ⟨h.traced, h.delay, htrace ▸ h.log, htrace ▸ h.count, hattempts ▸ h.failed⟩

/-- A frame that ends keeps it, since it ends only in a session that was not stopped. -/
theorem finish (h : Traced earlier past s) (hs : s.halted = false) :
    Traced earlier (past ++ [⟨.finish, s⟩]) s.endFrame := by
  obtain ⟨-, htrace⟩ := attempts_other (t := ⟨.finish, s⟩) (by nofun) past
  have hrunning : s.fault = none := (halted_eq_false_iff.1 hs).1
  have hcrashed : s.crashed = false := crashed_eq_false_iff.2 hrunning
  have hended : s.endFrame.crashed = false := hcrashed
  refine ⟨h.traced, Machine.countDown_mem h.delay, ?_, ?_, ?_⟩
  · rw [warning?_eq_none hended, htrace, ← warning?_eq_none hcrashed]
    exact h.log
  · rw [htrace, h.count_of_running hcrashed, hended]
    rfl
  · intro f (hf : s.fault = some f)
    rw [hrunning] at hf
    cases hf

end Traced

/-- The law lasts through all commands but resets. -/
theorem lasting_traced {commands : List Command} (hcommands : .reset ∉ commands) :
    Lasting commands (Traced earlier) where
  press _ _ _ _ _ _ h := { h with }
  releaseAll _ _ h := { h with }
  resume _ _ h := { h with }
  begin _ _ h := h.begin
  cycle _ _ hs h := h.cycle hs
  finish _ _ hs h := h.finish hs
  reset hreset := absurd hreset hcommands

/-! ## Fresh sessions -/

/-- A session that was just started or reset. -/
inductive Fresh : Session → Prop where
  /-- It was started. -/
  | started {settings : Settings} {bytes : Array UInt8} {entropy : Nat} {traced : Bool}
      {s : Session} (h : start settings bytes entropy traced = .ok s) : Fresh s
  /-- It was reset. -/
  | reset (s : Session) : Fresh s.reset

theorem Fresh.eq_ofMachine (h : s.Fresh) :
    ∃ settings program source traced log,
      s = { ofMachine settings (.powerOn program source) traced with log } := by
  cases h with
  | started h =>
    obtain ⟨m, hboot, rfl⟩ := start_eq_ok_iff.1 h
    obtain ⟨program, -, -, rfl⟩ := Machine.boot_eq_ok_iff.1 hboot
    exact ⟨_, program, _, _, #[], by rw [ofMachine]⟩
  | reset t => exact ⟨t.settings, t.machine.program, t.machine.source.restart, t.traced, t.log, by
      rw [Session.reset, Machine.reset]⟩

/-- The log of a fresh session is a trace of no moves. -/
theorem Fresh.traced (h : s.Fresh) (htraced : s.traced = true) : Traced s.log [] s := by
  obtain ⟨settings, program, source, traced, log, rfl⟩ := h.eq_ofMachine
  exact
    { traced := htraced
      delay := (Machine.bounded_powerOn program source).delay
      log := by simp [trace, attempts, warning?, ofMachine]
      count := rfl
      failed := fun f hf => by cases hf }

/-! ## After a crash -/

/-- A session that was stopped notes nothing until it is reset, whatever it is asked for. -/
theorem apply_of_crashed {c : Command} (hs : s.crashed = true) (hc : c ≠ .reset) :
    (s.apply c).2.crashed = true ∧ (s.apply c).2.log = s.log := by
  cases c with
  | reset => exact absurd rfl hc
  | setKey key pressed =>
    simp only [apply, setKey]
    by_cases hkey : 0 ≤ key ∧ key < 16
    · rw [dif_pos hkey]
      exact ⟨hs, rfl⟩
    · rw [dif_neg hkey]
      exact ⟨hs, rfl⟩
  | releaseAll => exact ⟨hs, rfl⟩
  | step =>
    show s.step.crashed = true ∧ s.step.log = s.log
    rw [step_of_crashed hs]
    exact ⟨hs, rfl⟩
  | frame =>
    show s.frame.crashed = true ∧ s.frame.log = s.log
    rw [frame_of_crashed hs]
    exact ⟨hs, rfl⟩
  | run n =>
    show (s.resume.runFrames n.toNat).crashed = true ∧ (s.resume.runFrames n.toNat).log = s.log
    rw [runFrames_of_crashed (s := s.resume) hs]
    exact ⟨hs, rfl⟩

theorem log_after_of_crashed {commands : List Command} (hs : s.crashed = true)
    (hcommands : .reset ∉ commands) : (s.after commands).log = s.log := by
  induction commands generalizing s with
  | nil => rfl
  | cons c commands ih =>
    rw [List.mem_cons, not_or] at hcommands
    obtain ⟨hcrashed, hlog⟩ := apply_of_crashed hs (Ne.symm hcommands.1)
    rw [after_cons, ih hcrashed hcommands.2, hlog]

/-! ## The log of a session -/

/-- **The log is a faithful trace.** A session that traces was just started or reset, and it is then
asked for anything but a reset. What it notes meanwhile is, in this order, one entry for each cycle
of the session that found an instruction, with the word at the program counter, the program counter
and the instruction; and a warning if the session was stopped, with the program counter and the
fault of the cycle that failed, which was the last. The instructions that were noted are those that
the machine counts, and one more if the session was stopped at an instruction. Once it was stopped,
nothing more is noted. -/
theorem log_traces_cycles {fresh : Session} (hfresh : fresh.Fresh) (htraced : fresh.traced = true)
    {commands : List Command} (hcommands : .reset ∉ commands) :
    let s := fresh.after commands
    let past := fresh.history commands
    s.log.toList = fresh.log.toList ++ trace past ++ s.warning?.toList ∧
      (∀ e ∈ trace past, e.isWarning = false) ∧ (∀ e ∈ s.warning?, e.isWarning = true) ∧
      (∀ t ∈ attempts past, t.crashed = false) ∧
      (trace past).length =
        s.machine.counters.instructions +
          (if s.crashed && s.machine.notice?.isSome then 1 else 0) ∧
      (∀ f, s.fault = some f → ∃ others t m, attempts past = others ++ [t] ∧
        t.machine.cycle t.keys t.previousKeys = .error f m ∧ t.machine.pc = s.machine.pc ∧
        t.machine.notice? = s.machine.notice?) ∧
      (s.crashed = true → ∀ later, .reset ∉ later → (s.after later).log = s.log) := by
  intro s past
  have hcarried : Carried (Traced fresh.log) [] past s :=
    (lasting_traced hcommands).carried (fun _ hc => hc) (hfresh.traced htraced)
  have h : Traced fresh.log past s := hcarried.last
  refine ⟨h.log, ?_, ?_, ?_, h.count, ?_, fun hs _ => log_after_of_crashed hs⟩
  · intro e he
    obtain ⟨t, -, hnotice⟩ := List.mem_filterMap.1 he
    exact LogEntry.isWarning_of_notice? hnotice
  · intro e he
    obtain ⟨f, -, rfl⟩ := Option.map_eq_some_iff.1 he
    rfl
  · intro t ht
    obtain ⟨moment, hmoment, rfl⟩ := List.mem_map.1 ht
    rw [List.mem_filter, decide_eq_true_iff] at hmoment
    obtain ⟨before, later, hpast⟩ := List.mem_iff_append.1 hmoment.1
    exact (hcarried.before hpast).2 hmoment.2
  · intro f hf
    obtain ⟨others, t, keys, previous, hlast, himpasse, hmachine⟩ := h.failed f hf
    obtain ⟨keys', previous', hcycle⟩ :=
      Machine.cycle_of_impasse himpasse t.keys t.previousKeys
    refine ⟨others, t, _, hlast, hcycle, ?_, ?_⟩
    · rw [hmachine]
      rfl
    · rw [hmachine, Machine.notice?_latch]

/-- A program that sets a register and then calls machine code is stopped at its second
instruction, and both were noted. -/
theorem log_traces_cycles_machine_code :
    let program : Program := ⟨#[0x60, 0x05, 0x0A, 0xBC], by decide⟩
    let fresh := ofMachine .standard (.powerOn program (.ofEntropy (Seed.number 1).entropy)) true
    let past := fresh.history [.step, .step]
    let s := fresh.after [.step, .step]
    fresh.Fresh ∧ fresh.traced = true ∧ s.fault = some (.unknownSubroutine 0xABC) ∧
      s.log.toList = trace past ++ [.crashed 0x202 (.unknownSubroutine 0xABC)] ∧
      (trace past).length = s.machine.counters.instructions + 1 ∧
      (s.after [.frame, .run 5, .step]).log = s.log := by
  intro program fresh past s
  have hfresh : fresh.Fresh := .started (start_program program true (by decide))
  have hmemory : fresh.machine.memory = .load program := by rfl
  have hpc : fresh.machine.pc = programStart + (0 : Nat) := by rfl
  have hrunning : fresh.crashed = false := by rfl
  have htraced : fresh.traced = true := by rfl
  have hempty : fresh.log = #[] := by rfl
  -- nothing else is needed of the seed and of the store
  clear_value fresh
  have hfirst : fresh.machine.pending = .ok (⟨0x6, 0x0, 0x0, 0x5⟩, .setByte 0 5) := by
    refine Machine.pending_eq_ok_iff.2
      ⟨by rw [hpc]; decide, (Machine.word_of_load hmemory hpc).trans (by decide), rfl⟩
  obtain ⟨log, hstep⟩ := step_of_pending hrunning hfirst rfl
  have hkept : fresh.step.machine.memory = .load program := by
    rw [hstep]
    exact hmemory
  have hnext : fresh.step.machine.pc = programStart + (2 : Nat) := by
    rw [hstep]
    exact congrArg (· + 2) hpc
  have hsecond : fresh.step.machine.pending = .ok (⟨0x0, 0xA, 0xB, 0xC⟩, .sys 0xABC) :=
    Machine.pending_eq_ok_iff.2
      ⟨by rw [hnext]; decide, (Machine.word_of_load hkept hnext).trans (by decide), rfl⟩
  have himpasse : fresh.step.machine.impasse = some (.unknownSubroutine 0xABC) :=
    Machine.impasse_eq_some_iff.2 (.inr ⟨_, _, hsecond, rfl⟩)
  have hgoing : fresh.step.crashed = false := by
    rw [hstep]
    exact hrunning
  obtain ⟨keys, previous, log', hlast⟩ := Machine.step_of_impasse hgoing rfl himpasse
  have hsteps (t : Session) : t.after [.step, .step] = t.step.step := rfl
  have hs := (hsteps fresh).trans hlast
  have hfault : s.fault = some (.unknownSubroutine 0xABC) := congrArg fault hs
  have hcrashed : s.crashed = true := by rw [crashed, hfault, Option.isSome_some]
  have hmachine : s.machine = fresh.step.machine.latch keys previous := congrArg machine hs
  have hnotice : s.machine.notice?.isSome = true := by
    rw [hmachine, Machine.notice?_latch, Machine.notice?_of_pending hsecond, Option.isSome_some]
  have hwarning : s.warning? = some (.crashed 0x202 (.unknownSubroutine 0xABC)) := by
    have hlatch (m : Machine) : (m.latch keys previous).pc = m.pc := rfl
    have hwhere : s.machine.pc = 0x202 := by
      rw [hmachine, hlatch, hnext]
      rfl
    rw [warning?, hfault, hwhere, Option.map_some]
  have hcommands : Command.reset ∉ [Command.step, Command.step] := by decide
  obtain ⟨hlog, -, -, -, hcount, -, hlater⟩ := log_traces_cycles hfresh htraced hcommands
  refine ⟨hfresh, htraced, hfault, ?_, ?_, hlater hcrashed _ (by decide)⟩
  · rw [hlog, hwarning, hempty, List.nil_append, Option.toList_some]
  · rw [hcount, hcrashed, hnotice]
    rfl

end Session

end Chip8
