import Chip8.Proofs.Operation
import Chip8.Session

/-!
# Sequences of commands

Whoever uses a session presses keys and asks for steps, frames, runs of frames and
resets, in any order. The session then drives its machine: it makes cycles, lets the
timers tick, and resets it. This file tells what is asked of a session from what the
session asks of its machine.

* `Machine.boot_eq_ok_iff`, `Session.start_eq_ok_iff` — what a machine and a session start from
* `Session.Command`, `Session.Answer` — what a session is asked for, and what it answers
* `Session.apply`, `Session.after` — a command, and a sequence of commands
* `Session.Moment`, `Session.chronicle`, `Session.history` — what a session does, move after
  move, to carry out a command or a sequence of them
* `Session.operations` — what its moves ask of the machine
* `Session.step_eq`, `Session.exists_step` — what a step does, with and without the log
* `Session.apply_induction` — what every change of a session keeps, every command keeps
* `Session.machine_apply` — the machine of a session is driven by these operations
* `Session.drives_history` — they drive it on, unless a reset is asked for
-/

namespace Chip8

/-! ## Starting -/

/-- A machine starts from a program that fits and from the words of a seed without integers
below zero. If no seed is given, this is what the system offers. -/
theorem Machine.boot_eq_ok_iff {bytes : Array UInt8} {seed : Option Seed} {entropy : Nat}
    {m : Machine} :
    boot bytes seed entropy = .ok m ↔
      ∃ program, Program.ofBytes bytes = .ok program ∧
        (seed.getD (.number entropy)).parts.find? (· < 0) = none ∧
        powerOn program (.ofEntropy (seed.getD (.number entropy)).entropy) = m := by
  rw [boot, RandomSource.ofSeed?]
  generalize seed.getD (.number entropy) = chosen
  constructor
  · intro h
    cases hprogram : Program.ofBytes bytes with
    | error e =>
      rw [hprogram] at h
      cases h
    | ok program =>
      rw [hprogram] at h
      cases hnegative : chosen.parts.find? (· < 0) with
      | some n =>
        rw [hnegative] at h
        cases h
      | none =>
        rw [hnegative] at h
        cases h
        exact ⟨program, rfl, rfl, rfl⟩
  · rintro ⟨program, hprogram, hnegative, rfl⟩
    rw [hprogram, hnegative]
    rfl

namespace Session

/-- A session starts with a machine that starts. -/
theorem start_eq_ok_iff {settings : Settings} {bytes : Array UInt8} {entropy : Nat}
    {traced : Bool} {s : Session} :
    start settings bytes entropy traced = .ok s ↔
      ∃ m, Machine.boot bytes settings.seed entropy = .ok m ∧ ofMachine settings m traced = s := by
  rw [start]
  cases Machine.boot bytes settings.seed entropy <;> simp [Except.map]

/-- A program that fits starts a session, if the seed has no integer below zero. -/
theorem start_program {settings : Settings} {entropy : Nat} (program : Program) (traced : Bool)
    (hseed : (settings.seed.getD (.number entropy)).parts.find? (· < 0) = none) :
    start settings program.bytes entropy traced =
      .ok (ofMachine settings
        (.powerOn program (.ofEntropy (settings.seed.getD (.number entropy)).entropy)) traced) :=
  start_eq_ok_iff.2 ⟨_, Machine.boot_eq_ok_iff.2 ⟨program, dif_pos program.fits, hseed, rfl⟩, rfl⟩

/-! ## Commands -/

/-- What a session is asked for. -/
inductive Command where
  /-- The key of a number goes down or up. -/
  | setKey (key : Int) (pressed : Bool)
  /-- Every key goes up. -/
  | releaseAll
  /-- A single cycle. -/
  | step
  /-- A frame. -/
  | frame
  /-- At most so many frames. -/
  | run (n : Int)
  /-- A reset. -/
  | reset
deriving DecidableEq, Repr

/-- What a session answers. -/
inductive Answer where
  /-- It is done. -/
  | done
  /-- Whether the machine can go on. -/
  | going (on : Bool)
  /-- The number of frames that were completed. -/
  | completed (frames : Nat)
  /-- There is no such key. -/
  | noSuchKey (e : NoSuchKey)
  /-- The machine was interrupted by a fault that is not the program's. -/
  | interrupted (fault : Fault)
deriving DecidableEq, Repr

/-- Whether an answer reports an error. A machine that was stopped by a fault of its program is
no error of the session. -/
def Answer.isError : Answer → Bool
  | .done | .going _ | .completed _ => false
  | .noSuchKey _ | .interrupted _ => true

/-- The answer of a session that ran its machine, unless the machine was interrupted. -/
def answer (s : Session) (a : Answer) : Answer :=
  match s.interruption with
  | some fault => .interrupted fault
  | none => a

/-- What a session answers to a command, and the session after it. -/
def apply (s : Session) : Command → Answer × Session
  | .setKey key pressed =>
    match s.setKey key pressed with
    | .ok s' => (.done, s')
    | .error e => (.noSuchKey e, s)
  | .releaseAll => (.done, s.releaseAll)
  | .step => (s.step.answer (.going !s.step.crashed), s.step)
  | .frame => (s.frame.answer (.going !s.frame.crashed), s.frame)
  | .run n => ((s.run n).answer (.completed (s.framesSince (s.run n))), s.run n)
  | .reset => (.done, s.reset)

/-- The session after a sequence of commands. -/
def after (s : Session) (commands : List Command) : Session :=
  commands.foldl (fun s c => (s.apply c).2) s

theorem apply_setKey (s : Session) (key : Key) (pressed : Bool) :
    s.apply (.setKey key.val pressed) = (.done, s.press key pressed) := by
  have hkey : 0 ≤ (key.val : Int) ∧ (key.val : Int) < 16 := by omega
  simp only [apply, setKey, dif_pos hkey]
  rfl

variable {s : Session}

@[simp] theorem after_nil (s : Session) : s.after [] = s := rfl

@[simp] theorem after_cons (s : Session) (c : Command) (commands : List Command) :
    s.after (c :: commands) = (s.apply c).2.after commands := rfl

/-! ## What a session does -/

/-- What a session does to carry out a command. -/
inductive Move where
  /-- It begins a frame. -/
  | begin
  /-- It makes a cycle. -/
  | cycle
  /-- It ends a frame. -/
  | finish
  /-- It resets its machine. -/
  | reset
deriving DecidableEq, Repr

/-- A move, and the session right before it. -/
structure Moment where
  /-- The move. -/
  move : Move
  /-- The session. -/
  session : Session

/-- The moves of at most `n` cycles in a row. -/
def chronicleSteps : Nat → Session → List Moment
  | 0, _ => []
  | n + 1, s =>
    if s.crashed then []
    else ⟨.cycle, s⟩ :: if s.step.halted then [] else chronicleSteps n s.step

/-- The moves of a frame. -/
def chronicleFrame (s : Session) : List Moment :=
  if s.crashed then []
  else
    let cycled := s.steps s.settings.cyclesPerFrame
    ⟨.begin, s⟩ :: (chronicleSteps s.settings.cyclesPerFrame s ++
      if cycled.halted then [] else [⟨.finish, cycled⟩])

/-- The moves of at most `n` frames in a row. -/
def chronicleFrames : Nat → Session → List Moment
  | 0, _ => []
  | n + 1, s => s.chronicleFrame ++ if s.frame.halted then [] else chronicleFrames n s.frame

/-- The moves that carry out a command. -/
def chronicle (s : Session) : Command → List Moment
  | .setKey _ _ | .releaseAll => []
  | .step => chronicleSteps 1 s
  | .frame => s.chronicleFrame
  | .run n => chronicleFrames n.toNat s.resume
  | .reset => [⟨.reset, s⟩]

theorem chronicle_step (hs : s.crashed = false) : s.chronicle .step = [⟨.cycle, s⟩] := by
  simp only [chronicle, chronicleSteps, hs, Bool.false_eq_true, if_false, ite_self]

/-- The moves that carry out a sequence of commands. -/
def history (s : Session) : List Command → List Moment
  | [] => []
  | c :: commands => s.chronicle c ++ (s.apply c).2.history commands

theorem after_append (s : Session) (commands commands' : List Command) :
    s.after (commands ++ commands') = (s.after commands).after commands' :=
  List.foldl_append

/-- The moves of commands that come after others follow the moves of those. -/
theorem history_append (s : Session) (commands commands' : List Command) :
    s.history (commands ++ commands') =
      s.history commands ++ (s.after commands).history commands' := by
  induction commands generalizing s with
  | nil => rfl
  | cons c commands ih =>
    rw [List.cons_append, history, history, ih, after_cons, List.append_assoc]

/-- The cycle that a session makes next. -/
def nextCycle (s : Session) : CycleRecord := ⟨s.machine, s.keys.states, s.previousKeys.states⟩

/-- What a move asks of the machine. -/
def Moment.operation? (t : Moment) : Option Operation :=
  match t.move with
  | .begin => none
  | .cycle => some (.cycle t.session.keys.states t.session.previousKeys.states)
  | .finish => some .tick
  | .reset => some .reset

/-- What moves ask of the machine, one after another. -/
def operations (moments : List Moment) : List Operation := moments.filterMap Moment.operation?

@[simp] theorem operations_append (ts ts' : List Moment) :
    operations (ts ++ ts') = operations ts ++ operations ts' :=
  List.filterMap_append

@[simp] theorem operations_begin (s : Session) (ts : List Moment) :
    operations (⟨.begin, s⟩ :: ts) = operations ts := rfl

@[simp] theorem operations_cycle (s : Session) (ts : List Moment) :
    operations (⟨.cycle, s⟩ :: ts) =
      .cycle s.keys.states s.previousKeys.states :: operations ts := rfl

/-! ## One step -/

theorem crashed_eq_false_iff : s.crashed = false ↔ s.fault = none := by simp [crashed]

theorem halted_eq_false_iff : s.halted = false ↔ s.fault = none ∧ s.interruption = none := by
  simp [halted, crashed]

theorem halted_of_crashed (hs : s.crashed = true) : s.halted = true := by
  rw [halted, hs, Bool.true_or]

theorem halted_of_fault {f : Fault} (h : s.fault = some f) : s.halted = true :=
  halted_of_crashed (by rw [crashed, h, Option.isSome_some])

/-- Before a cycle a session may note the instruction. That is all. -/
theorem exists_noteNext (s : Session) : ∃ log, s.noteNext = { s with log } := by
  rw [noteNext]
  split
  · split
    · exact ⟨_, rfl⟩
    · exact ⟨_, rfl⟩
  · exact ⟨_, rfl⟩

/-- What is noted does not depend on an interruption. -/
theorem log_noteNext_resume (s : Session) : s.resume.noteNext.log = s.noteNext.log := by
  have htraced : s.resume.traced = s.traced := rfl
  have hmachine : s.resume.machine = s.machine := rfl
  rw [noteNext, noteNext, htraced, hmachine]
  cases s.traced with
  | false => rfl
  | true => cases s.machine.pending <;> rfl

/-- A step of a session that was not stopped is a cycle of its machine, after the instruction was
noted. What becomes of the rest of the session depends on how that ends, and a fault of the program
is noted as well. -/
theorem step_eq (hs : s.crashed = false) :
    s.step =
      match s.machine.cycle s.keys s.previousKeys with
      | .ok _ machine => { s with machine, interruption := none, log := s.noteNext.log }
      | .error f machine =>
        if f.isCrash then
          { s with
            machine, fault := some f, interruption := none,
            log := s.noteNext.log.push (.crashed machine.pc f) }
        else { s with machine, interruption := some f, log := s.noteNext.log } := by
  obtain ⟨log, hnote⟩ := exists_noteNext s.resume
  have hlog : s.noteNext.log = log := by
    rw [← log_noteNext_resume, hnote]
  rw [step, if_neg (by simp [hs])]
  simp only [hnote, hlog]
  have hmachine : s.resume.machine = s.machine := rfl
  have hkeys : s.resume.keys = s.keys := rfl
  have hprevious : s.resume.previousKeys = s.previousKeys := rfl
  simp only [hmachine, hkeys, hprevious]
  cases s.machine.cycle s.keys s.previousKeys with
  | ok u machine => rfl
  | error f machine =>
    simp only [halt]
    split
    · rfl
    · rfl

/-- The same without the log. -/
theorem exists_step (hs : s.crashed = false) :
    ∃ log, s.step =
      match s.machine.cycle s.keys s.previousKeys with
      | .ok _ machine => { s with machine, interruption := none, log }
      | .error f machine =>
        if f.isCrash then { s with machine, fault := some f, interruption := none, log }
        else { s with machine, interruption := some f, log } := by
  rw [step_eq hs]
  cases s.machine.cycle s.keys s.previousKeys with
  | ok u machine => exact ⟨_, rfl⟩
  | error f machine =>
    simp only
    split
    · exact ⟨_, rfl⟩
    · exact ⟨_, rfl⟩

theorem step_of_pending {w : Word} {i : Instruction} (hs : s.crashed = false)
    (hpending : s.machine.pending = .ok (w, i)) (hrefusal : s.machine.refusal i = none) :
    ∃ log, s.step =
      { s with
        machine := ((s.machine.latch s.keys s.previousKeys).perform i).counted
        interruption := none, log } := by
  obtain ⟨log, hstep⟩ := exists_step hs
  refine ⟨log, ?_⟩
  rw [hstep, Machine.cycle_eq_ok_iff.2 ⟨w, i, hpending, hrefusal, rfl⟩]

theorem frames_step (hs : s.crashed = false) :
    s.step.keys = s.keys ∧ s.step.previousKeys = s.previousKeys ∧ s.step.frames = s.frames := by
  obtain ⟨log, hstep⟩ := exists_step hs
  rw [hstep]
  cases s.machine.cycle s.keys s.previousKeys with
  | ok u machine => exact ⟨rfl, rfl, rfl⟩
  | error f machine =>
    simp only
    split <;> exact ⟨rfl, rfl, rfl⟩

theorem step_of_crashed (hs : s.crashed = true) : s.step = s := by
  rw [step, if_pos hs]

theorem frame_of_crashed (hs : s.crashed = true) : s.frame = s := by
  rw [frame, if_pos hs]

theorem machine_step (hs : s.crashed = false) : s.step.machine = s.nextCycle.after := by
  obtain ⟨log, hstep⟩ := exists_step hs
  rw [hstep, CycleRecord.after, nextCycle, Machine.apply,
    Machine.cycleFrom_eq_cycle _ (Keypad.ofList?_states _) (Keypad.ofList?_states _)]
  cases s.machine.cycle s.keys s.previousKeys with
  | ok u machine => rfl
  | error f machine =>
    simp only
    split <;> rfl

/-! ## What commands keep -/

section Induction

variable {Inv : Session → Prop}

/-- A session that was stopped keeps everything, since it makes no step. -/
theorem step_induction (step : ∀ s, s.crashed = false → Inv s → Inv s.step) (start : Inv s) :
    Inv s.step := by
  cases hs : s.crashed with
  | true => exact (step_of_crashed hs).symm ▸ start
  | false => exact step s hs start

theorem steps_induction (step : ∀ s, s.crashed = false → Inv s → Inv s.step) (n : Nat)
    (start : Inv s) : Inv (s.steps n) := by
  induction n generalizing s with
  | zero => exact start
  | succ n ih =>
    have hnext := step_induction step start
    rw [steps]
    split
    · exact hnext
    · exact ih hnext

theorem frame_induction (step : ∀ s, s.crashed = false → Inv s → Inv s.step)
    (endFrame : ∀ s, s.halted = false → Inv s → Inv s.endFrame) (start : Inv s) :
    Inv s.frame := by
  have hcycled := steps_induction step s.settings.cyclesPerFrame start
  rw [frame]
  cases s.crashed with
  | true => exact start
  | false =>
    cases hhalted : (s.steps s.settings.cyclesPerFrame).halted with
    | true => simpa [hhalted] using hcycled
    | false => simpa [hhalted] using endFrame _ hhalted hcycled

theorem runFrames_induction (step : ∀ s, s.crashed = false → Inv s → Inv s.step)
    (endFrame : ∀ s, s.halted = false → Inv s → Inv s.endFrame) (n : Nat) (start : Inv s) :
    Inv (s.runFrames n) := by
  induction n generalizing s with
  | zero => exact start
  | succ n ih =>
    have hframe := frame_induction step endFrame start
    rw [runFrames]
    split
    · exact hframe
    · exact ih hframe

/-- What holds at the start and is kept by every change that a session makes to itself holds
after every command. -/
theorem apply_induction (keys : ∀ s keys, Inv s → Inv { s with keys })
    (resume : ∀ s, Inv s → Inv s.resume)
    (step : ∀ s, s.crashed = false → Inv s → Inv s.step)
    (endFrame : ∀ s, s.halted = false → Inv s → Inv s.endFrame)
    (reset : ∀ s, Inv s → Inv s.reset) (start : Inv s) (c : Command) : Inv (s.apply c).2 := by
  cases c with
  | setKey key pressed =>
    simp only [apply, setKey]
    split
    · next s' hkey =>
      split at hkey
      · cases hkey
        exact keys s _ start
      · cases hkey
    · exact start
  | releaseAll => exact keys s _ start
  | step => exact step_induction step start
  | frame => exact frame_induction step endFrame start
  | run n => exact runFrames_induction step endFrame n.toNat (resume s start)
  | reset => exact reset s start

end Induction

/-! ## The machine of a session -/

theorem machine_steps (n : Nat) (s : Session) :
    (s.steps n).machine = s.machine.after (operations (s.chronicleSteps n)) := by
  induction n generalizing s with
  | zero => rfl
  | succ n ih =>
    rw [steps, chronicleSteps]
    cases hs : s.crashed with
    | true =>
      rw [step_of_crashed hs]
      simp only [halted, hs]
      rfl
    | false =>
      have hcycle : s.step.machine =
          (s.machine.apply (.cycle s.keys.states s.previousKeys.states)).2 := machine_step hs
      simp only [Bool.false_eq_true, if_false, operations_cycle, Machine.after_cons, ← hcycle]
      cases s.step.halted with
      | true => rfl
      | false => exact ih s.step

theorem machine_frame (s : Session) :
    s.frame.machine = s.machine.after (operations s.chronicleFrame) := by
  rw [frame, chronicleFrame]
  cases s.crashed with
  | true => rfl
  | false =>
    simp only [Bool.false_eq_true, if_false, operations_begin, operations_append,
      Machine.after_append, ← machine_steps]
    cases (s.steps s.settings.cyclesPerFrame).halted <;> rfl

theorem machine_runFrames (n : Nat) (s : Session) :
    (s.runFrames n).machine = s.machine.after (operations (s.chronicleFrames n)) := by
  induction n generalizing s with
  | zero => rfl
  | succ n ih =>
    rw [runFrames, chronicleFrames, operations_append, Machine.after_append, ← machine_frame]
    cases s.frame.halted with
    | true => rfl
    | false => exact ih s.frame

/-- **A session drives its machine**: a command by the operations of its moves. -/
theorem machine_apply (s : Session) (c : Command) :
    (s.apply c).2.machine = s.machine.after (operations (s.chronicle c)) := by
  cases c with
  | setKey key pressed =>
    simp only [apply, setKey]
    by_cases hkey : 0 ≤ key ∧ key < 16
    · rw [dif_pos hkey]
      rfl
    · rw [dif_neg hkey]
      rfl
  | releaseAll => rfl
  | step =>
    have hsteps := machine_steps 1 s
    rw [steps] at hsteps
    simp only [steps, ite_self] at hsteps
    exact hsteps
  | frame => exact machine_frame s
  | run n => exact machine_runFrames n.toNat s.resume
  | reset => rfl

/-! ## Moves without a reset -/

/-- Cycles in a row are nothing but cycles. -/
theorem move_steps (n : Nat) (s : Session) : ∀ t ∈ s.chronicleSteps n, t.move = .cycle := by
  induction n generalizing s with
  | zero => exact List.forall_mem_nil _
  | succ n ih =>
    rw [chronicleSteps]
    split
    · exact List.forall_mem_nil _
    · refine List.forall_mem_cons.2 ⟨rfl, ?_⟩
      split
      · exact List.forall_mem_nil _
      · exact ih s.step

theorem move_frame_ne_reset (s : Session) : ∀ t ∈ s.chronicleFrame, t.move ≠ .reset := by
  rw [chronicleFrame]
  split
  · exact List.forall_mem_nil _
  · refine List.forall_mem_cons.2 ⟨nofun, List.forall_mem_append.2 ⟨?_, ?_⟩⟩
    · intro t ht
      rw [move_steps _ s t ht]
      nofun
    · split
      · exact List.forall_mem_nil _
      · exact List.forall_mem_singleton.2 nofun

theorem move_runFrames_ne_reset (n : Nat) (s : Session) :
    ∀ t ∈ s.chronicleFrames n, t.move ≠ .reset := by
  induction n generalizing s with
  | zero => exact List.forall_mem_nil _
  | succ n ih =>
    rw [chronicleFrames]
    refine List.forall_mem_append.2 ⟨move_frame_ne_reset s, ?_⟩
    split
    · exact List.forall_mem_nil _
    · exact ih s.frame

/-- Only the command to reset makes a session reset its machine. -/
theorem move_chronicle_ne_reset {c : Command} (hc : c ≠ .reset) :
    ∀ t ∈ s.chronicle c, t.move ≠ .reset := by
  cases c with
  | reset => exact absurd rfl hc
  | setKey key pressed | releaseAll => exact List.forall_mem_nil _
  | step =>
    intro t ht
    rw [move_steps 1 s t ht]
    nofun
  | frame => exact move_frame_ne_reset s
  | run n => exact move_runFrames_ne_reset n.toNat s.resume

/-- A move that is no reset drives the machine on, if it asks anything of it. -/
theorem Moment.drives {t : Moment} (ht : t.move ≠ .reset) : ∀ op ∈ t.operation?, op.Drives := by
  intro op hop
  obtain ⟨move, session⟩ := t
  cases move with
  | reset => exact absurd rfl ht
  | begin => cases hop
  | cycle =>
    cases hop
    exact ⟨Keypad.length_states _, Keypad.length_states _⟩
  | finish =>
    cases hop
    trivial

/-- Without the command to reset, a session drives its machine on. -/
theorem drives_history {commands : List Command} (h : .reset ∉ commands) :
    ∀ op ∈ operations (s.history commands), op.Drives := by
  induction commands generalizing s with
  | nil => exact List.forall_mem_nil _
  | cons c commands ih =>
    simp only [List.mem_cons, not_or] at h
    obtain ⟨hc, hrest⟩ := h
    rw [history, operations_append]
    refine List.forall_mem_append.2 ⟨?_, ih hrest⟩
    intro op hop
    obtain ⟨t, ht, hasked⟩ := List.mem_filterMap.1 hop
    exact Moment.drives (move_chronicle_ne_reset (Ne.symm hc) t ht) op hasked

end Session

end Chip8
