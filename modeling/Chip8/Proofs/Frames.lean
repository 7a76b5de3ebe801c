import Chip8.Proofs.Bounds
import Chip8.Proofs.Command
import Chip8.Proofs.Impasse
import Mathlib.Data.List.DropRight

/-!
# The accounts of a session

A session counts its frames, and its machine counts ticks and instructions. These counts
belong together: a completed frame is one tick and as many instructions as the settings say.
Only a frame in which the machine crashes falls short, and then the session counts no more
until it is reset.

The accounts are kept by frames. A step that is asked for on its own is an instruction
outside of every frame, and spoils them.

* `Session.succeeded`, `Session.lastFrame` — the cycles that succeeded, and the moves since
  a frame began
* `Session.Ran`, `Session.ran_steps` — what cycles in a row do to the counts
* `Session.Accounted` — the accounts, with the crash of the last frame
* `Session.Accounted.frame`, `Session.Accounted.after` — frames and other commands keep them
* `Session.frames_accounted` — the accounts of a session after any commands but steps
-/

namespace Chip8

namespace Machine

/-- What an instruction does counts neither instructions nor ticks. The instruction itself is
counted by its cycle. -/
theorem counts_perform (m : Machine) (i : Instruction) :
    (m.perform i).counters.instructions = m.counters.instructions ∧
      (m.perform i).counters.ticks = m.counters.ticks := by
  cases i with
  | loadBlock x =>
    rw [perform, onward, pastBlock]
    exact ⟨rfl, rfl⟩
  | awaitKey x =>
    simp only [perform]
    split <;> exact ⟨rfl, rfl⟩
  | _ => exact ⟨rfl, rfl⟩

end Machine

namespace Session

/-! ## What is counted -/

/-- Whether a move is a cycle that does not fail. -/
def Moment.succeeded (t : Moment) : Bool := t.move = .cycle && t.session.nextCycle.error.isNone

/-- The number of cycles among moves that did not fail. -/
def succeeded (ts : List Moment) : Nat := ts.countP Moment.succeeded

/-- The moves since a frame began. -/
def lastFrame (ts : List Moment) : List Moment := ts.rtakeWhile (·.move ≠ .begin)

/-- When a frame begins, its moves are counted from there. -/
theorem lastFrame_append_begin (earlier : List Moment) (s : Session) {ts : List Moment}
    (h : ∀ t ∈ ts, t.move ≠ .begin) : lastFrame (earlier ++ ⟨.begin, s⟩ :: ts) = ts := by
  induction ts using List.reverseRecOn with
  | nil => exact List.rtakeWhile_concat_neg _ _ _ (by simp)
  | append_singleton ts t ih =>
    rw [List.forall_mem_append, List.forall_mem_singleton] at h
    rw [← List.cons_append, ← List.append_assoc, lastFrame,
      List.rtakeWhile_concat_pos _ _ _ (by simpa using h.2)]
    exact congrArg (· ++ [t]) (ih h.1)

variable {s t : Session}

/-! ## Cycles -/

/-- What cycles in a row of which `count` succeed leave of a session. -/
structure Ran (count : Nat) (s t : Session) : Prop where
  /-- The settings are kept. -/
  settings : t.settings = s.settings
  /-- No frame is completed. -/
  frames : t.frames = s.frames
  /-- The timers do not tick. -/
  ticks : t.machine.counters.ticks = s.machine.counters.ticks
  /-- Every cycle that succeeds is an instruction. -/
  instructions : t.machine.counters.instructions = s.machine.counters.instructions + count
  /-- The machine stays within its bounds. -/
  bounded : t.machine.Bounded
  /-- Nothing interrupts the session. -/
  interruption : t.interruption = none

theorem Ran.trans {a b : Nat} {u : Session} (h₁ : Ran a s t) (h₂ : Ran b t u) :
    Ran (a + b) s u where
  settings := h₂.settings.trans h₁.settings
  frames := h₂.frames.trans h₁.frames
  ticks := h₂.ticks.trans h₁.ticks
  instructions := by rw [h₂.instructions, h₁.instructions, Nat.add_assoc]
  bounded := h₂.bounded
  interruption := h₂.interruption

/-- A step of a machine that nobody tampered with succeeds, or it stops the session with a
fault of the program. -/
theorem ran_step (hs : s.crashed = false) (hbounded : s.machine.Bounded) :
    (s.nextCycle.error = none ∧ s.step.fault = none ∧ Ran 1 s s.step) ∨
      ∃ f, s.nextCycle.error = some (.fault f) ∧ s.step.fault = some f ∧ f.isCrash = true ∧
        Ran 0 s s.step := by
  have hall : s.nextCycle.ShowsAll := ⟨Keypad.length_states _, Keypad.length_states _⟩
  have herror := Machine.error_eq_impasse hall
  cases himpasse : s.machine.impasse with
  | none =>
    refine .inl ⟨herror.trans (by rw [nextCycle, himpasse]; rfl), ?_⟩
    obtain ⟨w, i, hpending, hrefusal, hcycle⟩ :=
      Machine.cycle_of_impasse_eq_none himpasse s.keys s.previousKeys
    obtain ⟨log, hstep⟩ := exists_step hs
    obtain ⟨hinstructions, hticks⟩ :=
      Machine.counts_perform (s.machine.latch s.keys s.previousKeys) i
    rw [hcycle] at hstep
    rw [hstep]
    refine ⟨crashed_eq_false_iff.1 hs, rfl, rfl, hticks, congrArg (· + 1) hinstructions, ?_, rfl⟩
    exact ((hbounded.latch s.keys s.previousKeys).perform
      ((Machine.pending_latch _ _ _).trans hpending)
      ((Machine.refusal_latch _ _ _ i).trans hrefusal)).counted
  | some f =>
    have hcrash := Machine.isCrash_of_impasse hbounded.delay himpasse
    obtain ⟨keys, previous, log, hstep⟩ := Machine.step_of_impasse hs hcrash himpasse
    refine .inr ⟨f, herror.trans (by rw [nextCycle, himpasse]; rfl), ?_⟩
    rw [hstep]
    exact ⟨rfl, hcrash, rfl, rfl, rfl, rfl, hbounded.latch keys previous, rfl⟩

/-- Cycles in a row all succeed, or the first that does not stops the session. -/
theorem ran_steps (n : Nat) (hrunning : s.fault = none) (hinterruption : s.interruption = none)
    (hbounded : s.machine.Bounded) :
    Ran (succeeded (s.chronicleSteps n)) s (s.steps n) ∧
      ((s.steps n).fault = none ∧ succeeded (s.chronicleSteps n) = n ∨
        ∃ f, (s.steps n).fault = some f ∧ f.isCrash = true ∧
          succeeded (s.chronicleSteps n) < n) := by
  induction n generalizing s with
  | zero => exact ⟨⟨rfl, rfl, rfl, rfl, hbounded, hinterruption⟩, .inl ⟨hrunning, rfl⟩⟩
  | succ n ih =>
    have hs : s.crashed = false := crashed_eq_false_iff.2 hrunning
    rcases ran_step hs hbounded with ⟨hok, hnext, hran⟩ | ⟨f, herror, hfault, hcrash, hran⟩
    · have hhalted : s.step.halted = false := halted_eq_false_iff.2 ⟨hnext, hran.interruption⟩
      have hcount : succeeded (s.chronicleSteps (n + 1)) =
          1 + succeeded (s.step.chronicleSteps n) := by
        rw [chronicleSteps, if_neg (by simp [hs]), if_neg (by simp [hhalted]), Nat.add_comm]
        exact List.countP_cons_of_pos (by simp [Moment.succeeded, hok])
      obtain ⟨hrest, hend⟩ := ih hnext hran.interruption hran.bounded
      rw [steps, hcount]
      simp only [hhalted, Bool.false_eq_true, if_false]
      refine ⟨hran.trans hrest, hend.imp ?_ ?_⟩
      · rintro ⟨hlast, hall⟩
        exact ⟨hlast, by omega⟩
      · rintro ⟨f, hlast, hcrash, hsome⟩
        exact ⟨f, hlast, hcrash, by omega⟩
    · have hhalted : s.step.halted = true := halted_of_fault hfault
      have hcount : succeeded (s.chronicleSteps (n + 1)) = 0 := by
        rw [chronicleSteps, if_neg (by simp [hs]), if_pos hhalted]
        exact List.countP_eq_zero.2 (by simp [Moment.succeeded, herror])
      rw [steps, hcount]
      simp only [hhalted, if_true]
      exact ⟨hran, .inr ⟨f, hfault, hcrash, Nat.succ_pos n⟩⟩

/-! ## Frames -/

/-- The accounts of a session that has frames of `rate` cycles and made the moves `ts`. -/
structure Accounted (rate : Nat) (ts : List Moment) (s : Session) : Prop where
  /-- The settings say how many cycles a frame has. -/
  settings : s.settings.cyclesPerFrame = rate
  /-- The machine is within its bounds. -/
  bounded : s.machine.Bounded
  /-- Nothing interrupts the session. -/
  interruption : s.interruption = none
  /-- Each completed frame is one tick. -/
  ticks : s.machine.counters.ticks = s.frames
  /-- Unless the machine crashed, there are no instructions but those of completed frames. -/
  running : s.fault = none → s.machine.counters.instructions = s.frames * rate
  /-- If it crashed, there are those of the last frame besides, which fell short. -/
  stopped : ∀ f, s.fault = some f → f.isCrash = true ∧
    s.machine.counters.instructions = s.frames * rate + succeeded (lastFrame ts) ∧
    succeeded (lastFrame ts) < rate

variable {rate : Nat} {ts : List Moment}

theorem accounted_ofMachine (settings : Settings) (program : Program) (source : RandomSource)
    (traced : Bool) (ts : List Moment) :
    Accounted settings.cyclesPerFrame ts
      (ofMachine settings (.powerOn program source) traced) where
  settings := rfl
  bounded := Machine.bounded_powerOn program source
  interruption := rfl
  ticks := rfl
  running _ := (Nat.zero_mul _).symm
  stopped := by
    intro f hf
    cases hf

namespace Accounted

/-- A frame keeps the accounts. -/
theorem frame (h : Accounted rate ts s) : Accounted rate (ts ++ s.chronicleFrame) s.frame := by
  cases hfault : s.fault with
  | some f =>
    have hs : s.crashed = true := by rw [crashed, hfault]; rfl
    rw [frame_of_crashed hs, chronicleFrame, if_pos hs, List.append_nil]
    exact h
  | none =>
    have hs : s.crashed = false := crashed_eq_false_iff.2 hfault
    obtain ⟨hran, hend⟩ := ran_steps rate hfault h.interruption h.bounded
    have hsettings : (s.steps rate).settings.cyclesPerFrame = rate :=
      (congrArg Settings.cyclesPerFrame hran.settings).trans h.settings
    have hinstructions : (s.steps rate).machine.counters.instructions =
        s.frames * rate + succeeded (s.chronicleSteps rate) := by
      rw [hran.instructions, h.running hfault]
    have hticks : (s.steps rate).machine.counters.ticks = (s.steps rate).frames := by
      rw [hran.ticks, h.ticks, hran.frames]
    rw [Session.frame, chronicleFrame, if_neg (by simp [hs]), if_neg (by simp [hs]), h.settings]
    rcases hend with ⟨hlast, hall⟩ | ⟨f, hlast, hcrash, hsome⟩
    · -- every cycle succeeded, and the frame is completed
      have hhalted : (s.steps rate).halted = false :=
        halted_eq_false_iff.2 ⟨hlast, hran.interruption⟩
      have htotal : (s.steps rate).endFrame.machine.counters.instructions =
          (s.steps rate).endFrame.frames * rate :=
        calc (s.steps rate).machine.counters.instructions
            = s.frames * rate + rate := by rw [hinstructions, hall]
          _ = ((s.steps rate).frames + 1) * rate := by rw [hran.frames, Nat.succ_mul]
      simp only [hhalted, Bool.false_eq_true, if_false]
      refine ⟨hsettings, hran.bounded.tick, hran.interruption, congrArg (· + 1) hticks,
        fun _ => htotal, ?_⟩
      intro f hf
      cases hlast.symm.trans hf
    · -- the cycle that failed is the last move of the frame
      have hhalted : (s.steps rate).halted = true := halted_of_fault hlast
      have hnobegin : ∀ t ∈ s.chronicleSteps rate, t.move ≠ .begin := by
        intro t ht
        rw [move_steps rate s t ht]
        decide
      simp only [hhalted, if_true, List.append_nil]
      refine ⟨hsettings, hran.bounded, hran.interruption, hticks, ?_, ?_⟩
      · intro hf
        cases hlast.symm.trans hf
      · intro g hg
        cases hlast.symm.trans hg
        rw [lastFrame_append_begin ts s hnobegin, hran.frames]
        exact ⟨hcrash, hinstructions, hsome⟩

theorem runFrames (h : Accounted rate ts s) (n : Nat) :
    Accounted rate (ts ++ s.chronicleFrames n) (s.runFrames n) := by
  induction n generalizing s ts with
  | zero =>
    rw [chronicleFrames, List.append_nil]
    exact h
  | succ n ih =>
    rw [Session.runFrames, chronicleFrames, ← List.append_assoc]
    cases s.frame.halted with
    | true =>
      simp only [if_true, List.append_nil]
      exact h.frame
    | false =>
      simp only [Bool.false_eq_true, if_false]
      exact ih h.frame

/-- A reset closes the accounts and opens new ones. -/
theorem reset (h : Accounted rate ts s) (ts' : List Moment) : Accounted rate ts' s.reset where
  settings := by
    rw [Session.reset, ofMachine]
    exact h.settings
  bounded := by
    rw [Session.reset, ofMachine]
    exact Machine.bounded_powerOn _ _
  interruption := by rw [Session.reset, ofMachine]
  ticks := by rw [Session.reset, ofMachine, Machine.reset, Machine.powerOn]
  running := by
    rw [Session.reset, ofMachine, Machine.reset, Machine.powerOn]
    exact fun _ => (Nat.zero_mul _).symm
  stopped := by
    rw [Session.reset, ofMachine]
    intro f hf
    cases hf

/-- Every command but a step keeps the accounts. -/
theorem apply (h : Accounted rate ts s) {c : Command} (hc : c ≠ .step) :
    Accounted rate (ts ++ s.chronicle c) (s.apply c).2 := by
  cases c with
  | step => exact absurd rfl hc
  | setKey key pressed =>
    rw [chronicle, List.append_nil]
    simp only [Session.apply, setKey]
    by_cases hkey : 0 ≤ key ∧ key < 16
    · rw [dif_pos hkey]
      exact { h with }
    · rw [dif_neg hkey]
      exact h
  | releaseAll =>
    rw [chronicle, List.append_nil]
    exact { h with }
  | frame => exact h.frame
  | run n =>
    have hresume : Accounted rate ts s.resume := { h with interruption := rfl }
    exact hresume.runFrames n.toNat
  | reset => exact h.reset _

theorem after (h : Accounted rate ts s) {commands : List Command}
    (hcommands : .step ∉ commands) :
    Accounted rate (ts ++ s.history commands) (s.after commands) := by
  induction commands generalizing s ts with
  | nil =>
    rw [history, List.append_nil]
    exact h
  | cons c commands ih =>
    simp only [List.mem_cons, not_or] at hcommands
    obtain ⟨hc, hrest⟩ := hcommands
    rw [history, ← List.append_assoc]
    exact ih (h.apply (Ne.symm hc)) hrest

/-- No command but a step reports an error, unless it is about a key that the pad has not. Then
it changes nothing. -/
theorem answer (h : Accounted rate ts s) {c : Command} (hc : c ≠ .step) :
    (s.apply c).1.isError = false ∨
      ∃ key pressed, c = .setKey key pressed ∧ ¬(0 ≤ key ∧ key < 16) ∧
        s.apply c = (.noSuchKey ⟨key⟩, s) := by
  have hnext := (h.apply hc).interruption
  cases c with
  | step => exact absurd rfl hc
  | setKey key pressed =>
    simp only [Session.apply, setKey]
    by_cases hkey : 0 ≤ key ∧ key < 16
    · rw [dif_pos hkey]
      exact .inl rfl
    · rw [dif_neg hkey]
      exact .inr ⟨key, pressed, rfl, hkey, rfl⟩
  | releaseAll | reset => exact .inl rfl
  | frame =>
    refine .inl ?_
    rw [Session.apply] at hnext ⊢
    rw [Session.answer, hnext]
    rfl
  | run n =>
    refine .inl ?_
    rw [Session.apply] at hnext ⊢
    rw [Session.answer, hnext]
    rfl

end Accounted

/-- **The accounts of a session.** After any commands but single steps, the timers of the
machine ticked once for each completed frame. If the machine did not crash, it carried out
exactly the instructions of the completed frames. If it did, then it was a fault of the program,
and besides the instructions of the completed frames there are those cycles of the last frame
that succeeded, which are fewer than a frame has. And whatever command comes next, if it is no
step then the only error that it can report is that there is no such key, and then it changes
nothing. -/
theorem frames_accounted {settings : Settings} {bytes : Array UInt8} {entropy : Nat}
    {traced : Bool} {fresh : Session} (hstart : start settings bytes entropy traced = .ok fresh)
    {commands : List Command} (hcommands : .step ∉ commands) :
    let s := fresh.after commands
    let rate := settings.cyclesPerFrame
    let instructions := s.machine.counters.instructions
    s.machine.counters.ticks = s.frames ∧
      (s.crashed = false → s.fault = none ∧ instructions = s.frames * rate) ∧
      (s.crashed = true → ∃ f, s.fault = some f ∧ f.isCrash = true ∧
        s.frames * rate ≤ instructions ∧ instructions < (s.frames + 1) * rate ∧
        instructions - s.frames * rate = succeeded (lastFrame (fresh.history commands))) ∧
      ∀ c, c ≠ .step → (s.apply c).1.isError = false ∨
        ∃ key pressed, c = .setKey key pressed ∧ ¬(0 ≤ key ∧ key < 16) ∧
          s.apply c = (.noSuchKey ⟨key⟩, s) := by
  intro s rate instructions
  obtain ⟨m, hboot, rfl⟩ := start_eq_ok_iff.1 hstart
  obtain ⟨program, -, -, rfl⟩ := Machine.boot_eq_ok_iff.1 hboot
  have hopened := accounted_ofMachine settings program
    (.ofEntropy (settings.seed.getD (.number entropy)).entropy) traced []
  have h : Accounted rate
      (history (ofMachine settings (.powerOn program
        (.ofEntropy (settings.seed.getD (.number entropy)).entropy)) traced) commands) s :=
    hopened.after hcommands
  refine ⟨h.ticks, ?_, ?_, fun c hc => h.answer hc⟩
  · intro hs
    exact ⟨crashed_eq_false_iff.1 hs, h.running (crashed_eq_false_iff.1 hs)⟩
  · intro hs
    obtain ⟨f, hfault⟩ := Option.isSome_iff_exists.1 hs
    obtain ⟨hcrash, htotal, hless⟩ := h.stopped f hfault
    refine ⟨f, hfault, hcrash, ?_, ?_, ?_⟩
    · omega
    · rw [Nat.succ_mul]
      omega
    · omega

/-- A program that begins with a call of machine code does not complete its first frame. -/
theorem frames_accounted_machine_code :
    let program : Program := ⟨#[0x0A, 0xBC], by decide⟩
    let fresh := ofMachine .standard (.powerOn program (.ofEntropy (Seed.number 1).entropy)) true
    let s := fresh.after [.frame]
    let instructions := s.machine.counters.instructions
    start .standard program.bytes 1 true = .ok fresh ∧ s.crashed = true ∧
      ∃ f, s.fault = some f ∧ f.isCrash = true ∧
        s.frames * 10 ≤ instructions ∧ instructions < (s.frames + 1) * 10 ∧
        instructions - s.frames * 10 = succeeded (lastFrame (fresh.history [.frame])) := by
  intro program fresh s instructions
  have hprogram : Program.ofBytes program.bytes = .ok program := dif_pos program.fits
  have hboot : Machine.boot program.bytes Settings.standard.seed 1 =
      .ok (.powerOn program (.ofEntropy (Seed.number 1).entropy)) :=
    Machine.boot_eq_ok_iff.2 ⟨program, hprogram, by decide, rfl⟩
  have hstart : start .standard program.bytes 1 true = .ok fresh :=
    start_eq_ok_iff.2 ⟨_, hboot, rfl⟩
  have hmemory : fresh.machine.memory = .load program := by rfl
  have hpending : fresh.machine.pending = .ok (⟨0x0, 0xA, 0xB, 0xC⟩, .sys 0xABC) :=
    Machine.pending_eq_ok_iff.2
      ⟨by decide, (Machine.word_of_load (k := 0) hmemory rfl).trans (by decide), rfl⟩
  have himpasse : fresh.machine.impasse = some (.unknownSubroutine 0xABC) :=
    Machine.impasse_eq_some_iff.2 (.inr ⟨_, _, hpending, rfl⟩)
  obtain ⟨keys, previous, log, hstep⟩ := Machine.step_of_impasse (s := fresh) rfl rfl himpasse
  have hhalted : fresh.step.halted = true := halted_of_fault (congrArg fault hstep)
  have hframe : fresh.frame = fresh.step := by
    have hsteps : fresh.steps 10 = fresh.step := by
      rw [steps]
      simp only [hhalted, if_true]
    have hrate : fresh.settings.cyclesPerFrame = 10 := rfl
    rw [frame, if_neg (by decide), hrate]
    simp only [hsteps, hhalted, if_true]
  have hlast (t : Session) : t.after [.frame] = t.frame := rfl
  have hs : (fresh.after [.frame]).crashed = true := by
    rw [hlast fresh, hframe, hstep]
    rfl
  exact ⟨hstart, hs, (frames_accounted hstart (by decide)).2.2.1 hs⟩

end Session

end Chip8
