import Chip8.Proofs.Command
import Chip8.Proofs.Randomness

/-!
# A reset is a fresh start

Running a machine dirties nearly all of it, and so does whoever reaches into it and
changes registers, memory or screen. A reset has to undo all of that. What it starts
from is kept apart and cannot be changed: the program as it was loaded, the settings,
and what the random bytes come from.

* `Deed` — someone asks for something, or he changes parts of the machine from outside
* `Machine.undergo`, `Session.undergo` — what a deed finds or is told, and what it leaves
* `Machine.descends_ending`, `Session.descends_ending` — what no deed changes
* `Session.undergo_continuing` — a session never looks at its log
* `Session.reset_fresh` — a session, or a machine, that was reset cannot be told from a
  new one
-/

namespace Chip8

/-! ## Deeds -/

/-- The parts of a machine that can be changed from outside. -/
structure Parts where
  /-- The store. -/
  memory : Memory
  /-- The screen. -/
  screen : Screen
  /-- The registers `V0` to `VF`. -/
  v : Registers
  /-- The index register. -/
  index : Int
  /-- The program counter. -/
  pc : Int
  /-- The stack of return addresses. -/
  stack : List Int
  /-- The delay timer. -/
  delay : Int
  /-- The sound timer. -/
  sound : Int

/-- What someone does with a machine or a session that he also can reach into. -/
inductive Deed (α : Type) where
  /-- He asks for something. -/
  | ask (a : α)
  /-- He looks at the parts of the machine and changes them. -/
  | poke (change : Parts → Parts)

namespace Deed

variable {σ α β : Type}

/-- What each deed of a sequence finds, and what each leaves. -/
def story (undergo : σ → Deed α → β × σ) : σ → List (Deed α) → List (β × σ)
  | _, [] => []
  | s, d :: deeds => undergo s d :: story undergo (undergo s d).2 deeds

/-- What a sequence of deeds leaves. -/
def ending (undergo : σ → Deed α → β × σ) (s : σ) (deeds : List (Deed α)) : σ :=
  deeds.foldl (fun s d => (undergo s d).2) s

/-- What every deed keeps, a sequence of deeds keeps. -/
theorem ending_induction {undergo : σ → Deed α → β × σ} {Inv : σ → Prop}
    (deed : ∀ s d, Inv s → Inv (undergo s d).2) {s : σ} (start : Inv s) (deeds : List (Deed α)) :
    Inv (ending undergo s deeds) := by
  induction deeds generalizing s with
  | nil => exact start
  | cons d deeds ih => exact ih (deed s d start)

/-- If a change of the state shows in what the deeds leave only, and always in the same way,
then it changes what a sequence of deeds leaves in this way. -/
theorem story_map {undergo : σ → Deed α → β × σ} {change : σ → σ}
    (h : ∀ s d, undergo (change s) d = ((undergo s d).1, change (undergo s d).2)) (s : σ)
    (deeds : List (Deed α)) :
    story undergo (change s) deeds = (story undergo s deeds).map fun (b, s) => (b, change s) := by
  induction deeds generalizing s with
  | nil => rfl
  | cons d deeds ih =>
    rw [story, story, List.map_cons, h s d]
    exact congrArg _ (ih (undergo s d).2)

end Deed

/-! ## Machines -/

namespace Machine

/-- The parts that can be changed from outside. -/
def parts (m : Machine) : Parts :=
  ⟨m.memory, m.screen, m.v, m.index, m.pc, m.stack, m.delay, m.sound⟩

/-- The machine with some parts changed from outside. -/
def poke (m : Machine) (change : Parts → Parts) : Machine :=
  let p := change m.parts
  { m with
    memory := p.memory, screen := p.screen, v := p.v, index := p.index, pc := p.pc
    stack := p.stack, delay := p.delay, sound := p.sound }

/-- The error of an operation or the parts that are found, and the machine after a deed. -/
def undergo (m : Machine) : Deed Operation → (Option CycleError ⊕ Parts) × Machine
  | .ask op => (.inl (m.apply op).1, (m.apply op).2)
  | .poke change => (.inr m.parts, m.poke change)

/-- The program and the origin of the random bytes outlast all deeds. -/
theorem descends_ending (m : Machine) (deeds : List (Deed Operation)) :
    m.Descends (Deed.ending undergo m deeds) := by
  refine Deed.ending_induction ?_ (Descends.refl m) deeds
  intro m' d h
  cases d with
  | ask op => exact h.trans (descends_after m' [op])
  | poke change => exact ⟨h.program, h.origin⟩

/-- Whatever became of a machine that started from a seed, a reset leads back to its start. -/
theorem Descends.reset_of_seed {m : Machine} {program : Program} {entropy : List UInt32}
    (h : (powerOn program (.ofEntropy entropy)).Descends m) :
    m.reset = powerOn program (.ofEntropy entropy) := by
  have horigin : m.source.origin = .inl entropy := by
    rw [h.origin, source_powerOn, RandomSource.ofEntropy, RandomSource.origin]
  rw [reset, h.program, program_powerOn, RandomSource.restart_of_seed horigin]

/-- With a stream instead of a seed, a reset leads back to the start but for the place where
the stream stands. -/
theorem Descends.reset_of_stream {m : Machine} {program : Program} {stream : Nat → UInt8}
    (h : (powerOn program (.ofStream stream)).Descends m) :
    ∃ position, m.source = .stream stream position ∧
      m.reset = powerOn program (.stream stream position) := by
  have horigin : m.source.origin = .inr stream := by
    rw [h.origin, source_powerOn, RandomSource.ofStream, RandomSource.origin]
  obtain ⟨hrestart, position, hsource⟩ := RandomSource.restart_of_stream horigin
  refine ⟨position, hsource, ?_⟩
  rw [reset, h.program, program_powerOn, hrestart, hsource]

end Machine

/-! ## Sessions -/

namespace Session

/-- The answer of a command or the parts of the machine that are found, and the session after
a deed. -/
def undergo (s : Session) : Deed Command → (Answer ⊕ Parts) × Session
  | .ask c => (.inl (s.apply c).1, (s.apply c).2)
  | .poke change => (.inr s.machine.parts, { s with machine := s.machine.poke change })

/-- A session whose log goes on after an earlier one. -/
def continuing (earlier : Array LogEntry) (s : Session) : Session :=
  { s with log := earlier ++ s.log }

/-! ### A session does not look at its log -/

variable (earlier : Array LogEntry) (s : Session)

@[simp] theorem machine_continuing : (s.continuing earlier).machine = s.machine := rfl

@[simp] theorem settings_continuing : (s.continuing earlier).settings = s.settings := rfl

@[simp] theorem keys_continuing : (s.continuing earlier).keys = s.keys := rfl

@[simp] theorem previousKeys_continuing :
    (s.continuing earlier).previousKeys = s.previousKeys := rfl

@[simp] theorem traced_continuing : (s.continuing earlier).traced = s.traced := rfl

@[simp] theorem crashed_continuing : (s.continuing earlier).crashed = s.crashed := rfl

@[simp] theorem halted_continuing : (s.continuing earlier).halted = s.halted := rfl

theorem resume_continuing : (s.continuing earlier).resume = s.resume.continuing earlier := rfl

theorem note_continuing (entry : LogEntry) :
    (s.continuing earlier).note entry = (s.note entry).continuing earlier := by
  simp only [note, continuing, Array.append_push]

theorem noteNext_continuing :
    (s.continuing earlier).noteNext = s.noteNext.continuing earlier := by
  unfold noteNext
  rw [traced_continuing, machine_continuing]
  by_cases htraced : s.traced = true
  · rw [if_pos htraced, if_pos htraced]
    rcases s.machine.pending with fault | ⟨w, i⟩
    · rfl
    · exact note_continuing earlier s _
  · rw [if_neg htraced, if_neg htraced]

theorem halt_continuing (fault : Fault) :
    (s.continuing earlier).halt fault = (s.halt fault).continuing earlier := by
  unfold halt
  by_cases hcrash : fault.isCrash = true
  · rw [if_pos hcrash, if_pos hcrash]
    exact note_continuing earlier { s with fault } _
  · rw [if_neg hcrash, if_neg hcrash]
    rfl

theorem step_continuing : (s.continuing earlier).step = s.step.continuing earlier := by
  by_cases hs : s.crashed = true
  · rw [step_of_crashed hs, step_of_crashed ((crashed_continuing earlier s).trans hs)]
  · unfold step
    rw [crashed_continuing, if_neg hs, if_neg hs]
    simp only [resume_continuing, noteNext_continuing, machine_continuing, keys_continuing,
      previousKeys_continuing]
    rcases s.resume.noteNext.machine.cycle _ _ with ⟨u, machine⟩ | ⟨fault, machine⟩
    · rfl
    · exact halt_continuing earlier { s.resume.noteNext with machine } fault

theorem steps_continuing (n : Nat) :
    (s.continuing earlier).steps n = (s.steps n).continuing earlier := by
  induction n generalizing s with
  | zero => rfl
  | succ n ih =>
    rw [steps, steps, step_continuing]
    cases hhalted : s.step.halted with
    | true => simp only [halted_continuing, hhalted, if_true]
    | false => simp only [halted_continuing, hhalted, Bool.false_eq_true, if_false, ih]

theorem frame_continuing : (s.continuing earlier).frame = s.frame.continuing earlier := by
  by_cases hs : s.crashed = true
  · rw [frame_of_crashed hs, frame_of_crashed ((crashed_continuing earlier s).trans hs)]
  · unfold frame
    rw [crashed_continuing, if_neg hs, if_neg hs, settings_continuing, steps_continuing]
    cases hhalted : (s.steps s.settings.cyclesPerFrame).halted with
    | true => simp only [halted_continuing, hhalted, if_true]
    | false =>
      simp only [halted_continuing, hhalted, Bool.false_eq_true, if_false]
      rfl

theorem runFrames_continuing (n : Nat) :
    (s.continuing earlier).runFrames n = (s.runFrames n).continuing earlier := by
  induction n generalizing s with
  | zero => rfl
  | succ n ih =>
    rw [runFrames, runFrames, frame_continuing]
    cases hhalted : s.frame.halted with
    | true => simp only [halted_continuing, hhalted, if_true]
    | false => simp only [halted_continuing, hhalted, Bool.false_eq_true, if_false, ih]

theorem reset_continuing : (s.continuing earlier).reset = s.reset.continuing earlier := by
  rw [reset, reset, machine_continuing]
  generalize s.machine.reset = m
  rfl

/-- A session answers a command in the same way whatever stands in its log, and it only adds
to it. -/
theorem apply_continuing (c : Command) :
    (s.continuing earlier).apply c = ((s.apply c).1, (s.apply c).2.continuing earlier) := by
  cases c with
  | setKey key pressed =>
    simp only [apply, setKey]
    by_cases hkey : 0 ≤ key ∧ key < 16
    · rw [dif_pos hkey, dif_pos hkey]
      rfl
    · rw [dif_neg hkey, dif_neg hkey]
  | releaseAll => rfl
  | step =>
    rw [apply, step_continuing]
    rfl
  | frame =>
    rw [apply, frame_continuing]
    rfl
  | run n =>
    have hrun : (s.continuing earlier).run n = (s.run n).continuing earlier :=
      runFrames_continuing earlier s.resume n.toNat
    rw [apply, hrun]
    rfl
  | reset =>
    rw [apply, reset_continuing]
    rfl

theorem undergo_continuing (d : Deed Command) :
    (s.continuing earlier).undergo d = ((s.undergo d).1, (s.undergo d).2.continuing earlier) := by
  cases d with
  | ask c =>
    rw [undergo, apply_continuing]
    rfl
  | poke change => rfl

/-! ### What no deed changes -/

variable {s : Session}

/-- A session is driven like another one, and its machine descends from the machine of that
one. -/
structure Descends (s s' : Session) : Prop where
  /-- The settings. -/
  settings : s'.settings = s.settings
  /-- Whether it traces. -/
  traced : s'.traced = s.traced
  /-- The machine. -/
  machine : s.machine.Descends s'.machine

theorem Descends.refl (s : Session) : s.Descends s := ⟨rfl, rfl, .refl s.machine⟩

theorem Descends.trans {s₁ s₂ : Session} (h₁ : s.Descends s₁) (h₂ : s₁.Descends s₂) :
    s.Descends s₂ :=
  ⟨h₂.settings.trans h₁.settings, h₂.traced.trans h₁.traced, h₁.machine.trans h₂.machine⟩

theorem setup_step (hs : s.crashed = false) :
    s.step.settings = s.settings ∧ s.step.traced = s.traced := by
  obtain ⟨log, hstep⟩ := exists_step hs
  rw [hstep]
  cases s.machine.cycle s.keys s.previousKeys with
  | ok u machine => exact ⟨rfl, rfl⟩
  | error f machine =>
    simp only
    split <;> exact ⟨rfl, rfl⟩

theorem setup_reset (s : Session) :
    s.reset.settings = s.settings ∧ s.reset.traced = s.traced := by
  rw [reset, ofMachine]
  exact ⟨rfl, rfl⟩

theorem setup_apply (s : Session) (c : Command) :
    (s.apply c).2.settings = s.settings ∧ (s.apply c).2.traced = s.traced := by
  let Kept (s' : Session) : Prop := s'.settings = s.settings ∧ s'.traced = s.traced
  show Kept (s.apply c).2
  refine apply_induction ?_ ?_ ?_ ?_ ?_ ⟨rfl, rfl⟩ c
  · exact fun s' keys h => h
  · exact fun s' h => h
  · exact fun s' hs h => ⟨(setup_step hs).1.trans h.1, (setup_step hs).2.trans h.2⟩
  · exact fun s' _ h => h
  · exact fun s' h => ⟨(setup_reset s').1.trans h.1, (setup_reset s').2.trans h.2⟩

/-- A command keeps the settings of a session, and its machine descends from the old one. -/
theorem descends_apply (s : Session) (c : Command) : s.Descends (s.apply c).2 where
  settings := (setup_apply s c).1
  traced := (setup_apply s c).2
  machine := by
    rw [machine_apply]
    exact s.machine.descends_after _

/-- What a session was started with outlasts all deeds. -/
theorem descends_ending (s : Session) (deeds : List (Deed Command)) :
    s.Descends (Deed.ending undergo s deeds) := by
  refine Deed.ending_induction ?_ (Descends.refl s) deeds
  intro s' d h
  cases d with
  | ask c => exact h.trans (descends_apply s' c)
  | poke change => exact ⟨h.settings, h.traced, ⟨h.machine.program, h.machine.origin⟩⟩

/-- Whatever became of a session that started from a seed, a reset leads back to its start,
but for the log. -/
theorem Descends.reset {settings : Settings} {program : Program} {entropy : List UInt32}
    {traced : Bool}
    (h : (ofMachine settings (.powerOn program (.ofEntropy entropy)) traced).Descends s) :
    s.reset =
      (ofMachine settings (.powerOn program (.ofEntropy entropy)) traced).continuing s.log := by
  have hmachine : s.machine.reset = .powerOn program (.ofEntropy entropy) :=
    h.machine.reset_of_seed
  rw [Session.reset, hmachine, h.settings, h.traced, continuing]
  generalize Machine.powerOn program (.ofEntropy entropy) = m
  simp only [ofMachine, Array.append_empty]

/-- **A reset is a fresh start.** A session or a machine is started with a seed. Then it goes
through any deeds, and it is reset. Whatever is done with it later, it answers and looks like
a new one with the same program and the same settings to which this is done; only the log
goes on. With a stream of bytes instead of a seed the same is true of a machine, but the
stream goes on where it stands. -/
theorem reset_fresh {settings : Settings} {seed : Seed} {bytes : Array UInt8} {entropy : Nat}
    {traced : Bool} {fresh : Session} (hseed : settings.seed = some seed)
    (hstart : start settings bytes entropy traced = .ok fresh) :
    (∀ entropy', start settings bytes entropy' traced = .ok fresh ∧
      Machine.boot bytes (some seed) entropy' = .ok fresh.machine) ∧
    (∀ past future, let s := Deed.ending undergo fresh past
      s.reset = fresh.continuing s.log ∧
      Deed.story undergo s.reset future =
        (Deed.story undergo fresh future).map fun (found, t) => (found, t.continuing s.log)) ∧
    (∀ past future, let m := Deed.ending Machine.undergo fresh.machine past
      m.reset = fresh.machine ∧
      Deed.story Machine.undergo m.reset future =
        Deed.story Machine.undergo fresh.machine future) ∧
    ∀ program stream past future,
      let m := Deed.ending Machine.undergo (.powerOn program (.ofStream stream)) past
      ∃ position, m.source = .stream stream position ∧
        m.reset = .powerOn program (.stream stream position) ∧
        Deed.story Machine.undergo m.reset future =
          Deed.story Machine.undergo (.powerOn program (.stream stream position)) future := by
  obtain ⟨m, hboot, rfl⟩ := start_eq_ok_iff.1 hstart
  rw [hseed] at hboot
  obtain ⟨program, -, -, hm⟩ := Machine.boot_eq_ok_iff.1 hboot
  rw [Option.getD_some] at hm
  subst hm
  refine ⟨?_, ?_, ?_, ?_⟩
  · intro entropy'
    -- with a seed, what the system offers instead of one is not looked at
    have hboot' : Machine.boot bytes (some seed) entropy' =
        .ok (.powerOn program (.ofEntropy seed.entropy)) := hboot
    exact ⟨start_eq_ok_iff.2 ⟨_, by rw [hseed, hboot'], rfl⟩, hboot'⟩
  · intro past future s
    have hreset := Descends.reset (descends_ending
      (ofMachine settings (.powerOn program (.ofEntropy seed.entropy)) traced) past)
    refine ⟨hreset, ?_⟩
    rw [hreset]
    exact Deed.story_map (undergo_continuing s.log) _ future
  · intro past future m
    have hreset := (Machine.descends_ending
      (.powerOn program (.ofEntropy seed.entropy)) past).reset_of_seed
    exact ⟨hreset, congrArg (Deed.story Machine.undergo · future) hreset⟩
  · intro program stream past future m
    obtain ⟨position, hsource, hreset⟩ := (Machine.descends_ending _ past).reset_of_stream
    exact ⟨position, hsource, hreset, by rw [hreset]⟩

/-- A session that ran, was tampered with and crashed starts afresh. -/
theorem reset_fresh_tampered :
    let settings : Settings := { Settings.standard with seed := some (.number 7) }
    let program : Program := ⟨#[0xC0, 0xFF], by decide⟩
    let fresh := ofMachine settings (.powerOn program (.ofEntropy (Seed.number 7).entropy)) false
    let s := Deed.ending undergo fresh
      [.ask .step, .poke fun p => { p with memory := .load .empty, pc := -1 }, .ask .frame]
    start settings program.bytes 0 false = .ok fresh ∧
      ∀ future, Deed.story undergo s.reset future =
        (Deed.story undergo fresh future).map fun (found, t) => (found, t.continuing s.log) := by
  intro settings program fresh s
  have hprogram : Program.ofBytes program.bytes = .ok program := dif_pos program.fits
  have hboot : Machine.boot program.bytes settings.seed 0 =
      .ok (.powerOn program (.ofEntropy (Seed.number 7).entropy)) :=
    Machine.boot_eq_ok_iff.2 ⟨program, hprogram, by decide, rfl⟩
  have hstart : start settings program.bytes 0 false = .ok fresh :=
    start_eq_ok_iff.2 ⟨_, hboot, rfl⟩
  exact ⟨hstart, fun future => ((reset_fresh rfl hstart).2.1 _ future).2⟩

end Session

end Chip8
