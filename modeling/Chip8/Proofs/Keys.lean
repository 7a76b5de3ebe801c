import Chip8.Proofs.History

/-!
# The edges of keys

`FX0A` waits for a key to go up. It is told two states of the keypad, the keys now and the keys
before, and a session shows it the keys at the end of the last completed frame as those before.
So what counts is how a key stands now and how it stood when that frame ended. How often it was
pressed and released in between does not matter, and a frame that does not end leaves the keys
before as they were.

* `Keypad.Released` — a key was down before and is up now
* `Machine.Awaits`, `Machine.awaits_perform` — what `FX0A` makes of the keys before and now
* `Session.frameEnds`, `Session.lastKeys` — the keys with which frames ended
* `Session.Remembers`, `Session.remembers_lasts` — a session knows the keys of its last frame
* `Session.key_edges` — what a cycle on `FX0A` does, whatever a session was asked for
-/

namespace Chip8

/-! ## Released keys -/

namespace Keypad

/-- A key was down before and is up now. -/
def Released (before now : Keypad) (key : Key) : Prop :=
  before.isDown key = true ∧ now.isDown key = false

instance (before now : Keypad) (key : Key) : Decidable (Released before now key) :=
  inferInstanceAs (Decidable (_ ∧ _))

/-- A key is the lowest of those that were down before and are up now. -/
def LowestReleased (before now : Keypad) (key : Key) : Prop :=
  Released before now key ∧ ∀ other < key, ¬Released before now other

instance (before now : Keypad) (key : Key) : Decidable (LowestReleased before now key) :=
  inferInstanceAs (Decidable (_ ∧ _))

variable {before now : Keypad} {key : Key}

theorem released_iff : before.isDown key && !now.isDown key ↔ Released before now key := by
  rw [Released, Bool.and_eq_true, Bool.not_eq_true']

theorem LowestReleased.unique {other : Key} (h : LowestReleased before now key)
    (h' : LowestReleased before now other) : key = other := by
  have hnot : ¬other < key := fun hlt => h.2 other hlt h'.1
  have hnot' : ¬key < other := fun hlt => h'.2 key hlt h.1
  exact Fin.le_antisymm (Fin.not_lt.1 hnot) (Fin.not_lt.1 hnot')

theorem firstReleased?_eq_none_iff :
    firstReleased? before now = none ↔ ∀ key, ¬Released before now key := by
  simp only [firstReleased?, List.find?_eq_none, List.mem_finRange, true_imp_iff, released_iff]

/-- The key that is found is the lowest one that was released. -/
theorem lowest_of_firstReleased? (h : firstReleased? before now = some key) :
    LowestReleased before now key := by
  obtain ⟨hkey, earlier, later, hsplit, hnot⟩ := List.find?_eq_some_iff_append.1 h
  refine ⟨released_iff.1 hkey, ?_⟩
  intro other hlt hother
  have hsorted : (earlier ++ key :: later).Pairwise (· < ·) :=
    hsplit ▸ List.pairwise_lt_finRange 16
  have hall : other ∈ earlier ++ key :: later := hsplit ▸ List.mem_finRange other
  rcases List.mem_append.1 hall with hearlier | hlater
  · have hmissed := hnot other hearlier
    rw [released_iff.2 hother] at hmissed
    exact absurd hmissed (by decide)
  · -- no key that stands later is lower
    have hle : key ≤ other := by
      rcases List.mem_cons.1 hlater with rfl | hrest
      · exact Fin.le_refl _
      · exact Fin.le_of_lt
          ((List.pairwise_cons.1 (List.pairwise_append.1 hsorted).2.1).1 other hrest)
    exact Fin.not_lt.2 hle hlt

end Keypad

/-! ## Waiting -/

namespace Machine

theorem pending_congr {m m' : Machine} (hmemory : m'.memory = m.memory) (hpc : m'.pc = m.pc) :
    m'.pending = m.pending := by
  rw [pending_eq, pending_eq, word, word, hmemory, hpc]

/-- While no key is released, `FX0A` changes nothing but the number of cycles spent waiting. -/
theorem perform_awaitKey {m : Machine} {x : Register}
    (h : Keypad.firstReleased? m.previousKeys m.keys = none) :
    m.perform (.awaitKey x) =
      { m with counters := { m.counters with keyWaits := m.counters.keyWaits + 1 } } := by
  simp only [perform, h]

/-- What a cycle on `FX0A` makes of a machine, given the keys before and now. -/
structure Awaits (x : Register) (before now : Keypad) (m m' : Machine) : Prop where
  /-- The wait is over exactly if some key was released. -/
  ends : m'.pc = m.pc + 2 ↔ ∃ key, Keypad.Released before now key
  /-- If so, the lowest such key is stored, and the machine goes on. -/
  stored : ∀ key, Keypad.LowestReleased before now key →
    m'.pc = m.pc + 2 ∧ m'.v = (m.setReg x (UInt8.ofNat key.val)).v ∧
      m'.counters = { m.counters with instructions := m.counters.instructions + 1 }
  /-- If not, the machine stays where it is, keeps its registers, and counts a cycle of waiting. -/
  waiting : (∀ key, ¬Keypad.Released before now key) →
    m'.pc = m.pc ∧ m'.v = m.v ∧ m'.index = m.index ∧
      m'.counters =
        { m.counters with
          keyWaits := m.counters.keyWaits + 1, instructions := m.counters.instructions + 1 }
  /-- A key that ends the wait was down before and is up now. -/
  released : ∀ key : Key, m'.pc = m.pc + 2 → m'.reg x = UInt8.ofNat key.val →
    before.isDown key = true ∧ now.isDown key = false

theorem key_ofNat_inj {key other : Key} (h : UInt8.ofNat key.val = UInt8.ofNat other.val) :
    key = other := by
  have hval := congrArg UInt8.toNat h
  rw [UInt8.toNat_ofNat', UInt8.toNat_ofNat', Nat.mod_eq_of_lt (by omega),
    Nat.mod_eq_of_lt (by omega)] at hval
  exact Fin.ext hval

theorem awaits_perform (m : Machine) (x : Register) (before now : Keypad) :
    Awaits x before now m ((m.latch now before).perform (.awaitKey x)).counted := by
  simp only [perform, latch]
  cases hfirst : Keypad.firstReleased? before now with
  | none =>
    have hnone := Keypad.firstReleased?_eq_none_iff.1 hfirst
    have hstays : m.pc ≠ m.pc + 2 := by omega
    refine ⟨⟨fun hpc => absurd hpc hstays, ?_⟩, ?_, ?_, ?_⟩
    · rintro ⟨key, hkey⟩
      exact absurd hkey (hnone key)
    · intro key hkey
      exact absurd hkey.1 (hnone key)
    · exact fun _ => ⟨rfl, rfl, rfl, rfl⟩
    · intro key hpc _
      exact absurd hpc hstays
  | some first =>
    have hfirst := Keypad.lowest_of_firstReleased? hfirst
    refine ⟨⟨fun _ => ⟨first, hfirst.1⟩, fun _ => rfl⟩, ?_, ?_, ?_⟩
    · intro key hkey
      cases hkey.unique hfirst
      exact ⟨rfl, rfl, rfl⟩
    · intro hnone
      exact absurd hfirst.1 (hnone first)
    · intro key _ hreg
      have hstored : UInt8.ofNat first.val = UInt8.ofNat key.val := by
        rw [← hreg]
        simp [reg, counted, onward, setReg]
      cases key_ofNat_inj hstored
      exact hfirst.1

end Machine

/-! ## The keys of the last frame -/

namespace Session

/-- The keys with which frames ended, after one more move. -/
def Moment.addEnd (ends : List Keypad) (t : Moment) : List Keypad :=
  match t.move with
  | .finish => t.session.keys :: ends
  | .reset => []
  | .begin | .cycle => ends

/-- The keys with which each frame ended that was completed since the last reset, the latest
first. -/
def frameEnds (ts : List Moment) : List Keypad := ts.foldl Moment.addEnd []

/-- The keys with which the last completed frame ended; all up if there was none since the last
reset. -/
def lastKeys (ts : List Moment) : Keypad := (frameEnds ts).headD .released

@[simp] theorem frameEnds_concat (ts : List Moment) (t : Moment) :
    frameEnds (ts ++ [t]) = t.addEnd (frameEnds ts) :=
  List.foldl_append

variable {s : Session} {past : List Moment}

/-- A session knows how many frames were completed, and the keys with which the last one ended. -/
structure Remembers (past : List Moment) (s : Session) : Prop where
  /-- The keys. -/
  previousKeys : s.previousKeys = lastKeys past
  /-- The number of frames. -/
  frames : s.frames = (frameEnds past).length

/-- Whatever a session is asked for, it remembers its frames. -/
theorem remembers_lasts (commands : List Command) : Lasting commands Remembers where
  press _ _ _ _ _ _ h := ⟨h.previousKeys, h.frames⟩
  releaseAll _ _ h := ⟨h.previousKeys, h.frames⟩
  resume _ _ h := ⟨h.previousKeys, h.frames⟩
  begin past s h := by
    refine ⟨?_, ?_⟩
    · rw [lastKeys, frameEnds_concat]
      exact h.previousKeys
    · rw [frameEnds_concat]
      exact h.frames
  cycle past s hs h := by
    obtain ⟨-, hprevious, hframes⟩ := frames_step hs
    refine ⟨?_, ?_⟩
    · rw [hprevious, lastKeys, frameEnds_concat]
      exact h.previousKeys
    · rw [hframes, frameEnds_concat]
      exact h.frames
  finish past s _ h := by
    refine ⟨?_, ?_⟩
    · rw [lastKeys, frameEnds_concat]
      rfl
    · rw [frameEnds_concat]
      exact congrArg (· + 1) h.frames
  reset _ past s _ := by
    refine ⟨?_, ?_⟩
    · rw [lastKeys, frameEnds_concat, Session.reset, ofMachine]
      rfl
    · rw [frameEnds_concat, Session.reset, ofMachine]
      rfl

theorem remembers_start {settings : Settings} {bytes : Array UInt8} {entropy : Nat}
    {traced : Bool} {fresh : Session} (hstart : start settings bytes entropy traced = .ok fresh) :
    Remembers [] fresh := by
  obtain ⟨m, -, rfl⟩ := start_eq_ok_iff.1 hstart
  exact ⟨rfl, rfl⟩

/-- The keys before stay as they were while cycles are made. -/
theorem previousKeys_steps (n : Nat) (s : Session) :
    (s.steps n).previousKeys = s.previousKeys := by
  have hstep (t : Session) (ht : t.crashed = false) (h : t.previousKeys = s.previousKeys) :
      t.step.previousKeys = s.previousKeys :=
    (frames_step ht).2.1.trans h
  exact steps_induction hstep n rfl

/-- A frame in which the machine crashes leaves the keys before as they were. -/
theorem previousKeys_frame_of_crashed (h : s.frame.crashed = true) :
    s.frame.previousKeys = s.previousKeys := by
  cases hs : s.crashed with
  | true => rw [frame_of_crashed hs]
  | false =>
    rw [frame, if_neg (by simp [hs])] at h ⊢
    by_cases hhalted : (s.steps s.settings.cyclesPerFrame).halted = true
    · rw [if_pos hhalted]
      exact previousKeys_steps _ s
    · -- a frame in which no cycle fails leaves the machine running
      rw [if_neg hhalted] at h
      obtain ⟨hfault, -⟩ := halted_eq_false_iff.1 (Bool.eq_false_iff.2 hhalted)
      rw [crashed, endFrame, hfault] at h
      cases h

/-! ## Waiting in a session -/

/-- A step at `FX0A` never stops the session. It goes by the keys now and those before. -/
theorem awaits_step {w : Word} {x : Register} (hs : s.crashed = false)
    (hpending : s.machine.pending = .ok (w, .awaitKey x)) :
    s.step.crashed = false ∧
      Machine.Awaits x s.previousKeys s.keys s.machine s.step.machine := by
  obtain ⟨log, hstep⟩ := step_of_pending hs hpending rfl
  rw [hstep]
  exact ⟨hs, Machine.awaits_perform s.machine x s.previousKeys s.keys⟩

/-- While no key is released, a step at `FX0A` only counts a cycle of waiting. -/
theorem step_waiting {w : Word} {x : Register} (hs : s.crashed = false)
    (hpending : s.machine.pending = .ok (w, .awaitKey x))
    (hnone : Keypad.firstReleased? s.previousKeys s.keys = none) :
    ∃ log, s.step =
      { s with
        machine := { s.machine.latch s.keys s.previousKeys with
          counters := { s.machine.counters with
            keyWaits := s.machine.counters.keyWaits + 1
            instructions := s.machine.counters.instructions + 1 } }
        interruption := none, log } := by
  obtain ⟨log, hstep⟩ := step_of_pending hs hpending rfl
  refine ⟨log, hstep.trans ?_⟩
  rw [Machine.perform_awaitKey hnone]
  rfl

/-- **The edges of keys.** Whatever a session is asked for, the keys that it holds as those before
are always the keys with which the last completed frame ended, and all keys are up if no frame was
completed since the session started or was reset. A frame in which the machine crashes changes
nothing about that. So a cycle on `FX0A` stops waiting exactly if some key was down at the end of
the last completed frame and is up now. It then stores the lowest such key, and otherwise it
leaves the program counter and the registers alone and counts a cycle of waiting. -/
theorem key_edges {settings : Settings} {bytes : Array UInt8} {entropy : Nat} {traced : Bool}
    {fresh : Session} (hstart : start settings bytes entropy traced = .ok fresh)
    (commands : List Command) :
    let s := fresh.after commands
    (s.previousKeys = lastKeys (fresh.history commands) ∧
      s.frames = (frameEnds (fresh.history commands)).length ∧
      (s.frame.crashed = true → s.frame.previousKeys = s.previousKeys)) ∧
    ∀ earlier t later, fresh.history commands = earlier ++ t :: later →
      t.session.previousKeys = lastKeys earlier ∧
      t.session.frames = (frameEnds earlier).length ∧
      ∀ w x, t.move = .cycle → t.session.machine.pending = .ok (w, .awaitKey x) →
        t.session.step.crashed = false ∧
        Machine.Awaits x (lastKeys earlier) t.session.keys t.session.machine
          t.session.step.machine := by
  intro s
  have hcarried : Carried Remembers [] (fresh.history commands) s :=
    (remembers_lasts commands).carried (fun _ hc => hc) (remembers_start hstart)
  refine ⟨⟨hcarried.last.previousKeys, hcarried.last.frames, previousKeys_frame_of_crashed⟩, ?_⟩
  intro earlier t later hhistory
  obtain ⟨hremembers, hrunning⟩ := hcarried.before hhistory
  refine ⟨hremembers.previousKeys, hremembers.frames, ?_⟩
  intro w x ht hpending
  obtain ⟨hgoes, hawaits⟩ := awaits_step (hrunning ht) hpending
  rw [hremembers.previousKeys] at hawaits
  exact ⟨hgoes, hawaits⟩

/-- A key is down when the first frame ends and goes up after it. The next cycle finds it. -/
theorem key_edges_press_and_release :
    let settings : Settings :=
      { Settings.standard with cyclesPerFrame := 1, cyclesPerFrame_pos := Nat.one_pos }
    let program : Program := ⟨#[0xF3, 0x0A], by decide⟩
    let fresh := ofMachine settings (.powerOn program (.ofEntropy (Seed.number 1).entropy)) false
    let commands : List Command := [.setKey 5 true, .frame, .setKey 5 false]
    let s := fresh.after commands
    start settings program.bytes 1 false = .ok fresh ∧
      lastKeys (fresh.history commands) = .set .released 5 true ∧
      Machine.Awaits 3 (lastKeys (fresh.history commands)) s.keys s.machine s.step.machine ∧
      s.step.machine.pc = 0x202 ∧ s.step.machine.reg 3 = 5 := by
  intro settings program fresh commands s
  have hstart : start settings program.bytes 1 false = .ok fresh :=
    start_program program false (by decide)
  have hmemory : fresh.machine.memory = .load program := by rfl
  have hpending : fresh.machine.pending = .ok (⟨0xF, 0x3, 0x0, 0xA⟩, .awaitKey 0x3) :=
    Machine.pending_of_load (k := 0) hmemory rfl (by decide) (by decide) rfl
  have hrunning : fresh.crashed = false := rfl
  have hrate : fresh.settings.cyclesPerFrame = 1 := rfl
  have hup : fresh.keys = .released ∧ fresh.previousKeys = .released := ⟨rfl, rfl⟩
  have hpc : fresh.machine.pc = 0x200 := rfl
  clear_value fresh
  -- the frame makes one cycle, which waits
  have hpress (t : Session) (pressed : Bool) :
      (t.apply (.setKey 5 pressed)).2 = t.press 5 pressed :=
    congrArg Prod.snd (t.apply_setKey 5 pressed)
  have hnone : Keypad.firstReleased? (fresh.press 5 true).previousKeys
      (fresh.press 5 true).keys = none := by
    rw [show (fresh.press 5 true).previousKeys = .released from hup.2]
    exact Keypad.firstReleased?_of_released _
  obtain ⟨log, hstep⟩ := step_waiting (s := fresh.press 5 true) hrunning hpending hnone
  have hhalted : (fresh.press 5 true).step.halted = false := by
    rw [hstep]
    exact halted_eq_false_iff.2 ⟨crashed_eq_false_iff.1 hrunning, rfl⟩
  have hframe : (fresh.press 5 true).frame = (fresh.press 5 true).step.endFrame := by
    have hsteps : (fresh.press 5 true).steps (fresh.press 5 true).settings.cyclesPerFrame =
        (fresh.press 5 true).step := by
      rw [show (fresh.press 5 true).settings.cyclesPerFrame = 1 from hrate]
      simp only [steps, ite_self]
    rw [frame, if_neg (by simp [crashed, press, crashed_eq_false_iff.1 hrunning]), hsteps]
    simp only [hhalted, Bool.false_eq_true, if_false]
  have hs : s = (fresh.press 5 true).step.endFrame.press 5 false := by
    simp only [s, commands, after_cons, after_nil, hpress]
    exact congrArg (press · 5 false) hframe
  have hrunning' : s.crashed = false := by
    rw [hs, hstep]
    exact hrunning
  have hkeys : s.keys = .released ∧ s.previousKeys = .set .released 5 true := by
    rw [hs, hstep]
    simp only [press, endFrame, hup]
    decide
  have hpending' : s.machine.pending = .ok (⟨0xF, 0x3, 0x0, 0xA⟩, .awaitKey 0x3) := by
    refine (Machine.pending_congr ?_ ?_).trans hpending <;> rw [hs, hstep] <;> rfl
  have hpc' : s.machine.pc = 0x200 := by
    rw [hs, hstep]
    exact hpc
  -- the next cycle is the last move of a longer history
  have hhistory : fresh.history (commands ++ [.step]) =
      fresh.history commands ++ ⟨.cycle, s⟩ :: [] := by
    have hmoves : s.history [.step] = [⟨.cycle, s⟩] := by
      rw [history, chronicle_step hrunning']
      rfl
    rw [history_append, hmoves]
  have hlast : lastKeys (fresh.history commands) = .set .released 5 true :=
    (key_edges hstart commands).1.1.symm.trans hkeys.2
  have hwaits := ((key_edges hstart (commands ++ [.step])).2 _ _ _ hhistory).2.2
  have hawaits := (hwaits _ _ rfl hpending').2
  have hlowest : Keypad.LowestReleased (lastKeys (fresh.history commands)) s.keys 5 := by
    rw [hlast, hkeys.1]
    decide
  obtain ⟨hpc'', hv, -⟩ := hawaits.stored 5 hlowest
  refine ⟨hstart, hlast, hawaits, ?_, ?_⟩
  · rw [hpc'', hpc']
    rfl
  · rw [Machine.reg, hv]
    exact Vector.getElem_set_self (by decide)

end Session

end Chip8
