import Chip8.Proofs.Frames

/-!
# Running unattended

A session that is asked for frames while nobody touches a key makes its cycles one after another.
They are counted from zero, through all frames: before cycle `k` there are as many whole frames as
go into `k`, each with a tick at its end, and then the cycles of a frame that is not complete.

A run goes on until a cycle fails. So it is told by the first cycle that would fail, if there is
one among those that were asked for.

* `Operation.keyless`, `Machine.keyless` — a cycle with every key up, and one after others
* `Operation.frames`, `Machine.unattended` — whole frames of such cycles, and cycle `k` in frames
* `CycleRecord.FirstFault` — the first of some cycles that fails
* `Session.Untouched` — a session that nobody touched and nothing stopped
* `Session.steps_keyless`, `Session.runFrames_unattended` — cycles and frames in a row
* `Session.ToldBy`, `Session.run_unattended` — how far a run from the start comes
* `Session.run_of_impasse` — a run that gets nowhere
-/

namespace Chip8

/-! ## Cycles with every key up -/

/-- A cycle with every key up. -/
def Operation.keyless : Operation := .cycle Keypad.released.states Keypad.released.states

/-- So many frames of `rate` cycles, each with a tick at its end. -/
def Operation.frames (rate n : Nat) : List Operation :=
  (List.replicate n (List.replicate rate keyless ++ [.tick])).flatten

/-- Among cycles that are counted from zero, cycle `k` is the first that fails. -/
structure CycleRecord.FirstFault (cycles : Nat → CycleRecord) (k : Nat) (f : Fault) : Prop where
  /-- The cycles before it succeed. -/
  before : ∀ j < k, (cycles j).error = none
  /-- It ends in a fault. -/
  error : (cycles k).error = some (.fault f)

theorem CycleRecord.FirstFault.unique {cycles : Nat → CycleRecord} {k k' : Nat} {f f' : Fault}
    (h : FirstFault cycles k f) (h' : FirstFault cycles k' f') : k = k' ∧ f = f' := by
  have hnotlt {k k' : Nat} {f f' : Fault} (h : FirstFault cycles k f)
      (h' : FirstFault cycles k' f') : ¬k < k' := fun hlt => by
    have herror := h.error
    rw [h'.before k hlt] at herror
    cases herror
  obtain rfl : k = k' := Nat.le_antisymm (Nat.le_of_not_lt (hnotlt h' h))
    (Nat.le_of_not_lt (hnotlt h h'))
  have hfault := h.error.symm.trans h'.error
  cases hfault
  exact ⟨rfl, rfl⟩

namespace Machine

/-- The cycle with every key up that comes after `k` others. -/
def keyless (m : Machine) (k : Nat) : CycleRecord where
  machine := m.after (.replicate k .keyless)
  now := Keypad.released.states
  before := Keypad.released.states

/-- Cycle `k` of a machine that runs in frames of `rate` cycles with every key up: it comes after
`k / rate` whole frames, and after `k % rate` cycles of the next one. -/
def unattended (m : Machine) (rate k : Nat) : CycleRecord :=
  (m.after (Operation.frames rate (k / rate))).keyless (k % rate)

variable {m : Machine} {rate k : Nat}

theorem showsAll_keyless (m : Machine) (k : Nat) : (m.keyless k).ShowsAll :=
  ⟨Keypad.length_states _, Keypad.length_states _⟩

theorem keyless_succ (m : Machine) (k : Nat) :
    m.keyless (k + 1) = (m.apply .keyless).2.keyless k := rfl

theorem unattended_zero (m : Machine) (rate : Nat) : m.unattended rate 0 = m.keyless 0 := by
  rw [unattended, Nat.zero_div, Nat.zero_mod]
  rfl

theorem unattended_of_lt (hk : k < rate) : m.unattended rate k = m.keyless k := by
  rw [unattended, Nat.div_eq_of_lt hk, Nat.mod_eq_of_lt hk]
  rfl

theorem unattended_add (hrate : 0 < rate) (k : Nat) :
    m.unattended rate (rate + k) = (m.after (Operation.frames rate 1)).unattended rate k := by
  have hframes : Operation.frames rate (k / rate + 1) =
      Operation.frames rate 1 ++ Operation.frames rate (k / rate) := by
    simp [Operation.frames, List.replicate_succ]
  rw [unattended, unattended, Nat.add_div_left k hrate, Nat.add_mod_left, hframes, after_append]

theorem showsAll_unattended (m : Machine) (rate k : Nat) : (m.unattended rate k).ShowsAll :=
  showsAll_keyless _ _

/-- A machine that is at an impasse fails in its first cycle, which changes no more than the keys
that it was shown. -/
theorem firstFault_of_impasse {f : Fault} (h : m.impasse = some f) (rate : Nat) :
    CycleRecord.FirstFault (m.unattended rate) 0 f ∧
      ∃ keys previous, (m.unattended rate 0).after = m.latch keys previous := by
  obtain ⟨hnow, hbefore⟩ := showsAll_keyless m 0
  obtain ⟨keys, previous, hcycle⟩ := cycleFrom_of_impasse h hnow hbefore
  have happly : m.apply .keyless = (some (.fault f), m.latch keys previous) := by
    rw [Operation.keyless, apply]
    exact hcycle ▸ rfl
  rw [unattended_zero]
  refine ⟨⟨fun j hj => absurd hj (Nat.not_lt_zero j), ?_⟩, keys, previous, ?_⟩
  · rw [unattended_zero]
    exact congrArg Prod.fst happly
  · exact congrArg Prod.snd happly

/-- The next cycle finds the machine that a cycle leaves, after a tick if a frame is complete. -/
theorem machine_unattended_succ (m : Machine) (rate k : Nat) :
    (m.unattended rate (k + 1)).machine =
      if rate ∣ k + 1 then (m.unattended rate k).after.tick else (m.unattended rate k).after := by
  have hconcat (n : Nat) (m' : Machine) :
      m'.after (.replicate (n + 1) .keyless) = (m'.keyless n).after := by
    rw [List.replicate_succ', after_append]
    rfl
  have hplace := Nat.div_add_mod k rate
  have hnext := Nat.div_add_mod (k + 1) rate
  split
  · next hcomplete =>
    rw [Nat.succ_div_of_dvd hcomplete, Nat.mod_eq_zero_of_dvd hcomplete, Nat.mul_succ] at hnext
    have hlast : k % rate + 1 = rate := by omega
    have hframes : Operation.frames rate (k / rate + 1) =
        Operation.frames rate (k / rate) ++ (.replicate rate .keyless ++ [.tick]) := by
      simp [Operation.frames, List.replicate_succ']
    rw [unattended, Nat.succ_div_of_dvd hcomplete, Nat.mod_eq_zero_of_dvd hcomplete, hframes]
    have hend := hconcat (k % rate) (m.after (Operation.frames rate (k / rate)))
    rw [hlast] at hend
    show (m.after (_ ++ (_ ++ [_]))).after [] = _
    rw [after_nil, after_append, after_append, hend]
    rfl
  · next hcomplete =>
    rw [Nat.succ_div_of_not_dvd hcomplete] at hnext
    have hmod : (k + 1) % rate = k % rate + 1 := by omega
    rw [unattended, Nat.succ_div_of_not_dvd hcomplete, hmod]
    exact hconcat _ _

end Machine

namespace Session

/-! ## Sessions that nobody touches -/

/-- No key of the session is down or was down at the end of the last frame, and nothing stopped
it. -/
structure Untouched (s : Session) : Prop where
  /-- The keys now. -/
  keys : s.keys = .released
  /-- The keys at the end of the last completed frame. -/
  previousKeys : s.previousKeys = .released
  /-- No fault stopped it. -/
  fault : s.fault = none
  /-- Nothing interrupted it. -/
  interruption : s.interruption = none
  /-- The machine is within its bounds. -/
  bounded : s.machine.Bounded

variable {s : Session} {rate : Nat}

namespace Untouched

theorem crashed (h : s.Untouched) : s.crashed = false := crashed_eq_false_iff.2 h.fault

theorem halted (h : s.Untouched) : s.halted = false :=
  halted_eq_false_iff.2 ⟨h.fault, h.interruption⟩

theorem nextCycle (h : s.Untouched) : s.nextCycle = s.machine.keyless 0 := by
  rw [Session.nextCycle, h.keys, h.previousKeys]
  rfl

theorem endFrame (h : s.Untouched) : s.endFrame.Untouched :=
  ⟨h.keys, h.keys, h.fault, h.interruption, h.bounded.tick⟩

/-- A step succeeds, or it stops the session. -/
theorem step (h : s.Untouched) :
    ((s.machine.keyless 0).error = none ∧ s.step.Untouched ∧ Ran 1 s s.step ∧
        s.step.machine = (s.machine.apply .keyless).2) ∨
      ∃ f, (s.machine.keyless 0).error = some (.fault f) ∧ s.step.fault = some f ∧
        Ran 0 s s.step ∧ s.step.machine = (s.machine.keyless 0).after := by
  obtain ⟨hkeys, hprevious, -⟩ := frames_step h.crashed
  have hmachine : s.step.machine = (s.machine.keyless 0).after := by
    rw [machine_step h.crashed, h.nextCycle]
  rcases ran_step h.crashed h.bounded with ⟨hok, hfault, hran⟩ | ⟨f, herror, hfault, -, hran⟩
  · refine .inl ⟨h.nextCycle ▸ hok, ?_, hran, hmachine⟩
    exact ⟨hkeys.trans h.keys, hprevious.trans h.previousKeys, hfault, hran.interruption,
      hran.bounded⟩
  · exact .inr ⟨f, h.nextCycle ▸ herror, hfault, hran, hmachine⟩

end Untouched

/-! ## Cycles in a row -/

/-- Cycles in a row all succeed, or the first that does not stops the session. -/
theorem steps_keyless (n : Nat) (h : s.Untouched) :
    ((∀ j < n, (s.machine.keyless j).error = none) ∧ (s.steps n).Untouched ∧
        Ran n s (s.steps n) ∧ (s.steps n).machine = s.machine.after (.replicate n .keyless)) ∨
      ∃ k < n, ∃ f, CycleRecord.FirstFault s.machine.keyless k f ∧
        (s.steps n).fault = some f ∧ Ran k s (s.steps n) ∧
        (s.steps n).machine = (s.machine.keyless k).after := by
  induction n generalizing s with
  | zero => exact .inl ⟨by omega, h, ⟨rfl, rfl, rfl, rfl, h.bounded, h.interruption⟩, rfl⟩
  | succ n ih =>
    rw [steps]
    rcases h.step with ⟨hok, hnext, hran, hmachine⟩ | ⟨f, herror, hfault, hran, hmachine⟩
    · -- the other cycles are those of the machine after the first one
      have hlater (j : Nat) : s.step.machine.keyless j = s.machine.keyless (j + 1) := by
        rw [hmachine, ← Machine.keyless_succ]
      have hearlier {k : Nat} (hrest : ∀ j < k, (s.step.machine.keyless j).error = none) :
          ∀ j < k + 1, (s.machine.keyless j).error = none := by
        intro j hj
        cases j with
        | zero => exact hok
        | succ j => exact hlater j ▸ hrest j (Nat.lt_of_succ_lt_succ hj)
      simp only [hnext.halted, Bool.false_eq_true, if_false]
      rcases ih hnext with ⟨hall, hlast, hrest, hend⟩ | ⟨k, hk, f, hfirst, hfault, hrest, hend⟩
      · refine .inl ⟨hearlier hall, hlast, Nat.add_comm 1 n ▸ hran.trans hrest, ?_⟩
        rw [hend, hmachine]
        rfl
      · refine .inr ⟨k + 1, Nat.succ_lt_succ hk, f, ?_, hfault, ?_, ?_⟩
        · exact ⟨hearlier hfirst.before, hlater k ▸ hfirst.error⟩
        · exact Nat.add_comm 1 k ▸ hran.trans hrest
        · rw [hend, hlater]
    · simp only [halted_of_fault hfault, if_true]
      exact .inr ⟨0, Nat.succ_pos n, f, ⟨by omega, herror⟩, hfault, hran, hmachine⟩

/-! ## Frames in a row -/

/-- What a session has counted when `k` cycles have succeeded in frames of `rate` cycles. -/
structure Counted (rate k : Nat) (s t : Session) : Prop where
  /-- The settings are kept. -/
  settings : t.settings = s.settings
  /-- Only whole frames are completed. -/
  frames : t.frames = s.frames + k / rate
  /-- Every cycle that succeeds is an instruction. -/
  instructions : t.machine.counters.instructions = s.machine.counters.instructions + k

/-- Cycles that are counted after a whole frame. -/
theorem Counted.add {k : Nat} {t u : Session} (hrate : 0 < rate) (h₁ : Counted rate rate s t)
    (h₂ : Counted rate k t u) : Counted rate (rate + k) s u where
  settings := h₂.settings.trans h₁.settings
  frames := by
    rw [h₂.frames, h₁.frames, Nat.div_self hrate, Nat.add_div_left k hrate]
    omega
  instructions := by
    rw [h₂.instructions, h₁.instructions, Nat.add_assoc]

/-- A frame is completed, or the first of its cycles that fails stops the session. -/
theorem frame_unattended (hrate : s.settings.cyclesPerFrame = rate) (h : s.Untouched) :
    ((∀ j < rate, (s.machine.unattended rate j).error = none) ∧ s.frame.Untouched ∧
        Counted rate rate s s.frame ∧
        s.frame.machine = s.machine.after (Operation.frames rate 1)) ∨
      ∃ k < rate, ∃ f, CycleRecord.FirstFault (s.machine.unattended rate) k f ∧
        s.frame.fault = some f ∧ Counted rate k s s.frame ∧
        s.frame.machine = (s.machine.unattended rate k).after := by
  have hpos : 0 < rate := hrate ▸ s.settings.cyclesPerFrame_pos
  rw [frame, if_neg (by simp [h.crashed]), hrate]
  rcases steps_keyless rate h with
    ⟨hall, hcycled, hran, hmachine⟩ | ⟨k, hk, f, hfirst, hfault, hran, hmachine⟩
  · simp only [hcycled.halted, Bool.false_eq_true, if_false]
    refine .inl ⟨?_, hcycled.endFrame, ⟨hran.settings, ?_, hran.instructions⟩, ?_⟩
    · intro j hj
      exact Machine.unattended_of_lt hj ▸ hall j hj
    · rw [Nat.div_self hpos, ← hran.frames]
      rfl
    · have hone : Operation.frames rate 1 = .replicate rate .keyless ++ [.tick] :=
        List.append_nil _
      rw [hone, Machine.after_append, ← hmachine]
      rfl
  · simp only [halted_of_fault hfault, if_true]
    have hplace (j : Nat) (hj : j ≤ k) : s.machine.unattended rate j = s.machine.keyless j :=
      Machine.unattended_of_lt (Nat.lt_of_le_of_lt hj hk)
    refine .inr ⟨k, hk, f, ⟨?_, ?_⟩, hfault, ⟨hran.settings, ?_, hran.instructions⟩, ?_⟩
    · intro j hj
      exact hplace j (Nat.le_of_lt hj) ▸ hfirst.before j hj
    · exact hplace k (Nat.le_refl k) ▸ hfirst.error
    · rw [Nat.div_eq_of_lt hk, hran.frames, Nat.add_zero]
    · rw [hplace k (Nat.le_refl k), hmachine]

/-- Frames in a row are all completed, or the first cycle that fails stops the session. -/
theorem runFrames_unattended (n : Nat) (hrate : s.settings.cyclesPerFrame = rate)
    (h : s.Untouched) :
    ((∀ j < n * rate, (s.machine.unattended rate j).error = none) ∧
        (s.runFrames n).fault = none ∧ Counted rate (n * rate) s (s.runFrames n)) ∨
      ∃ k < n * rate, ∃ f, CycleRecord.FirstFault (s.machine.unattended rate) k f ∧
        (s.runFrames n).fault = some f ∧ Counted rate k s (s.runFrames n) ∧
        (s.runFrames n).machine = (s.machine.unattended rate k).after := by
  have hpos : 0 < rate := hrate ▸ s.settings.cyclesPerFrame_pos
  induction n generalizing s with
  | zero => exact .inl ⟨by omega, h.fault, rfl, by simp [runFrames], by simp [runFrames]⟩
  | succ n ih =>
    have hlimit : (n + 1) * rate = rate + n * rate := by rw [Nat.succ_mul, Nat.add_comm]
    rw [runFrames, hlimit]
    rcases frame_unattended hrate h with
      ⟨hall, hnext, hcounted, hmachine⟩ | ⟨k, hk, f, hfirst, hfault, hcounted, hmachine⟩
    · -- the other cycles are those of the machine after the first frame
      have hlater (j : Nat) :
          s.frame.machine.unattended rate j = s.machine.unattended rate (rate + j) := by
        rw [hmachine, ← Machine.unattended_add hpos]
      have hearlier {k : Nat}
          (hrest : ∀ j < k, (s.frame.machine.unattended rate j).error = none) :
          ∀ j < rate + k, (s.machine.unattended rate j).error = none := by
        intro j hj
        rcases Nat.lt_or_ge j rate with hfirst | hother
        · exact hall j hfirst
        · obtain ⟨i, rfl⟩ := Nat.exists_eq_add_of_le hother
          exact hlater i ▸ hrest i (by omega)
      simp only [hnext.halted, Bool.false_eq_true, if_false]
      rcases ih (hcounted.settings ▸ hrate) hnext with
        ⟨hrest, hfault, hcounts⟩ | ⟨k, hk, f, hfirst, hfault, hcounts, hend⟩
      · exact .inl ⟨hearlier hrest, hfault, hcounted.add hpos hcounts⟩
      · refine .inr ⟨rate + k, by omega, f, ?_, hfault, hcounted.add hpos hcounts, ?_⟩
        · exact ⟨hearlier hfirst.before, hlater k ▸ hfirst.error⟩
        · rw [hend, hlater]
    · simp only [halted_of_fault hfault, if_true]
      exact .inr ⟨k, by omega, f, hfirst, hfault, hcounted, hmachine⟩

/-! ## Runs from the start -/

theorem untouched_ofMachine (settings : Settings) (program : Program) (source : RandomSource)
    (traced : Bool) : (ofMachine settings (.powerOn program source) traced).Untouched :=
  ⟨rfl, rfl, rfl, rfl, Machine.bounded_powerOn program source⟩

/-- How far a run of `limit` cycles came, told by these cycles. -/
inductive ToldBy (cycles : Nat → CycleRecord) (rate limit : Nat) (s : Session) : Prop where
  /-- All the cycles succeed, and every frame is completed. -/
  | completed (all : ∀ j < limit, (cycles j).error = none) (fault : s.fault = none)
    (frames : s.frames = limit / rate) (instructions : s.machine.counters.instructions = limit)
  /-- One of them fails, and the run ends there: with its fault, with as many instructions as there
  were cycles before it, and with the frames that these fill. -/
  | failed {k : Nat} {f : Fault} (lt : k < limit) (first : CycleRecord.FirstFault cycles k f)
    (fault : s.fault = some f) (frames : s.frames = k / rate)
    (instructions : s.machine.counters.instructions = k) (pc : s.machine.pc = (cycles k).after.pc)

/-- A run is stopped exactly if one of its cycles fails. -/
theorem ToldBy.fault_eq_none_iff {cycles : Nat → CycleRecord} {rate limit : Nat}
    (h : s.ToldBy cycles rate limit) : s.fault = none ↔ ∀ k < limit, (cycles k).error = none := by
  cases h with
  | completed hall hfault => exact iff_of_true hfault hall
  | failed hk hfirst hfault =>
    refine iff_of_false (hfault ▸ Option.some_ne_none _) fun hall => ?_
    have herror := hfirst.error
    rw [hall _ hk] at herror
    cases herror

/-- **A run from the start, cycle by cycle.** It is told by the machine that runs unattended. -/
theorem run_unattended (settings : Settings) (program : Program) (source : RandomSource)
    (traced : Bool) (n : Int) :
    let m := Machine.powerOn program source
    let rate := settings.cyclesPerFrame
    ((ofMachine settings m traced).run n).ToldBy (m.unattended rate) rate (n.toNat * rate) := by
  intro m rate
  have hfresh := untouched_ofMachine settings program source traced
  have hrate : (ofMachine settings m traced).settings.cyclesPerFrame = rate := rfl
  rcases runFrames_unattended n.toNat hrate hfresh with
    ⟨hall, hfault, hcounted⟩ | ⟨k, hk, f, hfirst, hfault, hcounted, hmachine⟩
  · exact .completed hall hfault (hcounted.frames.trans (Nat.zero_add _))
      (hcounted.instructions.trans (Nat.zero_add _))
  · exact .failed hk hfirst hfault (hcounted.frames.trans (Nat.zero_add _))
      (hcounted.instructions.trans (Nat.zero_add _)) (congrArg Machine.pc hmachine)

/-- A run of a machine that is at an impasse when it is switched on. -/
theorem run_of_impasse {settings : Settings} {program : Program} {source : RandomSource} {f : Fault}
    (h : (Machine.powerOn program source).impasse = some f) (traced : Bool) {n : Int} (hn : 0 < n) :
    let s := (ofMachine settings (.powerOn program source) traced).run n
    s.fault = some f ∧ s.settings = settings ∧ s.frames = 0 ∧
      s.machine.counters.instructions = 0 ∧
      ∃ keys previous, s.machine = (Machine.powerOn program source).latch keys previous := by
  intro s
  obtain ⟨hfirst, keys, previous, hafter⟩ :=
    Machine.firstFault_of_impasse h settings.cyclesPerFrame
  rcases runFrames_unattended n.toNat rfl (untouched_ofMachine settings program source traced) with
    ⟨hall, -⟩ | ⟨k, hk, g, hother, hfault, hcounted, hmachine⟩
  · have hpos : 0 < n.toNat * settings.cyclesPerFrame :=
      Nat.mul_pos (by omega) settings.cyclesPerFrame_pos
    have herror := (hall 0 hpos).symm.trans hfirst.error
    cases herror
  · obtain ⟨rfl, rfl⟩ := hfirst.unique hother
    refine ⟨hfault, hcounted.settings, ?_, hcounted.instructions, keys, previous, ?_⟩
    · exact hcounted.frames.trans (by rw [Nat.zero_div]; rfl)
    · exact hmachine.trans hafter

end Session

end Chip8
