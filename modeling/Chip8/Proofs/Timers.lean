import Chip8.Proofs.Timeline
import Mathlib.Data.List.DropRight

/-!
# The law of the timers

A timer is set from a register by one instruction, counts down with every tick, and stands
at zero. What else happens does not touch it: no other instruction, no cycle that fails, and
not the other timer. So its value can be told from its past, by the byte that it was set to
last and the ticks since then.

* `Timer`, `Timer.read` — the two timers of a machine
* `Stage.setting?` — the byte that a timer is set to at a stage, if it is
* `Timer.lastSetting`, `Timer.ticksSince` — what the past tells about a timer
* `Timer.law` — the value that follows
* `Timer.read_after` — the timers obey the law
* `Machine.timers_follow_law` — and so do the instructions and the buzzer that look at them
-/

namespace Chip8

/-- The timers of a machine. -/
inductive Timer where
  /-- The timer that a program can read. -/
  | delay
  /-- The timer of the buzzer. -/
  | sound
deriving DecidableEq, Repr

/-- The value of a timer. -/
def Timer.read : Timer → Machine → Int
  | .delay, m => m.delay
  | .sound, m => m.sound

/-- The register that an instruction sets a timer from, if it does. -/
def Timer.setBy? : Timer → Instruction → Option Register
  | .delay, .setDelay x => some x
  | .sound, .setSound x => some x
  | _, _ => none

/-- The byte that a timer is set to at a stage, if it is. -/
def Stage.setting? (s : Stage) (timer : Timer) : Option UInt8 :=
  (s.executed?.bind timer.setBy?).map s.machine.reg

theorem Stage.setting?_of_executed {s : Stage} {i : Instruction} (h : s.executed? = some i)
    (timer : Timer) : s.setting? timer = (timer.setBy? i).map s.machine.reg := by
  rw [setting?, h, Option.bind_some]

theorem Stage.setting?_of_not_executed {s : Stage} (h : s.executed? = none) (timer : Timer) :
    s.setting? timer = none := by
  rw [setting?, h, Option.bind_none, Option.map_none]

namespace Timer

/-- The value that a timer was set to last, or its initial value if it never was. -/
def lastSetting (timer : Timer) (initial : Int) (past : List Stage) : Int :=
  ((past.filterMap (·.setting? timer)).getLast?.map fun byte => (byte.toNat : Int)).getD initial

/-- The number of ticks since a timer was set last. -/
def ticksSince (timer : Timer) (past : List Stage) : Nat :=
  (past.rtakeWhile fun s => (s.setting? timer).isNone).countP (·.operation = .tick)

/-- The value of a timer that follows from its initial value and the past. -/
def law (timer : Timer) (initial : Int) (past : List Stage) : Int :=
  max 0 (timer.lastSetting initial past - timer.ticksSince past)

variable {timer : Timer} {initial : Int} {past : List Stage} {s : Stage}

/-! ## How the law goes on -/

theorem law_nil (h : 0 ≤ initial) : timer.law initial [] = initial := by
  rw [law, show timer.lastSetting initial [] = initial from rfl,
    show timer.ticksSince [] = 0 from rfl]
  omega

theorem law_mem (h : initial ≤ 255) :
    0 ≤ timer.law initial past ∧ timer.law initial past ≤ 255 := by
  have hlast : timer.lastSetting initial past ≤ 255 := by
    rw [lastSetting]
    cases (past.filterMap (·.setting? timer)).getLast? with
    | none => exact h
    | some byte =>
      have := byte.toNat_lt
      simp only [Option.map_some, Option.getD_some]
      omega
  rw [law]
  omega

theorem law_concat_of_set {byte : UInt8} (h : s.setting? timer = some byte) :
    timer.law initial (past ++ [s]) = byte.toNat := by
  simp [law, lastSetting, ticksSince, h]

theorem law_concat_of_tick (hset : s.setting? timer = none) (htick : s.operation = .tick) :
    timer.law initial (past ++ [s]) = Machine.countDown (timer.law initial past) := by
  have hlast : timer.lastSetting initial (past ++ [s]) = timer.lastSetting initial past := by
    simp [lastSetting, hset]
  have hticks : timer.ticksSince (past ++ [s]) = timer.ticksSince past + 1 := by
    simp [ticksSince, hset, htick]
  rw [law, law, hlast, hticks, Machine.countDown]
  split <;> omega

theorem law_concat_of_other (hset : s.setting? timer = none) (htick : s.operation ≠ .tick) :
    timer.law initial (past ++ [s]) = timer.law initial past := by
  simp [law, lastSetting, ticksSince, hset, htick]

/-! ## How the timer goes on -/

/-- An instruction sets the timer or leaves it alone. -/
theorem read_perform (timer : Timer) (m : Machine) (i : Instruction) :
    timer.read (m.perform i) =
      ((timer.setBy? i).map fun x => ((m.reg x).toNat : Int)).getD (timer.read m) := by
  cases i with
  | awaitKey x =>
    simp only [Machine.perform]
    split <;> cases timer <;> rfl
  | loadBlock x =>
    simp only [Machine.perform, Machine.onward, Machine.pastBlock]
    cases timer <;> rfl
  | _ => cases timer <;> rfl

@[simp] theorem read_tick (timer : Timer) (m : Machine) :
    timer.read m.tick = Machine.countDown (timer.read m) := by
  cases timer <;> rfl

@[simp] theorem read_latch (timer : Timer) (m : Machine) (now before : Keypad) :
    timer.read (m.latch now before) = timer.read m := by
  cases timer <;> rfl

@[simp] theorem read_counted (timer : Timer) (m : Machine) :
    timer.read m.counted = timer.read m := by
  cases timer <;> rfl

/-- Up to a reset, the timer goes on as the law does. -/
theorem read_stage (hs : s.operation ≠ .reset) (h : timer.read s.machine = timer.law initial past) :
    timer.read s.after = timer.law initial (past ++ [s]) := by
  have houtcome := s.outcome
  generalize hi : s.executed? = i?, ho : s.operation = op, s.after = m' at houtcome hs ⊢
  cases houtcome with
  | @executed _ _ keys previous w i =>
    have hset := Stage.setting?_of_executed hi timer
    rw [read_counted, read_perform, read_latch]
    cases hx : timer.setBy? i with
    | some x =>
      rw [hx] at hset
      rw [law_concat_of_set hset]
      rfl
    | none =>
      rw [hx] at hset
      rw [law_concat_of_other hset (by simp [ho])]
      exact h
  | failed =>
    rw [law_concat_of_other (Stage.setting?_of_not_executed hi timer) (by simp [ho]), ← h,
      read_latch]
  | ticked => rw [law_concat_of_tick (Stage.setting?_of_not_executed hi timer) ho, ← h, read_tick]
  | restarted => contradiction

/-- **The law of a timer.** Without resets, its value is the one that its past asks for. -/
theorem read_after (timer : Timer) {m : Machine} (h : 0 ≤ timer.read m) {ops : List Operation}
    (hreset : .reset ∉ ops) :
    timer.read (m.after ops) = timer.law (timer.read m) (m.stages ops) := by
  induction ops using List.reverseRecOn with
  | nil => exact (law_nil h).symm
  | append_singleton ops op ih =>
    rw [List.mem_append, List.mem_singleton, not_or] at hreset
    rw [Machine.after_concat, Machine.stages_concat]
    exact read_stage (Ne.symm hreset.2) (ih hreset.1)

end Timer

/-! ## What looks at the timers -/

namespace Machine

/-- A delay timer is read only if it is a byte, and then that is what the register gets. -/
theorem reg_getDelay {s : Stage} {x : Register} (h : s.executed? = some (.getDelay x)) :
    ((s.after.reg x).toNat : Int) = s.machine.delay := by
  obtain ⟨keys, previous, w, -, hrefusal, hafter⟩ := Stage.after_of_executed h
  have hbyte : 0 ≤ s.machine.delay ∧ s.machine.delay ≤ 255 := by
    by_contra hwide
    simp [refusal, hwide] at hrefusal
  have hreg : s.after.reg x = UInt8.ofNat s.machine.delay.toNat := by
    rw [hafter]
    simp [perform, counted, onward, setReg, latch, reg]
  rw [hreg, UInt8.toNat_ofNat']
  omega

theorem executed_getDelay {s : Stage} {now before : List Bool} {w : Word} {x : Register}
    (hs : s.operation = .cycle now before) (hnow : now.length = 16) (hbefore : before.length = 16)
    (hpending : s.machine.pending = .ok (w, .getDelay x))
    (hdelay : 0 ≤ s.machine.delay ∧ s.machine.delay ≤ 255) :
    s.executed? = some (.getDelay x) := by
  obtain ⟨keys, hkeys⟩ := Keypad.ofList?_of_length hnow
  obtain ⟨previous, hprevious⟩ := Keypad.ofList?_of_length hbefore
  obtain ⟨m, op⟩ := s
  cases hs
  exact Stage.executed?_of_apply hpending (apply_cycle hkeys hprevious hpending (if_pos hdelay))

/-- **The timers follow their law.** From timers that are bytes, and without resets, each
timer ends at the value that its past asks for: the byte that it was set to last, less the
ticks since then. A program that reads the delay timer gets the value asked for at that
moment, and reading it never fails. The buzzer is heard while the law asks for at least
two. -/
theorem timers_follow_law {m : Machine} (hdelay : 0 ≤ m.delay ∧ m.delay ≤ 255)
    (hsound : 0 ≤ m.sound ∧ m.sound ≤ 255) {ops : List Operation} (hreset : .reset ∉ ops) :
    (m.after ops).delay = Timer.delay.law m.delay (m.stages ops) ∧
      (m.after ops).sound = Timer.sound.law m.sound (m.stages ops) ∧
      (∀ earlier s later, m.stages ops = earlier ++ s :: later →
        (∀ x, s.executed? = some (.getDelay x) →
          ((s.after.reg x).toNat : Int) = Timer.delay.law m.delay earlier) ∧
        (∀ now before w x, s.operation = .cycle now before → now.length = 16 →
          before.length = 16 → s.machine.pending = .ok (w, .getDelay x) →
          s.executed? = some (.getDelay x))) ∧
      ((m.after ops).soundPlaying = true ↔ 2 ≤ Timer.sound.law m.sound (m.stages ops)) := by
  have hlaw : (m.after ops).sound = Timer.sound.law m.sound (m.stages ops) :=
    Timer.sound.read_after hsound.1 hreset
  refine ⟨Timer.delay.read_after hdelay.1 hreset, hlaw, fun earlier s later hstages => ?_, ?_⟩
  · obtain ⟨first, rest, rfl, rfl, hmachine⟩ := stages_eq_append_cons hstages
    have hfirst : .reset ∉ first := fun h => hreset (List.mem_append_left _ h)
    have hread : s.machine.delay = Timer.delay.law m.delay (m.stages first) := by
      rw [hmachine]
      exact Timer.delay.read_after hdelay.1 hfirst
    refine ⟨fun x hx => (reg_getDelay hx).trans hread,
      fun now before w x hs hnow hbefore hpending => ?_⟩
    exact executed_getDelay hs hnow hbefore hpending (hread ▸ Timer.law_mem hdelay.2)
  · rw [soundPlaying, decide_eq_true_iff, ← hlaw]
    rfl

/-- A delay timer that is set to five and read two ticks later, with the buzzer on. -/
theorem timers_follow_law_set_and_read :
    let program : Program := ⟨#[0xF1, 0x15, 0xF2, 0x07], by decide⟩
    let m : Machine :=
      { powerOn program (.ofStream fun _ => 0) with
        v := Vector.replicate 16 5, delay := 200, sound := 9 }
    let cycle : Operation := .cycle (.replicate 16 false) (.replicate 16 false)
    let m' := m.after [cycle, .tick, .tick, cycle]
    m'.delay = 3 ∧ m'.reg 2 = 3 ∧ m'.sound = 7 ∧ m'.soundPlaying = true := by
  intro program m cycle m'
  let m₁ := ((m.latch .released .released).perform (.setDelay 1)).counted
  let m₃ := m₁.tick.tick
  let m₄ := ((m₃.latch .released .released).perform (.getDelay 2)).counted
  have hup : Keypad.ofList? (.replicate 16 false) = some .released := by decide
  have hmemory : m.memory = .load program := by rfl
  have hpending : m.pending = .ok (⟨0xF, 0x1, 0x1, 0x5⟩, .setDelay 1) :=
    pending_of_load (k := 0) hmemory rfl (by decide) (by decide) rfl
  have hpending₃ : m₃.pending = .ok (⟨0xF, 0x2, 0x0, 0x7⟩, .getDelay 2) :=
    pending_of_load (k := 2) (m := m₃) hmemory rfl (by decide) (by decide) rfl
  have hstep : m.apply cycle = (none, m₁) := apply_cycle hup hup hpending (by decide)
  have hstep₃ : m₃.apply cycle = (none, m₄) := apply_cycle hup hup hpending₃ (by decide)
  have hbytes : (0 ≤ m.delay ∧ m.delay ≤ 255) ∧ (0 ≤ m.sound ∧ m.sound ≤ 255) := by decide
  have hfive : m.reg 1 = 5 := by decide
  have hnine : m.sound = 9 := rfl
  have hcycle : cycle ≠ .tick := by decide
  -- the rest needs only these facts, and must not evaluate the machine
  clear_value m
  have hstages : m.stages [cycle, .tick, .tick, cycle] =
      [] ++ [⟨m, cycle⟩] ++ [⟨m₁, .tick⟩] ++ [⟨m₁.tick, .tick⟩] ++ [⟨m₃, cycle⟩] := by
    simp only [stages, hstep, apply_tick, List.cons_append, List.nil_append]
    rfl
  have hset := Stage.setting?_of_executed (Stage.executed?_of_apply hpending hstep)
  have hget := Stage.setting?_of_executed (Stage.executed?_of_apply hpending₃ hstep₃)
  have hm₃ : m.after [cycle, .tick, .tick] = m₃ := by
    rw [after_cons, hstep, after_cons, apply_tick, after_cons, apply_tick, after_nil]
  have hm' : m' = (Stage.mk m₃ cycle).after := by
    rw [← hm₃]
    exact m.after_concat [cycle, .tick, .tick] cycle
  have hreset : .reset ∉ [cycle, .tick, .tick, cycle] := by decide
  obtain ⟨hdelay, hsound, hread, hplaying⟩ := timers_follow_law hbytes.1 hbytes.2 hreset
  obtain ⟨hvalue, hexecuted⟩ := hread _ _ _ hstages
  have hreg := hvalue 2 (hexecuted _ _ _ _ rfl (by decide) (by decide) hpending₃)
  have hdown : countDown (countDown ((5 : UInt8).toNat)) = 3 := by decide
  rw [← hm', Timer.law_concat_of_tick rfl rfl, Timer.law_concat_of_tick rfl rfl,
    Timer.law_concat_of_set (hset .delay), hfive, hdown] at hreg
  rw [hstages, Timer.law_concat_of_other (hget _) hcycle, Timer.law_concat_of_tick rfl rfl,
    Timer.law_concat_of_tick rfl rfl] at hdelay hsound hplaying
  rw [Timer.law_concat_of_set (hset .delay), hfive, hdown] at hdelay
  rw [Timer.law_concat_of_other (hset .sound) hcycle, hnine, Timer.law_nil (by decide)]
    at hsound hplaying
  exact ⟨hdelay, UInt8.toNat_inj.1 (Int.ofNat_inj.1 hreg), hsound, hplaying.2 (by decide)⟩

end Machine

end Chip8
