import Chip8.Proofs.Bounds
import Chip8.Proofs.Impasse

/-!
# Runs one after another

A run is a loop of frames, and a frame is a loop of cycles. Both loops are left early when the
machine is halted. All the same, two runs one after the other are one longer run, wherever the
machine may halt, and a frame that ends is nothing but its cycles, a tick, and the keys passed on.

Somebody who tampers with the delay timer can make `FX07` fail with a fault that is not the
program's. Such a fault breaks a run off without stopping the machine, so that nobody asks for the
second run. The longer run is then broken off at the same place.

* `Session.runFrames_add` — frames in a row in two parts
* `Session.run_run` — two runs and one longer run
* `Session.uninterrupted_run` — nothing breaks a run off if the delay timer is a byte
* `Session.halted_frame_iff`, `Session.frame_eq_endFrame` — a frame and single steps
* `Session.runs_compose` — all of this, with what a session answers
-/

namespace Chip8

namespace Session

variable {s : Session}

/-! ## Runs -/

theorem runFrames_of_crashed (hs : s.crashed = true) (n : Nat) : s.runFrames n = s := by
  cases n with
  | zero => rfl
  | succ n =>
    rw [runFrames, frame_of_crashed hs]
    exact if_pos (halted_of_crashed hs)

theorem crashed_of_halted (hhalted : s.halted = true) (hs : s.interruption = none) :
    s.crashed = true := by
  simpa [halted, hs] using hhalted

/-- **Frames in a row can be asked for in two parts.** If the first part is interrupted, there is no
second one. If it is stopped, then the second part changes nothing. -/
theorem runFrames_add (a b : Nat) (hs : s.interruption = none) :
    s.runFrames (a + b) =
      if (s.runFrames a).interruption = none then (s.runFrames a).runFrames b
      else s.runFrames a := by
  induction a generalizing s with
  | zero =>
    rw [Nat.zero_add, show s.runFrames 0 = s from rfl, if_pos hs]
  | succ a ih =>
    rw [Nat.succ_add, runFrames, runFrames]
    by_cases hhalted : s.frame.halted = true
    · simp only [hhalted, if_true]
      by_cases hinterruption : s.frame.interruption = none
      · rw [if_pos hinterruption, runFrames_of_crashed (crashed_of_halted hhalted hinterruption)]
      · rw [if_neg hinterruption]
    · simp only [hhalted, Bool.false_eq_true, if_false]
      exact ih (halted_eq_false_iff.1 (Bool.not_eq_true _ ▸ hhalted)).2

theorem resume_of_interruption (hs : s.interruption = none) : s.resume = s := by
  rw [resume, ← hs]

/-- Two runs are one longer run, unless the first one is interrupted. -/
theorem run_run (s : Session) (m n : Int) :
    s.run (max m 0 + max n 0) =
      if (s.run m).interruption = none then (s.run m).run n else s.run m := by
  have hsum : (max m 0 + max n 0).toNat = m.toNat + n.toNat := by omega
  unfold run
  rw [hsum, runFrames_add m.toNat n.toNat rfl]
  by_cases hfirst : (s.resume.runFrames m.toNat).interruption = none
  · rw [if_pos hfirst, if_pos hfirst, resume_of_interruption hfirst]
  · rw [if_neg hfirst, if_neg hfirst]

/-- A run never loses a completed frame. -/
theorem frames_le_run (s : Session) (n : Int) : s.frames ≤ (s.run n).frames := by
  have hstart : s.frames ≤ s.resume.frames := Nat.le_refl _
  have hstep (t : Session) (ht : t.crashed = false) (hle : s.frames ≤ t.frames) :
      s.frames ≤ t.step.frames := by
    rw [(frames_step ht).2.2]
    exact hle
  have hend (t : Session) (_ : t.halted = false) (hle : s.frames ≤ t.frames) :
      s.frames ≤ t.endFrame.frames := Nat.le_succ_of_le hle
  exact runFrames_induction hstep hend n.toNat hstart

/-- Two runs complete together what is completed from the start of the first to the end of the
second. -/
theorem completed_run_run (s : Session) (m n : Int) :
    ((s.run m).run n).frames - s.frames =
      ((s.run m).frames - s.frames) + (((s.run m).run n).frames - (s.run m).frames) := by
  have hfirst := frames_le_run s m
  have hsecond := frames_le_run (s.run m) n
  omega

/-! ## Interruptions -/

/-- Nothing interrupts a session, nor will it as long as nobody tampers with the delay timer. -/
structure Uninterrupted (s : Session) : Prop where
  /-- It is not interrupted. -/
  interruption : s.interruption = none
  /-- The delay timer is a byte. -/
  delay : 0 ≤ s.machine.delay ∧ s.machine.delay ≤ 255

/-- A step is not interrupted if the delay timer is a byte, and the timer stays one. -/
theorem uninterrupted_step (hs : s.crashed = false)
    (hdelay : 0 ≤ s.machine.delay ∧ s.machine.delay ≤ 255) : s.step.Uninterrupted := by
  cases himpasse : s.machine.impasse with
  | some f =>
    have hcrash := Machine.isCrash_of_impasse hdelay himpasse
    obtain ⟨keys, previous, log, hstep⟩ := Machine.step_of_impasse hs hcrash himpasse
    rw [hstep]
    exact ⟨rfl, hdelay⟩
  | none =>
    obtain ⟨w, i, hpending, hrefusal⟩ := Machine.impasse_eq_none_iff.1 himpasse
    obtain ⟨log, hstep⟩ := step_of_pending hs hpending hrefusal
    have hlatched : 0 ≤ (s.machine.latch s.keys s.previousKeys).delay ∧
        (s.machine.latch s.keys s.previousKeys).delay ≤ 255 := hdelay
    rw [hstep]
    exact ⟨rfl, (Machine.timers_perform_mem _ i).1 hlatched⟩

/-- Nor is a run. -/
theorem uninterrupted_run (hdelay : 0 ≤ s.machine.delay ∧ s.machine.delay ≤ 255) (n : Int) :
    (s.run n).Uninterrupted := by
  have hstart : s.resume.Uninterrupted := ⟨rfl, hdelay⟩
  have hstep (t : Session) (ht : t.crashed = false) (h : t.Uninterrupted) :
      t.step.Uninterrupted := uninterrupted_step ht h.delay
  have hend (t : Session) (_ : t.halted = false) (h : t.Uninterrupted) :
      t.endFrame.Uninterrupted := ⟨h.interruption, Machine.countDown_mem h.delay⟩
  exact runFrames_induction hstep hend n.toNat hstart

/-! ## Frames -/

/-- Cycles in a row end without a halt exactly if each of them does. -/
theorem halted_steps_iff (n : Nat) :
    (s.steps (n + 1)).halted = false ↔
      ∀ k < n + 1, (s.after (.replicate k .step)).step.halted = false := by
  induction n generalizing s with
  | zero => simp [steps]
  | succ n ih =>
    rw [steps]
    cases hhalted : s.step.halted with
    | true =>
      simp only [if_true, hhalted, Bool.true_eq_false, false_iff]
      intro hall
      have hfirst := hall 0 (Nat.succ_pos _)
      rw [List.replicate_zero, after_nil, hhalted] at hfirst
      cases hfirst
    | false =>
      simp only [Bool.false_eq_true, if_false]
      rw [ih]
      constructor
      · intro hall k hk
        cases k with
        | zero => exact hhalted
        | succ k => exact hall k (Nat.lt_of_succ_lt_succ hk)
      · intro hall k hk
        exact hall (k + 1) (Nat.succ_lt_succ hk)

/-- If so, they are as many steps. -/
theorem steps_eq_after {n : Nat} (h : (s.steps n).halted = false) :
    s.steps n = s.after (.replicate n .step) := by
  induction n generalizing s with
  | zero => rfl
  | succ n ih =>
    rw [steps] at h ⊢
    cases hhalted : s.step.halted with
    | true =>
      simp only [hhalted, if_true] at h
      cases h
    | false =>
      simp only [hhalted, Bool.false_eq_true, if_false] at h ⊢
      exact ih h

/-- A frame is halted exactly if its cycles are, since its end halts nothing. -/
theorem halted_frame : s.frame.halted = (s.steps s.settings.cyclesPerFrame).halted := by
  cases hs : s.crashed with
  | true =>
    obtain ⟨n, hn⟩ : ∃ n, s.settings.cyclesPerFrame = n + 1 :=
      Nat.exists_eq_succ_of_ne_zero (Nat.ne_of_gt s.settings.cyclesPerFrame_pos)
    have hhalted := halted_of_crashed hs
    rw [frame_of_crashed hs, hn, steps, step_of_crashed hs]
    simp only [hhalted, if_true]
  | false =>
    rw [frame]
    simp only [hs, Bool.false_eq_true, if_false]
    cases hcycled : (s.steps s.settings.cyclesPerFrame).halted with
    | true => rw [if_pos rfl, hcycled]
    | false => exact hcycled

/-- A frame ends if none of its cycles halts. -/
theorem halted_frame_iff :
    s.frame.halted = false ↔
      ∀ k < s.settings.cyclesPerFrame, (s.after (.replicate k .step)).step.halted = false := by
  obtain ⟨n, hn⟩ : ∃ n, s.settings.cyclesPerFrame = n + 1 :=
    Nat.exists_eq_succ_of_ne_zero (Nat.ne_of_gt s.settings.cyclesPerFrame_pos)
  rw [halted_frame, hn]
  exact halted_steps_iff n

/-- A frame that ends is as many steps as it has cycles, and its end. -/
theorem frame_eq_endFrame (h : s.frame.halted = false) :
    s.frame = (s.after (.replicate s.settings.cyclesPerFrame .step)).endFrame := by
  have hcycled : (s.steps s.settings.cyclesPerFrame).halted = false := halted_frame ▸ h
  cases hs : s.crashed with
  | true =>
    rw [frame_of_crashed hs, halted_of_crashed hs] at h
    cases h
  | false =>
    rw [frame]
    simp only [hs, hcycled, Bool.false_eq_true, if_false]
    rw [steps_eq_after hcycled]

/-! ## What a session answers -/

/-- The machine can go on exactly if nothing halts it. -/
theorem answer_going_iff : s.answer (.going !s.crashed) = .going true ↔ s.halted = false := by
  rw [answer, halted]
  cases s.interruption with
  | none => simp
  | some f => simp

theorem apply_run_of_interruption {n : Int} (h : (s.run n).interruption = none) :
    s.apply (.run n) = (.completed ((s.run n).frames - s.frames), s.run n) := by
  show ((s.run n).answer (.completed (s.framesSince (s.run n))), s.run n) = _
  rw [answer, h, framesSince]

theorem apply_run_of_interrupted {n : Int} {f : Fault} (h : (s.run n).interruption = some f) :
    s.apply (.run n) = (.interrupted f, s.run n) := by
  show ((s.run n).answer (.completed (s.framesSince (s.run n))), s.run n) = _
  rw [answer, h]

/-- **Runs compose.** Two runs in a row end in the session in which one longer run ends, and they
complete as many frames between them, wherever the machine may be stopped. If the first of them is
broken off, there is no second. Nothing is broken off if the delay timer is a byte. A frame ends
exactly if each of its cycles would succeed as a single step, and it then is these steps, a tick of
the timers, the keys passed on, and one more frame counted. -/
theorem runs_compose (s : Session) (m n : Int) :
    (let first := s.apply (.run m)
     let second := first.2.apply (.run n)
     let once := s.apply (.run (max m 0 + max n 0))
     ((∃ a b, first.1 = .completed a ∧ second.1 = .completed b ∧
          once = (.completed (a + b), second.2)) ∨
        (∃ a f, first.1 = .completed a ∧ second.1 = .interrupted f ∧ once = second) ∨
        ∃ f, first.1 = .interrupted f ∧ once = first) ∧
      (0 ≤ s.machine.delay → s.machine.delay ≤ 255 →
        ∃ a b, first.1 = .completed a ∧ second.1 = .completed b)) ∧
    ((s.apply .frame).1 = .going true ↔
      ∀ k < s.settings.cyclesPerFrame,
        ((s.after (.replicate k .step)).apply .step).1 = .going true) ∧
    ((s.apply .frame).1 = .going true →
      let cycled := s.after (.replicate s.settings.cyclesPerFrame .step)
      (s.apply .frame).2 =
        { cycled with
          machine := cycled.machine.tick
          previousKeys := cycled.keys
          frames := cycled.frames + 1 }) := by
  refine ⟨⟨?_, ?_⟩, ?_, ?_⟩
  · have honce := run_run s m n
    cases hm : (s.run m).interruption with
    | some f =>
      rw [if_neg (by rw [hm]; nofun)] at honce
      have hlonger : s.apply (.run (max m 0 + max n 0)) = (.interrupted f, s.run m) := by
        rw [apply_run_of_interrupted (honce ▸ hm), honce]
      rw [apply_run_of_interrupted hm, hlonger]
      exact .inr (.inr ⟨f, rfl, rfl⟩)
    | none =>
      rw [if_pos hm] at honce
      rw [apply_run_of_interruption hm]
      cases hn : ((s.run m).run n).interruption with
      | some f =>
        rw [apply_run_of_interrupted hn, apply_run_of_interrupted (honce ▸ hn), honce]
        exact .inr (.inl ⟨_, f, rfl, rfl, rfl⟩)
      | none =>
        rw [apply_run_of_interruption hn, apply_run_of_interruption (honce ▸ hn), honce]
        refine .inl ⟨_, _, rfl, rfl, ?_⟩
        rw [completed_run_run s m n]
  · intro hzero hbyte
    obtain ⟨hm, hdelay⟩ := uninterrupted_run ⟨hzero, hbyte⟩ m
    obtain ⟨hn, -⟩ := uninterrupted_run hdelay n
    rw [apply_run_of_interruption hm, apply_run_of_interruption hn]
    exact ⟨_, _, rfl, rfl⟩
  · show s.frame.answer (.going !s.frame.crashed) = .going true ↔ _
    rw [answer_going_iff, halted_frame_iff]
    refine forall₂_congr fun k _ => ?_
    exact answer_going_iff.symm
  · intro hgoing
    exact frame_eq_endFrame (answer_going_iff.1 hgoing)

end Session

end Chip8
