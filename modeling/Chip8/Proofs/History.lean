import Chip8.Proofs.Command

/-!
# What a session keeps, looking back

Many a law of a session looks back: it compares the session with the moves that it has made
so far. Such a law can be carried move by move through any sequence of commands, and it then
holds not only in the end but also in the middle of a command, right before each move.

* `Session.Carried` — a law that looks back holds before each of some moves, and after them
* `Session.Carried.append`, `Session.Carried.before` — moves after moves, and one among them
* `Session.Lasting` — a law that every move keeps, and every change between moves
* `Session.Lasting.carried` — such a law is carried through all commands
-/

namespace Chip8

namespace Session

/-- A law relates the moves that a session has made to the session. It is carried through some
moves if it holds right before each of them, where the moves before that one are counted in, and
holds of the session after the last. Only a session that was not stopped makes a cycle. -/
inductive Carried (Law : List Moment → Session → Prop) :
    List Moment → List Moment → Session → Prop where
  /-- There is no move left. -/
  | done {past : List Moment} {s : Session} (here : Law past s) : Carried Law past [] s
  /-- There is a move, and others after it. -/
  | move {past later : List Moment} {t : Moment} {s : Session} (here : Law past t.session)
      (running : t.move = .cycle → t.session.crashed = false)
      (rest : Carried Law (past ++ [t]) later s) : Carried Law past (t :: later) s

namespace Carried

variable {Law : List Moment → Session → Prop} {past ts ts' : List Moment} {s s' : Session}

theorem last (h : Carried Law past ts s) : Law (past ++ ts) s := by
  induction h with
  | done here => rwa [List.append_nil]
  | move here running rest ih => rwa [List.append_assoc] at ih

/-- Moves may be followed by others. -/
theorem append (h : Carried Law past ts s)
    (h' : Law (past ++ ts) s → Carried Law (past ++ ts) ts' s') :
    Carried Law past (ts ++ ts') s' := by
  induction h with
  | done here =>
    rw [List.append_nil] at h'
    exact h' here
  | move here running rest ih =>
    refine .move here running (ih ?_)
    rw [List.append_assoc]
    exact h'

/-- The law holds right before each move. -/
theorem before (h : Carried Law past ts s) {earlier later : List Moment} {t : Moment}
    (hts : ts = earlier ++ t :: later) :
    Law (past ++ earlier) t.session ∧ (t.move = .cycle → t.session.crashed = false) := by
  induction h generalizing earlier with
  | done here => simp at hts
  | move here running rest ih =>
    cases earlier with
    | nil =>
      cases hts
      rw [List.append_nil]
      exact ⟨here, running⟩
    | cons first earlier =>
      cases hts
      have hrest := ih rfl
      rwa [List.append_assoc] at hrest

end Carried

/-- A law that looks back lasts through some commands if every move keeps it, and so does
whatever these commands change between moves. -/
structure Lasting (commands : List Command) (Law : List Moment → Session → Prop) : Prop where
  /-- A key that is asked for goes down or up. -/
  press : ∀ n pressed, .setKey n pressed ∈ commands →
    ∀ past s key, Law past s → Law past (s.press key pressed)
  /-- Every key goes up. -/
  releaseAll : ∀ past s, Law past s → Law past s.releaseAll
  /-- An interruption is forgotten. -/
  resume : ∀ past s, Law past s → Law past s.resume
  /-- A frame begins. -/
  begin : ∀ past s, Law past s → Law (past ++ [⟨.begin, s⟩]) s
  /-- A cycle is made. -/
  cycle : ∀ past s, s.crashed = false → Law past s → Law (past ++ [⟨.cycle, s⟩]) s.step
  /-- A frame ends. -/
  finish : ∀ past s, s.halted = false → Law past s → Law (past ++ [⟨.finish, s⟩]) s.endFrame
  /-- A reset that is asked for is made. -/
  reset : .reset ∈ commands → ∀ past s, Law past s → Law (past ++ [⟨.reset, s⟩]) s.reset

namespace Lasting

variable {commands : List Command} {Law : List Moment → Session → Prop} {past : List Moment}
  {s : Session}

/-- Cycles in a row carry a lasting law. -/
theorem steps (h : Lasting commands Law) (n : Nat) (start : Law past s) :
    Carried Law past (s.chronicleSteps n) (s.steps n) := by
  induction n generalizing past s with
  | zero => exact .done start
  | succ n ih =>
    rw [chronicleSteps, Session.steps]
    cases hs : s.crashed with
    | true =>
      rw [step_of_crashed hs]
      simp only [halted, hs, Bool.true_or, if_true]
      exact .done start
    | false =>
      have hnext := h.cycle past s hs start
      simp only [Bool.false_eq_true, if_false]
      refine .move start (fun _ => hs) ?_
      cases s.step.halted with
      | true => exact .done hnext
      | false => exact ih hnext

theorem frame (h : Lasting commands Law) (start : Law past s) :
    Carried Law past s.chronicleFrame s.frame := by
  rw [chronicleFrame, Session.frame]
  cases s.crashed with
  | true => exact .done start
  | false =>
    simp only [Bool.false_eq_true, if_false]
    refine .move start (fun h => by cases h) ?_
    refine (h.steps s.settings.cyclesPerFrame (h.begin past s start)).append ?_
    intro hcycled
    cases hhalted : (s.steps s.settings.cyclesPerFrame).halted with
    | true => exact .done hcycled
    | false => exact .move hcycled (fun h => by cases h) (.done (h.finish _ _ hhalted hcycled))

theorem runFrames (h : Lasting commands Law) (n : Nat) (start : Law past s) :
    Carried Law past (s.chronicleFrames n) (s.runFrames n) := by
  induction n generalizing past s with
  | zero => exact .done start
  | succ n ih =>
    rw [chronicleFrames, Session.runFrames]
    refine (h.frame start).append ?_
    intro hframe
    cases s.frame.halted with
    | true => exact .done hframe
    | false => exact ih hframe

/-- Each of the commands carries it. -/
theorem chronicle (h : Lasting commands Law) {c : Command} (hc : c ∈ commands)
    (start : Law past s) : Carried Law past (s.chronicle c) (s.apply c).2 := by
  cases c with
  | setKey n pressed =>
    simp only [Session.chronicle, apply, setKey]
    by_cases hkey : 0 ≤ n ∧ n < 16
    · rw [dif_pos hkey]
      exact .done (h.press n pressed hc past s _ start)
    · rw [dif_neg hkey]
      exact .done start
  | releaseAll => exact .done (h.releaseAll past s start)
  | step =>
    have hsteps := h.steps 1 start
    simp only [Session.steps, ite_self] at hsteps
    exact hsteps
  | frame => exact h.frame start
  | run n => exact h.runFrames n.toNat (h.resume past s start)
  | reset => exact .move start (fun h => by cases h) (.done (h.reset hc past s start))

/-- **A lasting law is carried through all commands.** -/
theorem carried (h : Lasting commands Law) {asked : List Command}
    (hasked : ∀ c ∈ asked, c ∈ commands) (start : Law past s) :
    Carried Law past (s.history asked) (s.after asked) := by
  induction asked generalizing past s with
  | nil => exact .done start
  | cons c asked ih =>
    obtain ⟨hc, hrest⟩ := List.forall_mem_cons.1 hasked
    rw [history, after_cons]
    exact (h.chronicle hc start).append fun hnext => ih hrest hnext

end Lasting

end Session

end Chip8
