import Chip8.Proofs.Sprites
import Chip8.Proofs.Timeline
import Mathlib.Data.List.DropRight

/-!
# The screen as a parity

Drawing a sprite switches the pixels that it covers, so that a pixel is lit if it has been
switched an odd number of times since everything was cleared. It follows that between two
clears the order of the sprites does not matter, and that a sprite drawn twice might as well
not have been drawn.

* `Stroke`, `Screen.paint` — what changes a screen, and the screen after a list of that
* `sinceClear` — the sprites drawn since the last clear
* `Screen.pixel_paint` — the parity
* `Screen.paint_perm`, `Screen.paint_pair` — sprites in another order, and sprites drawn twice
* `Stage.stroke?` — what a machine does to its screen at a stage, if anything
* `Machine.screen_after` — its screen is painted by what its program draws
* `Screen.content_is_parity` — all of this together
-/

namespace Chip8

/-- What changes a screen. -/
inductive Stroke where
  /-- Every pixel is switched off. -/
  | clear
  /-- A sprite is drawn. -/
  | draw (p : Sprite)
deriving DecidableEq, Repr

/-- The sprite that is drawn, if one is. -/
def Stroke.sprite? : Stroke → Option Sprite
  | .clear => none
  | .draw p => some p

/-- The sprites that are drawn after the last clear, in their order. -/
def sinceClear (strokes : List Stroke) : List Sprite :=
  (strokes.rtakeWhile fun stroke => stroke.sprite?.isSome).filterMap Stroke.sprite?

@[simp] theorem sinceClear_nil : sinceClear [] = [] := rfl

@[simp] theorem sinceClear_concat_clear (strokes : List Stroke) :
    sinceClear (strokes ++ [.clear]) = [] := by
  simp [sinceClear, Stroke.sprite?]

@[simp] theorem sinceClear_concat_draw (strokes : List Stroke) (p : Sprite) :
    sinceClear (strokes ++ [.draw p]) = sinceClear strokes ++ [p] := by
  simp [sinceClear, Stroke.sprite?]

/-! ## Painting -/

namespace Screen

/-- The screen after a stroke. -/
def stroke (s : Screen) : Stroke → Screen
  | .clear => .blank
  | .draw p => s.draw p.x p.y p.rows

/-- The screen after a list of strokes. -/
def paint (s : Screen) (strokes : List Stroke) : Screen := strokes.foldl stroke s

@[simp] theorem paint_nil (s : Screen) : s.paint [] = s := rfl

@[simp] theorem paint_cons (s : Screen) (stroke : Stroke) (strokes : List Stroke) :
    s.paint (stroke :: strokes) = (s.stroke stroke).paint strokes := rfl

theorem paint_append (s : Screen) (strokes strokes' : List Stroke) :
    s.paint (strokes ++ strokes') = (s.paint strokes).paint strokes' :=
  List.foldl_append

/-- **The parity of a pixel.** On a screen that was blank at first, a pixel is lit exactly if
an odd number of the sprites drawn since the last clear cover it. -/
theorem pixel_paint (strokes : List Stroke) (column row : Nat) :
    (blank.paint strokes).pixel column row = true ↔
      (sinceClear strokes).countP (·.Covers column row) % 2 = 1 := by
  induction strokes using List.reverseRecOn with
  | nil => simp
  | append_singleton strokes last ih =>
    rw [paint_append]
    cases last with
    | clear => simp [stroke]
    | draw p =>
      simp only [paint_cons, paint_nil, stroke, pixel_draw, sinceClear_concat_draw,
        List.countP_append, List.countP_singleton]
      -- the last sprite switches the pixel and adds one to the count, or does neither
      by_cases hp : p.Covers column row
      · simp only [hp, decide_true, Bool.xor_true, Bool.not_eq_true', if_true]
        rw [← Bool.not_eq_true, ih]
        omega
      · simp only [hp, decide_false, Bool.xor_false, Bool.false_eq_true, if_false, Nat.add_zero]
        exact ih

/-- Sprites can be drawn in any order. -/
theorem paint_perm (s : Screen) {block block' : List Sprite} (h : block.Perm block') :
    s.paint (block.map .draw) = s.paint (block'.map .draw) := by
  induction h generalizing s with
  | nil => rfl
  | cons p h ih => exact ih (s.stroke (.draw p))
  | swap p q block => simp [stroke, draw_comm s p q]
  | trans h h' ih ih' => rw [ih, ih']

/-- A sprite that is drawn twice, with nothing but sprites drawn in between, might as well
not have been drawn. -/
theorem paint_pair (s : Screen) (p : Sprite) (between : List Sprite) :
    ((s.stroke (.draw p)).paint (between.map .draw)).stroke (.draw p) =
      s.paint (between.map .draw) := by
  have hperm : (p :: between ++ [p]).Perm (p :: p :: between) :=
    (List.perm_append_singleton p between).cons p
  have hpaint := paint_perm s hperm
  simpa [paint_append, stroke, draw_draw] using hpaint

end Screen

/-! ## What machines draw -/

/-- What is done to the screen at a stage, if anything: an instruction clears it or draws a
sprite on it, or the machine is reset. The sprite is what the registers and the memory
hold before the instruction. -/
def Stage.stroke? (s : Stage) : Option Stroke :=
  match s.operation, s.executed? with
  | .reset, _ => some .clear
  | _, some .cls => some .clear
  | _, some (.draw x y n) =>
    some (.draw ⟨(s.machine.reg x).toNat, (s.machine.reg y).toNat, s.machine.bytesAtIndex n.val⟩)
  | _, _ => none

namespace Machine

theorem screen_perform (m : Machine) {i : Instruction} (hcls : i ≠ .cls)
    (hdraw : ∀ x y n, i ≠ .draw x y n) : (m.perform i).screen = m.screen := by
  cases i with
  | cls => exact absurd rfl hcls
  | draw x y n => exact absurd rfl (hdraw x y n)
  | loadBlock x => simp only [perform, onward, pastBlock]
  | awaitKey x =>
    simp only [perform]
    split <;> rfl
  | _ => rfl

end Machine

namespace Stage

/-- The screen after a stage is the one before it, with what is done to it. -/
theorem screen_after (s : Stage) :
    s.after.screen = s.machine.screen.paint s.stroke?.toList := by
  unfold stroke?
  have houtcome := s.outcome
  generalize s.operation = op, s.executed? = i?, s.after = m' at houtcome ⊢
  cases houtcome with
  | @executed _ _ keys previous w i =>
    cases i with
    | cls => rfl
    | draw x y n => rfl
    | _ => exact Machine.screen_perform _ nofun nofun
  | failed => rfl
  | ticked => rfl
  | restarted => rfl

/-- Where nothing is done to the screen, it stays as it is. -/
theorem screen_of_not_drawing {s : Stage} (hreset : s.operation ≠ .reset)
    (hcls : s.executed? ≠ some .cls) (hdraw : ∀ x y n, s.executed? ≠ some (.draw x y n)) :
    s.after.screen = s.machine.screen := by
  have hnone : s.stroke? = none := by
    unfold stroke?
    split
    · exact absurd ‹_› hreset
    · exact absurd ‹_› hcls
    · exact absurd ‹_› (hdraw _ _ _)
    · rfl
  rw [screen_after, hnone]
  rfl

end Stage

namespace Machine

/-- The screen is painted by what is done to it. -/
theorem screen_after (m : Machine) (ops : List Operation) :
    (m.after ops).screen = m.screen.paint ((m.stages ops).filterMap Stage.stroke?) := by
  induction ops using List.reverseRecOn with
  | nil => rfl
  | append_singleton ops op ih =>
    rw [after_concat, stages_concat, List.filterMap_append, Screen.paint_append, ← ih,
      Stage.screen_after]
    cases hstroke : (Stage.mk (m.after ops) op).stroke? <;> simp [hstroke]

end Machine

/-- **The content of a screen is a parity over the sprites drawn.** Whatever is drawn on a
blank screen, a pixel is lit exactly if an odd number of the sprites drawn since the last
clear cover it, so that between two clears sprites can be drawn in another order, and two
equal ones can be left out. The screen of a machine since power-on is painted in this way by
the instructions `00E0` and `DXYN` that it has carried out and by its resets. Nothing else
that it is asked for changes the screen. -/
theorem Screen.content_is_parity :
    (∀ (strokes : List Stroke) (column row : Nat), (blank.paint strokes).pixel column row = true ↔
      (sinceClear strokes).countP (·.Covers column row) % 2 = 1) ∧
    (∀ (before after : List Stroke) (block block' : List Sprite), block.Perm block' →
      blank.paint (before ++ block.map .draw ++ after) =
        blank.paint (before ++ block'.map .draw ++ after)) ∧
    (∀ (before after : List Stroke) (p : Sprite) (between : List Sprite),
      blank.paint (before ++ .draw p :: between.map .draw ++ .draw p :: after) =
        blank.paint (before ++ between.map .draw ++ after)) ∧
    (∀ program source ops,
      let m := Machine.powerOn program source
      let strokes := (m.stages ops).filterMap Stage.stroke?
      (m.after ops).screen = blank.paint strokes ∧
        ∀ column row, (m.after ops).screen.pixel column row = true ↔
          (sinceClear strokes).countP (·.Covers column row) % 2 = 1) ∧
    (∀ s : Stage, s.operation ≠ .reset → s.executed? ≠ some .cls →
      (∀ x y n, s.executed? ≠ some (.draw x y n)) → s.after.screen = s.machine.screen) := by
  refine ⟨pixel_paint, fun before after block block' h => ?_, fun before after p between => ?_,
    fun program source ops => ?_, fun s => Stage.screen_of_not_drawing⟩
  · simp only [paint_append]
    rw [paint_perm _ h]
  · simp only [paint_append, paint_cons, paint_pair]
  · intro m strokes
    have hscreen : (m.after ops).screen = blank.paint strokes := m.screen_after ops
    refine ⟨hscreen, fun column row => ?_⟩
    rw [hscreen]
    exact pixel_paint strokes column row

/-- Two sprites with a common pixel in the last column, and one of them drawn before a clear
and once more. -/
theorem Screen.content_is_parity_overlap :
    let p : Sprite := ⟨60, 0, [0xF0]⟩
    let q : Sprite := ⟨-1, 32, [0x80, 0x80]⟩
    let m := Machine.powerOn .empty (.ofStream fun _ => 0)
    (blank.paint [.draw p, .clear, .draw p, .draw q]).pixel 63 0 = false ∧
      (blank.paint [.draw p, .clear, .draw p, .draw q]).pixel 63 1 = true ∧
      blank.paint [.clear, .draw p, .draw q] = blank.paint [.clear, .draw q, .draw p] ∧
      blank.paint [.draw p, .draw q, .draw p, .clear] = blank.paint [.draw q, .clear] ∧
      m.tick.screen = m.screen := by
  intro p q m
  obtain ⟨hparity, hperm, hpair, -, hother⟩ := content_is_parity
  refine ⟨?_, ?_, ?_, ?_, ?_⟩
  · rw [← Bool.not_eq_true, hparity]
    decide
  · rw [hparity]
    decide
  · exact hperm [.clear] [] [p, q] [q, p] (.swap q p [])
  · exact hpair [] [.clear] p [q]
  · exact hother ⟨m, .tick⟩ nofun nofun nofun

end Chip8
