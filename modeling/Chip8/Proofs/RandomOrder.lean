import Chip8.Proofs.Accounting
import Chip8.Proofs.Randomness
import Mathlib.Data.List.DropRight

/-!
# The order of random bytes

A source gives its bytes out one after the other, and each `CXNN` that is carried out takes one.
So the past of a machine tells which byte an instruction gets: the one that comes after as many
others as there were such instructions before. In a stream all of them count. A reset starts a
seed again, so there only those since the last reset do.

* `Stage.isRandom`, `randoms` — the instructions `CXNN` that were carried out
* `sinceReset`, `uptoReset` — what came after the last reset, and what led up to it
* `Stage.random_cases` — what a stage does to the source and to the count of its bytes
* `Machine.randoms_after` — the count tells how many bytes were taken since the last reset
* `Machine.source_since_reset` — so many bytes further the source stands
* `Machine.source_after_of_stream`, `Machine.source_after_of_seed` — where it stands
* `Machine.random_bytes_in_order` — all of this together
-/

namespace Chip8

/-! ## What is counted -/

/-- Whether a stage carries `CXNN` out. -/
def Stage.isRandom (s : Stage) : Bool :=
  match s.executed? with
  | some (.random _ _) => true
  | _ => false

/-- The number of instructions `CXNN` that were carried out. -/
def randoms (past : List Stage) : Nat := past.countP Stage.isRandom

/-- The stages after the last reset. -/
def sinceReset (past : List Stage) : List Stage := past.rtakeWhile (·.operation ≠ .reset)

/-- The operations up to the last reset, and none if there was no reset. -/
def uptoReset (ops : List Operation) : List Operation := ops.rdropWhile (· ≠ .reset)

section Past

variable {past : List Stage} {s : Stage} {ops : List Operation} {op : Operation}

theorem randoms_concat (past : List Stage) (s : Stage) :
    randoms (past ++ [s]) = randoms past + s.isRandom.toNat := by
  unfold randoms
  rw [List.countP_append, List.countP_singleton]
  cases s.isRandom <;> rfl

theorem sinceReset_concat_of_reset (h : s.operation = .reset) : sinceReset (past ++ [s]) = [] :=
  List.rtakeWhile_concat_neg _ _ _ (by simp [h])

theorem sinceReset_concat (h : s.operation ≠ .reset) :
    sinceReset (past ++ [s]) = sinceReset past ++ [s] :=
  List.rtakeWhile_concat_pos _ _ _ (by simp [h])

theorem uptoReset_concat_reset : uptoReset (ops ++ [.reset]) = ops ++ [.reset] :=
  List.rdropWhile_concat_neg _ _ _ (by simp)

theorem uptoReset_concat (h : op ≠ .reset) : uptoReset (ops ++ [op]) = uptoReset ops :=
  List.rdropWhile_concat_pos _ _ _ (by simp [h])

/-- If anything leads up to a reset, it ends with that reset. -/
theorem uptoReset_cases (ops : List Operation) :
    uptoReset ops = [] ∨ ∃ first, uptoReset ops = first ++ [.reset] := by
  induction ops using List.reverseRecOn with
  | nil => exact .inl rfl
  | append_singleton ops op ih =>
    by_cases hop : op = .reset
    · rw [hop, uptoReset_concat_reset]
      exact .inr ⟨ops, rfl⟩
    · rw [uptoReset_concat hop]
      exact ih

end Past

/-! ## One stage -/

namespace Stage

variable {s : Stage} {i : Instruction} {x : Register} {nn : UInt8}

/-- An instruction draws a byte, and counts it, exactly if it is `CXNN`. -/
theorem isRandom_of_executed (h : s.executed? = some i) (m : Machine) :
    i.draws = s.isRandom.toNat ∧ (m.tally i).randoms = s.isRandom.toNat := by
  unfold isRandom
  rw [h]
  cases i <;> exact ⟨rfl, rfl⟩

theorem isRandom_eq_false (h : ∀ x nn, s.executed? ≠ some (.random x nn)) :
    s.isRandom = false := by
  unfold isRandom
  split
  · exact absurd ‹_› (h _ _)
  · rfl

theorem isRandom_of_not_executed (h : s.executed? = none) : s.isRandom = false := by
  apply isRandom_eq_false
  intro x nn
  simp [h]

/-- **What a stage does to the source.** A reset restarts it and counts from zero. Anything
else takes a byte from it and counts that, if it carries `CXNN` out, and leaves it alone if it
does not. -/
theorem random_cases (s : Stage) :
    (s.operation = .reset ∧ s.isRandom = false ∧ s.after.source = s.machine.source.restart ∧
      s.after.counters.randoms = 0) ∨
    (s.operation ≠ .reset ∧ s.after.source = s.machine.source.after s.isRandom.toNat ∧
      s.after.counters.randoms = s.machine.counters.randoms + s.isRandom.toNat) := by
  have houtcome := s.outcome
  generalize hi : s.executed? = i?, hop : s.operation = op, s.after = m' at houtcome ⊢
  cases houtcome with
  | @executed _ _ keys previous w i =>
    obtain ⟨hdraws, hrandoms⟩ := isRandom_of_executed hi (s.machine.latch keys previous)
    refine .inr ⟨by simp, ?_, ?_⟩
    · rw [← hdraws]
      exact Machine.source_perform _ i
    · rw [← hrandoms]
      exact congrArg Counters.randoms (Machine.counters_perform _ i)
  | failed =>
    rw [isRandom_of_not_executed hi]
    exact .inr ⟨by simp, rfl, rfl⟩
  | ticked =>
    rw [isRandom_of_not_executed hi]
    exact .inr ⟨by simp, rfl, rfl⟩
  | restarted =>
    exact .inl ⟨rfl, isRandom_of_not_executed hi, Machine.source_reset _, rfl⟩

theorem reg_random (h : s.executed? = some (.random x nn)) :
    s.after.reg x = s.machine.source.draw.1 &&& nn := by
  obtain ⟨keys, previous, w, -, -, hafter⟩ := after_of_executed h
  rw [hafter]
  simp [Machine.perform, Machine.counted, Machine.onward, Machine.setReg, Machine.latch,
    Machine.reg]

theorem source_of_not_random (hreset : s.operation ≠ .reset)
    (h : ∀ x nn, s.executed? ≠ some (.random x nn)) : s.after.source = s.machine.source := by
  rcases s.random_cases with ⟨hop, -⟩ | ⟨-, hsource, -⟩
  · exact absurd hop hreset
  · rw [hsource, isRandom_eq_false h]
    rfl

end Stage

/-! ## Runs -/

theorem RandomSource.eq_of_ofSeed? {seed : Seed} {source : RandomSource}
    (h : ofSeed? seed = .ok source) : source = .ofEntropy seed.entropy := by
  unfold ofSeed? at h
  split at h
  · cases h
  · cases h
    rfl

namespace Machine

/-- The count is that of the instructions `CXNN` that were carried out since the last reset. -/
theorem randoms_after (program : Program) (source : RandomSource) (ops : List Operation) :
    ((powerOn program source).after ops).counters.randoms =
      randoms (sinceReset ((powerOn program source).stages ops)) := by
  induction ops using List.reverseRecOn with
  | nil => rfl
  | append_singleton ops op ih =>
    rw [after_concat, stages_concat]
    rcases Stage.random_cases ⟨_, op⟩ with ⟨hop, -, -, hrandoms⟩ | ⟨hop, -, hrandoms⟩
    · rw [hrandoms, sinceReset_concat_of_reset hop]
      rfl
    · rw [hrandoms, sinceReset_concat hop, randoms_concat, ih]

/-- Since the last reset the source has gone on by a byte for each `CXNN` carried out. -/
theorem source_since_reset (m : Machine) (ops : List Operation) :
    (m.after ops).source =
      (m.after (uptoReset ops)).source.after (randoms (sinceReset (m.stages ops))) := by
  induction ops using List.reverseRecOn with
  | nil => rfl
  | append_singleton ops op ih =>
    rcases Stage.random_cases ⟨m.after ops, op⟩ with ⟨hop, -⟩ | ⟨hop, hsource, -⟩
    · cases hop
      rw [uptoReset_concat_reset, stages_concat, sinceReset_concat_of_reset rfl]
      rfl
    · rw [uptoReset_concat hop, after_concat, hsource, ih, RandomSource.after_after,
        stages_concat, sinceReset_concat hop, randoms_concat]

/-- A stream stands where all that was drawn from it has brought it, resets or not. -/
theorem source_after_of_stream {m : Machine} {bytes : Nat → UInt8} {position : Nat}
    (h : m.source = .stream bytes position) (ops : List Operation) :
    (m.after ops).source = .stream bytes (position + randoms (m.stages ops)) := by
  induction ops using List.reverseRecOn with
  | nil => exact h
  | append_singleton ops op ih =>
    rw [after_concat, stages_concat, randoms_concat]
    rcases Stage.random_cases ⟨m.after ops, op⟩ with ⟨-, hrandom, hsource, -⟩ | ⟨-, hsource, -⟩
    · rw [hsource, ih, hrandom]
      rfl
    · rw [hsource, ih, RandomSource.after_stream, Nat.add_assoc]

theorem source_uptoReset {m : Machine} {entropy : List UInt32}
    (h : m.source = .ofEntropy entropy) (ops : List Operation) :
    (m.after (uptoReset ops)).source = .ofEntropy entropy := by
  rcases uptoReset_cases ops with hnone | ⟨first, hfirst⟩
  · rw [hnone]
    exact h
  · have horigin : (m.after first).source.origin = .inl entropy := by
      rw [(m.descends_after first).origin, h]
      rfl
    rw [hfirst, after_append, after_cons, after_nil]
    exact (source_reset _).trans (RandomSource.restart_of_seed horigin)

/-- A seed stands where what was drawn from it since the last reset has brought it. -/
theorem source_after_of_seed {m : Machine} {entropy : List UInt32}
    (h : m.source = .ofEntropy entropy) (ops : List Operation) :
    (m.after ops).source = (RandomSource.ofEntropy entropy).after
      (randoms (sinceReset (m.stages ops))) := by
  rw [source_since_reset, source_uptoReset h]

/-- **Random bytes are taken once and in order.** A machine gets a stream of bytes or a seed, and
it is asked for anything. Then each `CXNN` that it carries out sets its register to the next byte,
masked: with a stream the one that comes after as many others as there were such instructions
before, and with a seed the one that comes after as many as there were since the last reset.
There the source stands at the end as well. Either way the source has gone on since the last
reset by as many bytes as the machine has counted. Where neither `CXNN` is carried out nor the
machine reset, the source is not touched. -/
theorem random_bytes_in_order (program : Program) (ops : List Operation) :
    (∀ bytes : Nat → UInt8,
      let m := powerOn program (.ofStream bytes)
      (m.after ops).source = .stream bytes (randoms (m.stages ops)) ∧
        ∀ earlier s later x nn, m.stages ops = earlier ++ s :: later →
          s.executed? = some (.random x nn) → s.after.reg x = bytes (randoms earlier) &&& nn) ∧
    (∀ seed source, RandomSource.ofSeed? seed = .ok source →
      let m := powerOn program source
      (m.after ops).source = source.after (randoms (sinceReset (m.stages ops))) ∧
        ∀ earlier s later x nn, m.stages ops = earlier ++ s :: later →
          s.executed? = some (.random x nn) →
          s.after.reg x = source.byteAfter (randoms (sinceReset earlier)) &&& nn) ∧
    (∀ source,
      let m := powerOn program source
      (m.after ops).counters.randoms = randoms (sinceReset (m.stages ops)) ∧
        (m.after ops).source =
          (m.after (uptoReset ops)).source.after (m.after ops).counters.randoms) ∧
    ∀ s : Stage, s.operation ≠ .reset → (∀ x nn, s.executed? ≠ some (.random x nn)) →
      s.after.source = s.machine.source := by
  refine ⟨?_, ?_, ?_, fun s => Stage.source_of_not_random⟩
  · intro bytes m
    have hsource (ops : List Operation) :
        (m.after ops).source = .stream bytes (randoms (m.stages ops)) := by
      rw [source_after_of_stream rfl, Nat.zero_add]
    refine ⟨hsource ops, ?_⟩
    intro earlier s later x nn hstages hs
    obtain ⟨first, rest, -, rfl, hmachine⟩ := stages_eq_append_cons hstages
    rw [Stage.reg_random hs, hmachine, hsource first]
    rfl
  · intro seed source hseed m
    obtain rfl := RandomSource.eq_of_ofSeed? hseed
    have hsource := source_after_of_seed (source_powerOn program (.ofEntropy seed.entropy))
    refine ⟨hsource ops, ?_⟩
    intro earlier s later x nn hstages hs
    obtain ⟨first, rest, -, rfl, hmachine⟩ := stages_eq_append_cons hstages
    rw [Stage.reg_random hs, hmachine, hsource first, RandomSource.byteAfter]
  · intro source m
    refine ⟨randoms_after program source ops, ?_⟩
    rw [source_since_reset, randoms_after]

/-- A `CXNN` before a reset and one after it, with a cycle in between that fails for want of keys:
a stream gives its first two bytes out, and a seed its first byte twice. -/
theorem random_bytes_in_order_reset :
    let program : Program := ⟨#[0xC0, 0x0F], by decide⟩
    let cycle : Operation := .cycle (.replicate 16 false) (.replicate 16 false)
    let ops : List Operation := [cycle, .cycle [] [], .reset, cycle]
    let source := RandomSource.ofEntropy (Seed.number 7).entropy
    ((powerOn program (.ofStream fun k => 0x30 + .ofNat k)).after ops).reg 0 = 0x01 ∧
      ((powerOn program source).after ops).reg 0 = source.byteAfter 0 &&& 0x0F ∧
      (Stage.mk (powerOn program source) .tick).after.source = source := by
  intro program cycle ops source
  have hup : Keypad.ofList? (.replicate 16 false) = some .released := by decide
  have hpending (source : RandomSource) :
      (powerOn program source).pending = .ok (⟨0xC, 0x0, 0x0, 0xF⟩, .random 0 0x0F) :=
    pending_of_load (k := 0) rfl rfl (by decide) (by decide) rfl
  have hcycle (source : RandomSource) : ∃ m₁,
      (powerOn program source).apply cycle = (none, m₁) ∧ m₁.program = program ∧
        (Stage.mk (powerOn program source) cycle).executed? = some (.random 0 0x0F) := by
    have happly := apply_cycle hup hup (hpending source) rfl
    exact ⟨_, happly, program_perform _ _, Stage.executed?_of_apply (hpending source) happly⟩
  have hfail (m : Machine) :
      m.apply (.cycle [] []) = (some (.keyCount ⟨"current_keys", 0⟩), m) := by
    rw [apply, m.cycleFrom_of_current (by decide)]
    rfl
  -- the run is the same for every source, and no generator is evaluated
  have hrun (source : RandomSource) : ∃ earlier s,
      (powerOn program source).stages ops = earlier ++ [s] ∧
        (powerOn program source).after ops = s.after ∧
        s.executed? = some (.random 0 0x0F) ∧ randoms earlier = 1 ∧
        randoms (sinceReset earlier) = 0 := by
    obtain ⟨m₁, hstep, hprogram, hexecuted⟩ := hcycle source
    have hreset : m₁.reset = powerOn program m₁.source.restart := by rw [reset, hprogram]
    obtain ⟨m₂, hstep₂, -, hexecuted₂⟩ := hcycle m₁.source.restart
    rw [← hreset] at hstep₂ hexecuted₂
    generalize powerOn program source = m at hstep hexecuted ⊢
    have happly : m₁.apply .reset = (none, m₁.reset) := rfl
    generalize m₁.reset = m₁' at hstep₂ hexecuted₂ happly
    have hstages : m.stages ops =
        [] ++ [⟨m, cycle⟩] ++ [⟨m₁, .cycle [] []⟩] ++ [⟨m₁, .reset⟩] ++ [⟨m₁', cycle⟩] := by
      simp only [ops, stages, hstep, hfail, happly, List.cons_append, List.nil_append]
    have hfirst : (Stage.mk m cycle).isRandom = true := by
      rw [Stage.isRandom, hexecuted]
    have hfailed : (Stage.mk m₁ (.cycle [] [])).isRandom = false :=
      Stage.isRandom_of_not_executed (by simp only [Stage.executed?, Stage.error, hfail])
    have hrestarted : (Stage.mk m₁ .reset).isRandom = false := rfl
    refine ⟨_, _, hstages, ?_, hexecuted₂, ?_, ?_⟩
    · rw [after_cons, hstep, after_cons, hfail, after_cons, happly, after_cons, after_nil,
        Stage.after]
    · rw [randoms_concat, randoms_concat, randoms_concat, hfirst, hfailed, hrestarted]
      rfl
    · rw [sinceReset_concat_of_reset rfl]
      rfl
  obtain ⟨hstream, hseed, -, hother⟩ := random_bytes_in_order program ops
  have hsource : RandomSource.ofSeed? (.number 7) = .ok source := rfl
  clear_value source
  refine ⟨?_, ?_, ?_⟩
  · obtain ⟨earlier, s, hstages, hafter, hs, hcount, -⟩ :=
      hrun (.ofStream fun k => 0x30 + .ofNat k)
    have hreg := (hstream fun k => 0x30 + .ofNat k).2 earlier s [] 0 0x0F hstages hs
    rw [hafter, hreg, hcount]
    decide
  · obtain ⟨earlier, s, hstages, hafter, hs, -, hcount⟩ := hrun source
    have hreg := (hseed (.number 7) source hsource).2 earlier s [] 0 0x0F hstages hs
    rw [hafter, hreg, hcount]
  · rw [hother ⟨powerOn program source, .tick⟩ (by simp) (by simp [Stage.executed?])]
    exact source_powerOn program source

end Machine

end Chip8
