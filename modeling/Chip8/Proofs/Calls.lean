import Chip8.Proofs.Operation

/-!
# Calls and returns

A call puts its own address on the stack, a return takes the latest address off,
and no other instruction touches the stack. So what lies below the address of a
call stays there until the return that takes this very address off, however many
calls are nested in between and whatever the code does to itself.

* `Machine.stack_perform_cases` — what an instruction does to the stack
* `Machine.suffix_apply` — a step above the depth of a call keeps its address
* `Machine.suffix_after` — so does a run
* `Machine.return_of_depth` — the cycle that gets back to the depth is the return
* `Machine.call_matched` — every call is matched by its own return
-/

namespace Chip8

namespace Machine

variable {m m' : Machine}

/-! ## One instruction -/

/-- Only calls and returns touch the stack. -/
theorem stack_perform {i : Instruction} (hcall : ∀ nnn, i ≠ .call nnn) (hret : i ≠ .ret) :
    (m.perform i).stack = m.stack := by
  cases i with
  | call nnn => exact absurd rfl (hcall nnn)
  | ret => exact absurd rfl hret
  | loadBlock x => simp only [perform, onward, pastBlock]
  | awaitKey x =>
    simp only [perform]
    split <;> rfl
  | _ => rfl

/-- A return that is not refused takes the latest address off the stack and goes on after
the call there. -/
theorem stack_perform_ret (h : m.refusal .ret = none) :
    ∃ caller, m.stack = caller :: (m.perform .ret).stack ∧ (m.perform .ret).pc = caller + 2 := by
  simp only [refusal, ite_eq_right_iff, reduceCtorEq, imp_false] at h
  obtain ⟨caller, rest, hstack⟩ := List.exists_cons_of_ne_nil h
  exact ⟨caller, by simp [perform, hstack], by simp [perform, hstack]⟩

/-- The three things that can become of the stack. -/
theorem stack_perform_cases {i : Instruction} (hrefusal : m.refusal i = none) :
    (∃ nnn, i = .call nnn ∧ (m.perform i).stack = m.pc :: m.stack) ∨
      (∃ caller, i = .ret ∧ m.stack = caller :: (m.perform i).stack ∧
        (m.perform i).pc = caller + 2) ∨
      (m.perform i).stack = m.stack := by
  by_cases hcall : ∃ nnn, i = .call nnn
  · obtain ⟨nnn, rfl⟩ := hcall
    exact .inl ⟨nnn, rfl, rfl⟩
  · by_cases hret : i = .ret
    · subst hret
      obtain ⟨caller, hstack, hpc⟩ := stack_perform_ret hrefusal
      exact .inr (.inl ⟨caller, rfl, hstack, hpc⟩)
    · exact .inr (.inr (stack_perform (fun nnn hi => hcall ⟨nnn, hi⟩) hret))

theorem stack_cycle {now before : List Bool} (h : m.apply (.cycle now before) = (none, m')) :
    m'.stack = m.pc :: m.stack ∨
      (∃ w caller, m.pending = .ok (w, .ret) ∧ m.stack = caller :: m'.stack ∧
        m'.pc = caller + 2) ∨
      m'.stack = m.stack := by
  obtain ⟨keys, previous, w, i, hpending, hrefusal, rfl⟩ := apply_cycle_eq_none h
  rw [← refusal_latch m keys previous] at hrefusal
  rcases stack_perform_cases hrefusal with ⟨nnn, -, hstack⟩ | ⟨caller, rfl, hstack, hpc⟩ | hstack
  · exact .inl hstack
  · exact .inr (.inl ⟨w, caller, hpending, hstack, hpc⟩)
  · exact .inr (.inr hstack)

/-! ## Runs above the depth of a call -/

variable {caller : Int} {below : List Int}

/-- An operation that succeeds and leaves the stack deeper than what was below a call keeps
the address of the call and all below it. -/
theorem suffix_apply {op : Operation} (hsuffix : caller :: below <:+ m.stack)
    (hop : op ≠ .reset) (h : m.apply op = (none, m')) (hdepth : below.length < m'.stack.length) :
    caller :: below <:+ m'.stack := by
  cases op with
  | reset => exact absurd rfl hop
  | tick =>
    cases h
    exact hsuffix
  | cycle now before =>
    rcases stack_cycle h with hstack | ⟨w, last, -, hstack, -⟩ | hstack
    · rw [hstack]
      exact hsuffix.trans (List.suffix_cons _ _)
    · rw [hstack] at hsuffix
      rcases List.suffix_cons_iff.1 hsuffix with heq | hrest
      · -- the address of the call was taken off, against the depth
        cases heq
        omega
      · exact hrest
    · rw [hstack]
      exact hsuffix

/-- A run that succeeds and stays deeper than what was below a call keeps the address of the
call and all below it. -/
theorem suffix_after {ops : List Operation} (hsuffix : caller :: below <:+ m.stack)
    (hops : .reset ∉ ops)
    (hrun : ∀ r ∈ m.trace ops, r.1 = none ∧ below.length < r.2.stack.length) :
    caller :: below <:+ (m.after ops).stack := by
  induction ops generalizing m with
  | nil => exact hsuffix
  | cons op ops ih =>
    simp only [List.mem_cons, not_or] at hops
    obtain ⟨hok, hdepth⟩ := hrun (m.apply op) List.mem_cons_self
    have happly : m.apply op = (none, (m.apply op).2) := Prod.ext hok rfl
    have hnext := suffix_apply hsuffix (Ne.symm hops.1) happly hdepth
    exact ih hnext hops.2 fun r hr => hrun r (List.mem_cons_of_mem _ hr)

/-- The cycle that gets down to the depth below a call is the return that takes the address
of the call off. -/
theorem return_of_depth {now before : List Bool} (hsuffix : caller :: below <:+ m.stack)
    (h : m.apply (.cycle now before) = (none, m')) (hdepth : m'.stack.length ≤ below.length) :
    (∃ w, m.pending = .ok (w, .ret)) ∧ m'.stack = below ∧ m'.pc = caller + 2 := by
  have hlength := hsuffix.length_le
  rw [List.length_cons] at hlength
  rcases stack_cycle h with hstack | ⟨w, last, hpending, hstack, hpc⟩ | hstack
  · rw [hstack, List.length_cons] at hdepth
    omega
  · rw [hstack] at hsuffix
    have heq : caller :: below = last :: m'.stack :=
      hsuffix.eq_of_length_le (by simp only [List.length_cons]; omega)
    cases heq
    exact ⟨⟨w, hpending⟩, rfl, hpc⟩
  · rw [hstack] at hdepth
    omega

/-! ## Matching -/

/-- **Calls and returns match.** Suppose that a call is carried out, and after it a run in
which every operation succeeds and the stack stays deeper than it was before the call. Then
the address of the call stands on the stack, right above all that was there before. The
cycle that gets down to the depth before the call is a return. It leaves the stack that was
there before the call, and goes on right after the call. -/
theorem call_matched {nnn : Address} {now before : List Bool} {ops : List Operation}
    (hcall : m.fetch = .ok (.withAddress 0x2 nnn)) (hdepth : m.stack.length < 12)
    (hnow : now.length = 16) (hbefore : before.length = 16) (hops : .reset ∉ ops)
    (hrun : ∀ r ∈ (m.apply (.cycle now before)).2.trace ops,
      r.1 = none ∧ m.stack.length < r.2.stack.length) :
    (m.apply (.cycle now before)).1 = none ∧
      m.pc :: m.stack <:+ (m.after (.cycle now before :: ops)).stack ∧
      ∀ now' before' m', (m.after (.cycle now before :: ops)).apply (.cycle now' before') =
          (none, m') → m'.stack.length ≤ m.stack.length →
        (m.after (.cycle now before :: ops)).fetch = .ok ⟨0x0, 0x0, 0xE, 0xE⟩ ∧
          m'.stack = m.stack ∧ m'.pc = m.pc + 2 := by
  have hpending := pending_eq_ok_iff_fetch.2 ⟨hcall, Instruction.decode?_withAddress_two nnn⟩
  have hrefusal : m.refusal (.call nnn) = none := by
    rw [refusal, if_neg (by simp only [stackCapacity]; omega)]
  obtain ⟨keys, hkeys⟩ := Keypad.ofList?_of_length hnow
  obtain ⟨previous, hprevious⟩ := Keypad.ofList?_of_length hbefore
  have hcalled := apply_cycle hkeys hprevious hpending hrefusal
  have hsuffix : m.pc :: m.stack <:+ (m.after (.cycle now before :: ops)).stack := by
    rw [after_cons]
    refine suffix_after ?_ hops hrun
    rw [hcalled]
    exact List.suffix_refl _
  refine ⟨by rw [hcalled], hsuffix, ?_⟩
  intro now' before' m' happly hlength
  obtain ⟨⟨w, hret⟩, hstack, hpc⟩ := return_of_depth hsuffix happly hlength
  obtain ⟨hfetch, hdecode⟩ := pending_eq_ok_iff_fetch.1 hret
  refine ⟨?_, hstack, hpc⟩
  rw [hfetch, ← Instruction.encode_of_decode? hdecode]
  rfl

/-- A call with another one nested in it, and a tick of the timers in between. -/
theorem call_matched_nested :
    let program : Program :=
      ⟨#[0x22, 0x04, 0x00, 0x00, 0x22, 0x08, 0x00, 0xEE, 0x00, 0xEE], by decide⟩
    let m := powerOn program (.ofStream fun _ => 0)
    let cycle : Operation := .cycle (.replicate 16 false) (.replicate 16 false)
    let inner := m.after [cycle, cycle, .tick, cycle]
    (m.apply cycle).1 = none ∧ m.pc :: m.stack <:+ inner.stack ∧
      (inner.apply cycle).1 = none ∧ (inner.apply cycle).2.stack = m.stack ∧
      (inner.apply cycle).2.pc = m.pc + 2 := by
  intro program m cycle inner
  let m₁ := ((m.latch .released .released).perform (.call 0x204)).counted
  let m₂ := ((m₁.latch .released .released).perform (.call 0x208)).counted
  let m₄ := ((m₂.tick.latch .released .released).perform .ret).counted
  let m₅ := ((m₄.latch .released .released).perform .ret).counted
  have hup : Keypad.ofList? (.replicate 16 false) = some .released := by decide
  have hmemory : m.memory = .load program := by rfl
  have hpending : m.pending = .ok (⟨0x2, 0x2, 0x0, 0x4⟩, .call 0x204) :=
    pending_eq_ok_iff.2 ⟨by decide, (word_of_load (k := 0) hmemory rfl).trans (by decide), rfl⟩
  have hpending₁ : m₁.pending = .ok (⟨0x2, 0x2, 0x0, 0x8⟩, .call 0x208) :=
    pending_eq_ok_iff.2
      ⟨by decide, (word_of_load (m := m₁) (k := 4) hmemory rfl).trans (by decide), rfl⟩
  have hpending₂ : m₂.tick.pending = .ok (⟨0x0, 0x0, 0xE, 0xE⟩, .ret) :=
    pending_eq_ok_iff.2
      ⟨by decide, (word_of_load (m := m₂.tick) (k := 8) hmemory rfl).trans (by decide), rfl⟩
  have hpending₄ : m₄.pending = .ok (⟨0x0, 0x0, 0xE, 0xE⟩, .ret) :=
    pending_eq_ok_iff.2
      ⟨by decide, (word_of_load (m := m₄) (k := 6) hmemory rfl).trans (by decide), rfl⟩
  have hstep : m.apply cycle = (none, m₁) := apply_cycle hup hup hpending (by decide)
  have hstep₁ : m₁.apply cycle = (none, m₂) := apply_cycle hup hup hpending₁ (by decide)
  have hstep₂ : m₂.tick.apply cycle = (none, m₄) := apply_cycle hup hup hpending₂ (by decide)
  have hstep₄ : m₄.apply cycle = (none, m₅) := apply_cycle hup hup hpending₄ (by decide)
  have htrace : m₁.trace [cycle, .tick, cycle] = [(none, m₂), (none, m₂.tick), (none, m₄)] := by
    simp only [trace, hstep₁, hstep₂, apply_tick]
  have hdeep : ∀ r ∈ (m.apply cycle).2.trace [cycle, .tick, cycle],
      r.1 = none ∧ m.stack.length < r.2.stack.length := by
    intro r hr
    rw [hstep, htrace] at hr
    simp only [List.mem_cons, List.not_mem_nil, or_false] at hr
    rcases hr with rfl | rfl | rfl <;> exact ⟨rfl, by decide⟩
  have hinner : inner = m₄ := by
    rw [show inner = m.after [cycle, cycle, .tick, cycle] from rfl, after_cons, hstep, after_cons,
      hstep₁, after_cons, apply_tick, after_cons, hstep₂, after_nil]
  obtain ⟨hok, hsuffix, hreturn⟩ := @call_matched m 0x204 _ _ [cycle, .tick, cycle]
    (pending_eq_ok_iff_fetch.1 hpending).1 (by decide) (by decide) (by decide) (by decide) hdeep
  have hlast : inner.apply cycle = (none, m₅) := by rw [hinner, hstep₄]
  obtain ⟨-, hstack, hpc⟩ := hreturn _ _ m₅ hlast (by decide)
  rw [hlast]
  exact ⟨hok, hsuffix, rfl, hstack, hpc⟩

end Machine

end Chip8
