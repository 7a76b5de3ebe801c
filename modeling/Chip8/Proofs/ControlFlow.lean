import Chip8.Listing.Flow
import Chip8.Proofs.Calls
import Chip8.Proofs.Lines
import Mathlib.Logic.ExistsUnique

/-!
# Control flow

A listing tells from the words alone where a program can go on. A machine goes on where its
instructions send it. The two agree as long as the machine stands at a line of the listing and
the bytes of that line are still in the store: whatever a cycle does to the program counter is
one of seven kinds of transfers, and the listing shows the jumps, the calls and the skips.

* `Flow.IsPart`, `Flow.IsPart.mem_ofLines_iff` — the flow of a listing, line by line
* `Flow.exists_ofLines` — there is no listing of bytes without a flow
* `Transfer`, `Word.transfer`, `Flow.Takes` — the kinds of transfers, and what each of them does
* `Machine.AtLine` — a machine that stands at a line
* `Machine.AtLine.takes_apply` — the transfer that a cycle takes
* `Flow.flow_sound` — the flow of a program says where its machine goes on
-/

namespace Chip8

/-! ## The flow of a listing -/

namespace Flow

variable {α : Type} {part : Flow → List α} {lines : List Line} {flow : Flow}

/-- A part of a flow that is put together line by line. -/
structure IsPart (part : Flow → List α) : Prop where
  /-- No lines, no transfers. -/
  empty : part {} = []
  /-- The transfers of two parts of a listing, the first before the second. -/
  append : ∀ f g, part (f.append g) = part f ++ part g

theorem isPart_jumps : IsPart jumps := ⟨rfl, fun _ _ => rfl⟩

theorem isPart_calls : IsPart calls := ⟨rfl, fun _ _ => rfl⟩

theorem isPart_branches : IsPart branches := ⟨rfl, fun _ _ => rfl⟩

theorem isPart_loops : IsPart loops := ⟨rfl, fun _ _ => rfl⟩

/-- A flow is that of the first line before that of the others. -/
theorem ofLines_cons_eq_ok_iff {line : Line} {rest : List Line} :
    ofLines (line :: rest) = .ok flow ↔
      ∃ first others, ofLine line = .ok first ∧ ofLines rest = .ok others ∧
        flow = first.append others := by
  rw [ofLines]
  cases ofLine line with
  | error e => simp [bind, Except.bind]
  | ok first =>
    cases ofLines rest with
    | error e => simp [bind, Except.bind]
    | ok others => simp [bind, Except.bind, eq_comm]

/-- What a flow lists is listed for one of the lines. -/
theorem IsPart.mem_ofLines_iff (hpart : IsPart part) (h : ofLines lines = .ok flow) {a : α} :
    a ∈ part flow ↔ ∃ line ∈ lines, ∃ f, ofLine line = .ok f ∧ a ∈ part f := by
  induction lines generalizing flow with
  | nil =>
    cases h
    simp [hpart.empty]
  | cons line rest ih =>
    obtain ⟨first, others, hfirst, hothers, rfl⟩ := ofLines_cons_eq_ok_iff.1 h
    simp [hpart.append, ih hothers, hfirst]

/-- There is a flow if there is one for every line. -/
theorem exists_ofLines (h : ∀ line ∈ lines, ∃ f, ofLine line = .ok f) :
    ∃ flow, ofLines lines = .ok flow := by
  induction lines with
  | nil => exact ⟨{}, rfl⟩
  | cons line rest ih =>
    obtain ⟨hline, hrest⟩ := List.forall_mem_cons.1 h
    obtain ⟨first, hfirst⟩ := hline
    obtain ⟨others, hothers⟩ := ih hrest
    exact ⟨_, ofLines_cons_eq_ok_iff.2 ⟨first, others, hfirst, hothers, rfl⟩⟩

/-! ### Lines of bytes -/

/-- The flow of a word is that of its instruction, if it is one. -/
theorem ofLine_ofWord (address : Int) (w : Word) :
    ofLine (.ofWord address w) =
      .ok (((Instruction.decode? w).map (ofInstruction address)).getD {}) := by
  cases hdecode : Instruction.decode? w with
  | none =>
    have hdata : isData (.ofWord address w) = true := by
      simp [isData, Line.ofWord, Assembly.ofWord, hdecode, Assembly.dataWord]
    rw [ofLine, if_pos hdata]
    rfl
  | some i =>
    have hdata : ¬isData (.ofWord address w) = true := by
      simp [isData, Line.ofWord, Assembly.ofWord, hdecode, i.mnemonic_assembly]
    rw [ofLine, if_neg hdata]
    have hnumber : Instruction.decode w.toNat = .ok i := by
      rw [Instruction.decode_toNat, hdecode]
    exact congrArg (Except.map (ofInstruction address)) hnumber

theorem ofLine_ofByte (address : Int) (b : UInt8) : ofLine (.ofByte address b) = .ok {} := rfl

theorem exists_ofLines_ofBytes (bytes : List UInt8) (address : Int) :
    ∃ flow, ofLines (Listing.ofBytes bytes address) = .ok flow := by
  refine exists_ofLines fun line hline => ?_
  obtain ⟨k, hk⟩ := List.mem_iff_getElem?.1 hline
  rcases Listing.getElem?_eq_some hk with ⟨high, low, -, -, rfl⟩ | ⟨last, -, -, rfl⟩
  · exact ⟨_, ofLine_ofWord _ _⟩
  · exact ⟨_, ofLine_ofByte _ _⟩

/-- What the flow of some bytes lists is listed for an instruction among their lines. -/
theorem IsPart.exists_of_mem (hpart : IsPart part) {bytes : List UInt8} {address : Int}
    (h : ofLines (Listing.ofBytes bytes address) = .ok flow) {a : α} (ha : a ∈ part flow) :
    ∃ here w i, .ofWord here w ∈ Listing.ofBytes bytes address ∧ Instruction.decode? w = some i ∧
      a ∈ part (ofInstruction here i) := by
  obtain ⟨line, hmem, f, hf, haf⟩ := (hpart.mem_ofLines_iff h).1 ha
  have hnone : a ∉ part {} := by simp [hpart.empty]
  obtain ⟨k, hk⟩ := List.mem_iff_getElem?.1 hmem
  rcases Listing.getElem?_eq_some hk with ⟨high, low, -, -, rfl⟩ | ⟨last, -, -, rfl⟩
  · rw [ofLine_ofWord] at hf
    cases hdecode : Instruction.decode? (.ofBytes high low) with
    | none =>
      rw [hdecode] at hf
      cases hf
      exact absurd haf hnone
    | some i =>
      rw [hdecode] at hf
      cases hf
      exact ⟨_, _, i, hmem, hdecode, haf⟩
  · rw [ofLine_ofByte] at hf
    cases hf
    exact absurd haf hnone

theorem exists_of_mem_jumps {bytes : List UInt8} {address : Int}
    (h : ofLines (Listing.ofBytes bytes address) = .ok flow) {here target : Int}
    (hjump : (here, target) ∈ flow.jumps) :
    ∃ (w : Word) (nnn : Address), .ofWord here w ∈ Listing.ofBytes bytes address ∧
      Instruction.decode? w = some (.jump nnn) ∧ target = nnn.val := by
  obtain ⟨_, w, i, hmem, hdecode, hi⟩ := isPart_jumps.exists_of_mem h hjump
  cases i with
  | jump nnn =>
    obtain ⟨rfl, rfl⟩ := Prod.mk.inj (List.mem_singleton.1 hi)
    exact ⟨w, nnn, hmem, hdecode, rfl⟩
  | _ => cases hi

theorem exists_of_mem_calls {bytes : List UInt8} {address : Int}
    (h : ofLines (Listing.ofBytes bytes address) = .ok flow) {here target : Int}
    (hcall : (here, target) ∈ flow.calls) :
    ∃ (w : Word) (nnn : Address), .ofWord here w ∈ Listing.ofBytes bytes address ∧
      Instruction.decode? w = some (.call nnn) ∧ target = nnn.val := by
  obtain ⟨_, w, i, hmem, hdecode, hi⟩ := isPart_calls.exists_of_mem h hcall
  cases i with
  | call nnn =>
    obtain ⟨rfl, rfl⟩ := Prod.mk.inj (List.mem_singleton.1 hi)
    exact ⟨w, nnn, hmem, hdecode, rfl⟩
  | _ => cases hi

end Flow

/-! ## Transfers -/

/-- The ways in which an instruction sends its machine on. -/
inductive Transfer where
  /-- A jump to an address. -/
  | jump
  /-- A call of a subroutine. -/
  | call
  /-- A return from a subroutine. -/
  | ret
  /-- A jump by a register. -/
  | offset
  /-- The next instruction may be skipped. -/
  | skip
  /-- A wait for a key. -/
  | wait
  /-- The next instruction follows. -/
  | onward
deriving DecidableEq, Repr

/-- The kind of transfer that a word asks for: `1NNN`, `2NNN`, `00EE`, `BNNN`, one of the six
that skip, `FX0A`, or any other. -/
def Word.transfer : Word → Transfer
  | ⟨0x1, _, _, _⟩ => .jump
  | ⟨0x2, _, _, _⟩ => .call
  | ⟨0x0, 0x0, 0xE, 0xE⟩ => .ret
  | ⟨0xB, _, _, _⟩ => .offset
  | ⟨0x3, _, _, _⟩ | ⟨0x4, _, _, _⟩ | ⟨0x5, _, _, 0x0⟩ | ⟨0x9, _, _, 0x0⟩
  | ⟨0xE, _, 0x9, 0xE⟩ | ⟨0xE, _, 0xA, 0x1⟩ => .skip
  | ⟨0xF, _, 0x0, 0xA⟩ => .wait
  | _ => .onward

/-- Whether a machine that goes on at `next` takes a transfer of some kind: its word asks for
that kind, and the flow of the listing, its stack or its registers lead to `next`. -/
def Flow.Takes (flow : Flow) (m : Machine) (next : Int) (kind : Transfer) : Prop :=
  m.word.transfer = kind ∧
    match kind with
    | .jump => (m.pc, next) ∈ flow.jumps
    | .call => (m.pc, next) ∈ flow.calls
    | .ret => ∃ caller, m.stack.head? = some caller ∧ next = caller + 2
    | .offset => next = m.word.nnn.val + (m.reg 0).toNat
    | .skip => m.pc ∈ flow.branches ∧ (next = m.pc + 2 ∨ next = m.pc + 4)
    | .wait => next = m.pc ∨ next = m.pc + 2
    | .onward => next = m.pc + 2

/-- The kind of transfer that an instruction asks for. -/
def Instruction.transfer : Instruction → Transfer
  | .jump _ => .jump
  | .call _ => .call
  | .ret => .ret
  | .jumpOffset _ => .offset
  | .skipIfByte _ _ | .skipUnlessByte _ _ | .skipIfEqual _ _ | .skipUnlessEqual _ _
  | .skipIfDown _ | .skipUnlessDown _ => .skip
  | .awaitKey _ => .wait
  | _ => .onward

/-- The word of an instruction that can be carried out asks for the same kind. -/
theorem Instruction.transfer_encode {i : Instruction} (hsys : ∀ nnn, i ≠ .sys nnn) :
    i.encode.transfer = i.transfer := by
  cases i with
  | sys nnn => exact absurd rfl (hsys nnn)
  | _ => rfl

/-! ## Standing at a line -/

namespace Machine

/-- A cycle that succeeds carries out the instruction of the word at the program counter, with
the keys that it shows the machine. -/
theorem exists_perform_of_apply {m m' : Machine} {now before : List Bool}
    (happly : m.apply (.cycle now before) = (none, m')) :
    ∃ keys previous i, m.pending = .ok (m.word, i) ∧ Instruction.decode? m.word = some i ∧
      (m.latch keys previous).refusal i = none ∧
        m' = ((m.latch keys previous).perform i).counted := by
  obtain ⟨keys, previous, w, i, hpending, hrefusal, rfl⟩ := apply_cycle_eq_none happly
  obtain ⟨-, rfl, hdecode⟩ := pending_eq_ok_iff.1 hpending
  exact ⟨keys, previous, i, hpending, hdecode, (refusal_latch ..).trans hrefusal, rfl⟩

/-- A machine stands at a line of two bytes of a program, and its store still holds the
program's bytes there. -/
structure AtLine (m : Machine) (program : Program) (line : Line) : Prop where
  /-- The line is one of the listing. -/
  listed : line ∈ Listing.ofProgram program
  /-- It shows two bytes. -/
  wide : ¬line.IsByte
  /-- The next instruction is the one at its address. -/
  here : m.pc = line.address
  /-- The store holds the first of its bytes. -/
  high : program.bytes[(m.pc - programStart).toNat]? = some (m.memory.byteAt m.pc.toNat)
  /-- And the second. -/
  low : program.bytes[(m.pc - programStart).toNat + 1]? = some (m.memory.byteAt (m.pc.toNat + 1))

namespace AtLine

variable {m : Machine} {program : Program} {line : Line} {flow : Flow} {i : Instruction}

/-- What a machine stands at is told by its program counter and its store alone. -/
theorem latch (h : m.AtLine program line) (now before : Keypad) :
    (m.latch now before).AtLine program line := { h with }

theorem eq_ofWord (h : m.AtLine program line) :
    line = .ofWord m.pc m.word ∧ 0 ≤ m.pc ∧ m.pc ≤ 4094 := by
  obtain ⟨k, high, low, hhigh, hlow, hline⟩ := Listing.exists_of_mem h.listed h.wide
  have hpc : m.pc = programStart + 2 * k := by
    rw [h.here, hline]
    rfl
  have hplace : (m.pc - programStart).toNat = 2 * k := by omega
  have hhigh' := h.high
  have hlow' := h.low
  rw [Array.getElem?_toList] at hhigh hlow
  rw [hplace, hhigh] at hhigh'
  rw [hplace, hlow] at hlow'
  obtain ⟨hlt, -⟩ := Array.getElem?_eq_some_iff.1 hlow
  have hfits := program.fits
  simp only [maxProgramSize, memorySize, programStart] at hfits hpc
  refine ⟨?_, by omega, by omega⟩
  rw [hline, word, ← Option.some.inj hhigh', ← Option.some.inj hlow', hpc]
  rfl

theorem pending (h : m.AtLine program line) (hdecode : Instruction.decode? m.word = some i) :
    m.pending = .ok (m.word, i) :=
  pending_eq_ok_iff.2 ⟨h.eq_ofWord.2, rfl, hdecode⟩

theorem mem_flow {α : Type} {part : Flow → List α} (hpart : Flow.IsPart part)
    (h : m.AtLine program line) (hflow : Flow.ofLines (Listing.ofProgram program) = .ok flow)
    (hdecode : Instruction.decode? m.word = some i) {a : α}
    (ha : a ∈ part (Flow.ofInstruction m.pc i)) : a ∈ part flow := by
  refine (hpart.mem_ofLines_iff hflow).2 ⟨line, h.listed, Flow.ofInstruction m.pc i, ?_, ha⟩
  rw [h.eq_ofWord.1, Flow.ofLine_ofWord, hdecode]
  rfl

theorem word_eq (h : m.AtLine program line) {w : Word}
    (hw : .ofWord m.pc w ∈ Listing.ofProgram program) : w = m.word := by
  have hsame : Line.ofWord m.pc w = .ofWord m.pc m.word :=
    Listing.eq_of_address_eq hw (h.eq_ofWord.1 ▸ h.listed) rfl
  have hnumber : (w.toNat : Int) = m.word.toNat := (Line.mk.inj hsame).2.1
  exact Word.toNat_inj (Int.ofNat.inj hnumber)

/-- An instruction that is carried out takes its transfer. -/
theorem takes_perform (h : m.AtLine program line)
    (hflow : Flow.ofLines (Listing.ofProgram program) = .ok flow)
    (hdecode : Instruction.decode? m.word = some i) (hrefusal : m.refusal i = none) :
    flow.Takes m (m.perform i).pc i.transfer := by
  have hencode := Instruction.encode_of_decode? hdecode
  refine ⟨?_, ?_⟩
  · -- the one instruction whose word may ask for something else is always refused
    rw [← hencode]
    refine Instruction.transfer_encode fun nnn hi => ?_
    subst hi
    cases hrefusal
  · cases i with
    | jump nnn => exact h.mem_flow Flow.isPart_jumps hflow hdecode (List.mem_singleton.2 rfl)
    | call nnn => exact h.mem_flow Flow.isPart_calls hflow hdecode (List.mem_singleton.2 rfl)
    | ret =>
      obtain ⟨caller, hstack, hpc⟩ := stack_perform_ret hrefusal
      exact ⟨caller, by rw [hstack, List.head?_cons], hpc⟩
    | jumpOffset nnn =>
      change (nnn.val + (m.reg 0).toNat : Int) = m.word.nnn.val + (m.reg 0).toNat
      rw [← hencode, Instruction.encode, Word.nnn_withAddress]
    | skipIfByte x nn | skipUnlessByte x nn | skipIfEqual x y | skipUnlessEqual x y
    | skipIfDown x | skipUnlessDown x =>
      refine ⟨h.mem_flow Flow.isPart_branches hflow hdecode (List.mem_singleton.2 rfl), ?_⟩
      simp only [perform, skipIf]
      split <;> omega
    | awaitKey x =>
      change (m.perform (.awaitKey x)).pc = m.pc ∨ (m.perform (.awaitKey x)).pc = m.pc + 2
      rw [perform]
      split
      · exact .inr rfl
      · exact .inl rfl
    | sys nnn => cases hrefusal
    | loadBlock x =>
      -- not by evaluation, which would load the registers
      change (m.perform (.loadBlock x)).pc = m.pc + 2
      rw [perform, onward, pastBlock]
    | _ => rfl

/-- So a cycle that succeeds takes the transfer of the instruction at the line. -/
theorem takes_apply (h : m.AtLine program line)
    (hflow : Flow.ofLines (Listing.ofProgram program) = .ok flow) {m' : Machine}
    {now before : List Bool} (happly : m.apply (.cycle now before) = (none, m')) :
    ∃ i, Instruction.decode? m.word = some i ∧ flow.Takes m m'.pc i.transfer := by
  obtain ⟨keys, previous, i, -, hdecode, hrefusal, rfl⟩ := exists_perform_of_apply happly
  exact ⟨i, hdecode, (h.latch keys previous).takes_perform hflow hdecode hrefusal⟩

/-- An instruction that is not refused is carried out, whatever keys the machine is shown. -/
theorem apply_of_decode? (h : m.AtLine program line)
    (hdecode : Instruction.decode? m.word = some i) (hrefusal : m.refusal i = none)
    {now before : List Bool} (hnow : now.length = 16) (hbefore : before.length = 16) :
    ∃ keys previous, m.apply (.cycle now before) =
      (none, ((m.latch keys previous).perform i).counted) := by
  obtain ⟨keys, hkeys⟩ := Keypad.ofList?_of_length hnow
  obtain ⟨previous, hprevious⟩ := Keypad.ofList?_of_length hbefore
  exact ⟨keys, previous, apply_cycle hkeys hprevious (h.pending hdecode) hrefusal⟩

end AtLine

/-- A machine with a program just loaded stands at any line that its program counter names. -/
theorem atLine_of_load {m : Machine} {program : Program} {line : Line}
    (hmemory : m.memory = .load program) (hlisted : line ∈ Listing.ofProgram program)
    (hwide : ¬line.IsByte) (hpc : m.pc = line.address) : m.AtLine program line := by
  obtain ⟨k, high, low, hhigh, hlow, hline⟩ := Listing.exists_of_mem hlisted hwide
  have hpc' : m.pc = programStart + 2 * k := by
    rw [hpc, hline]
    rfl
  have hstore : ∀ (n : Nat) (b : UInt8), program.bytes[n]? = some b →
      (Memory.load program).byteAt (programStart + n) = b := fun n b hb => by
    rw [Memory.byteAt_load, dif_neg (by simp only [programStart]; omega),
      if_pos (Nat.le_add_right _ _), Nat.add_sub_cancel_left, Array.getD_eq_getD_getElem?, hb]
    rfl
  have hplace : (m.pc - programStart).toNat = 2 * k := by omega
  have hstart : m.pc.toNat = programStart + 2 * k := by omega
  rw [Array.getElem?_toList] at hhigh hlow
  refine ⟨hlisted, hwide, hpc, ?_, ?_⟩
  · rw [hmemory, hplace, hstart, hstore _ _ hhigh, hhigh]
  · rw [hmemory, hplace, hstart, Nat.add_assoc, hstore _ _ hlow, hlow]

end Machine

/-! ## Soundness -/

/-- **The flow of a program is sound.** Every program has a flow. A machine that stands at a line
of two bytes, and makes a cycle that succeeds, goes on by exactly one kind of transfer: by a jump
or a call that the flow shows, after the call that its stack names, at an address that it adds
`V0` to, at one of the next two instructions where the flow shows a skip, at the same or the next
instruction when it waits for a key, and otherwise at the next instruction. And what the flow
shows is there: every jump and every call is at a line of two bytes, every machine that stands
at a jump takes it, and so does every machine that stands at a call and has room for it. -/
theorem Flow.flow_sound (program : Program) :
    ∃ flow, Flow.ofLines (Listing.ofProgram program) = .ok flow ∧
      (∀ (m m' : Machine) (line : Line) (now before : List Bool), m.AtLine program line →
        m.apply (.cycle now before) = (none, m') → ∃! kind, flow.Takes m m'.pc kind) ∧
      (∀ here target, (here, target) ∈ flow.jumps ∨ (here, target) ∈ flow.calls →
        ∃ line ∈ Listing.ofProgram program, ¬line.IsByte ∧ line.address = here) ∧
      ∀ (m : Machine) (line : Line) (now before : List Bool) (target : Int),
        m.AtLine program line → now.length = 16 → before.length = 16 →
          (m.pc, target) ∈ flow.jumps ∨ (m.pc, target) ∈ flow.calls ∧ m.stack.length < 12 →
            ∃ m', m.apply (.cycle now before) = (none, m') ∧ m'.pc = target := by
  obtain ⟨flow, hflow⟩ := Flow.exists_ofLines_ofBytes program.bytes.toList programStart
  refine ⟨flow, hflow, ?_, ?_, ?_⟩
  · intro m m' line now before hline happly
    obtain ⟨i, -, htakes⟩ := hline.takes_apply hflow happly
    exact ⟨i.transfer, htakes, fun kind hkind => hkind.1.symm.trans htakes.1⟩
  · rintro here target (hjump | hcall)
    · obtain ⟨w, nnn, hlisted, -, -⟩ := Flow.exists_of_mem_jumps hflow hjump
      exact ⟨_, hlisted, Line.not_isByte_ofWord _ _, rfl⟩
    · obtain ⟨w, nnn, hlisted, -, -⟩ := Flow.exists_of_mem_calls hflow hcall
      exact ⟨_, hlisted, Line.not_isByte_ofWord _ _, rfl⟩
  · rintro m line now before target hline hnow hbefore (hjump | ⟨hcall, hroom⟩)
    · obtain ⟨w, nnn, hlisted, hdecode, rfl⟩ := Flow.exists_of_mem_jumps hflow hjump
      rw [hline.word_eq hlisted] at hdecode
      obtain ⟨keys, previous, happly⟩ := hline.apply_of_decode? hdecode rfl hnow hbefore
      exact ⟨_, happly, rfl⟩
    · obtain ⟨w, nnn, hlisted, hdecode, rfl⟩ := Flow.exists_of_mem_calls hflow hcall
      rw [hline.word_eq hlisted] at hdecode
      have hrefusal : m.refusal (.call nnn) = none := if_neg (Nat.not_le.2 hroom)
      obtain ⟨keys, previous, happly⟩ := hline.apply_of_decode? hdecode hrefusal hnow hbefore
      exact ⟨_, happly, rfl⟩

/-- A program that jumps to itself: the machine stands at its line, makes a cycle, and stands
there again. -/
theorem Flow.flow_sound_self_jump :
    let program : Program := ⟨#[0x12, 0x00], by decide⟩
    let m := Machine.powerOn program (.ofStream fun _ => 0)
    let line : Line := .ofWord 512 ⟨0x1, 0x2, 0x0, 0x0⟩
    m.AtLine program line ∧ ∃ flow m', Flow.ofLines (Listing.ofProgram program) = .ok flow ∧
      m.apply (.cycle (.replicate 16 false) (.replicate 16 false)) = (none, m') ∧
      m'.pc = 512 ∧ ∃! kind, flow.Takes m m'.pc kind := by
  intro program m line
  have hlisting : Listing.ofProgram program = [line] := by decide
  have hline : m.AtLine program line :=
    Machine.atLine_of_load (by rfl) (hlisting ▸ List.mem_singleton_self line)
      (Line.not_isByte_ofWord _ _) rfl
  have hshown : Flow.ofLines (Listing.ofProgram program) =
      .ok { jumps := [(512, 512)], loops := [(512, 512)] } := by rfl
  obtain ⟨flow, hflow, hforward, -, htaken⟩ := Flow.flow_sound program
  obtain rfl := Except.ok.inj (hflow.symm.trans hshown)
  obtain ⟨m', happly, hpc⟩ := htaken m line (.replicate 16 false) (.replicate 16 false) 512 hline
    List.length_replicate List.length_replicate (.inl (List.mem_singleton.2 rfl))
  exact ⟨hline, _, m', hflow, happly, hpc, hforward m m' line _ _ hline happly⟩

end Chip8
