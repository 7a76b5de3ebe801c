import Chip8.Proofs.ControlFlow
import Chip8.Proofs.Impasse
import Chip8.Proofs.Numerals

/-!
# What a listing shows is what is carried out

A listing puts words together from the bytes of a program, two at a time. A machine puts them
together from its store, at its program counter. Where the program has just been loaded the two
words are the same, up to the last two bytes of the store, and so the assembly of a line tells
what a cycle there is about to do: it fails because the line is data, it fails because the line
calls machine code, or it carries out the instruction that is written down.

* `Hex.ofAddress` — an address in three hexadecimal digits
* `Instruction.assembly_eq_sys_iff`, `Machine.refusal_eq_unknownSubroutine_iff` — calls of machine
  code, as they are written and as they are refused
* `Machine.Dispatches` — a cycle that carries an instruction out
* `Machine.cycleFrom_fails_iff_impasse` — the fault that such a cycle ends in
* `Listing.shows_cycle` — a line tells what a cycle does
-/

namespace Chip8

/-! ## Calls of machine code as they are written -/

namespace Hex

/-- An address in three hexadecimal digits. -/
def ofAddress (nnn : Address) : String :=
  let w := Word.withAddress 0x0 nnn
  String.ofList [digit w.x, digit w.y, digit w.n]

theorem ofAddress_eq (nnn : Address) : ofAddress nnn = numeral 3 nnn.val := by
  have hnumber : 256 * (Word.withAddress 0x0 nnn).x.val + 16 * (Word.withAddress 0x0 nnn).y.val +
      (Word.withAddress 0x0 nnn).n.val = nnn.val :=
    congrArg Fin.val (Word.nnn_withAddress 0x0 nnn)
  rw [ofAddress, ← numeral_three, hnumber]

theorem ofAddress_inj {nnn nnn' : Address} (h : ofAddress nnn = ofAddress nnn') :
    nnn = nnn' := by
  rw [ofAddress_eq, ofAddress_eq] at h
  have hread := Numeral.digitsValue_numeral 3 nnn.val
  rw [h, Numeral.digitsValue_numeral] at hread
  exact Fin.ext (Option.some.inj hread).symm

end Hex

namespace Instruction

/-- A call of machine code has a mnemonic of its own. -/
theorem exists_eq_sys {i : Instruction} (h : i.assembly.mnemonic = "SYS") :
    ∃ nnn, i = .sys nnn := by
  cases i with
  | sys nnn => exact ⟨nnn, rfl⟩
  | _ => simp [assembly] at h

/-- And its operand is the address. -/
theorem assembly_eq_sys_iff {i : Instruction} {nnn : Address} :
    i.assembly = ⟨"SYS", "$" ++ Hex.ofAddress nnn⟩ ↔ i = .sys nnn := by
  constructor
  · intro h
    obtain ⟨nnn', rfl⟩ := exists_eq_sys (congrArg Assembly.mnemonic h)
    have hoperands : "$" ++ Hex.numeral 3 nnn'.val = "$" ++ Hex.ofAddress nnn :=
      congrArg Assembly.operands h
    rw [← Hex.ofAddress_eq, String.append_right_inj] at hoperands
    rw [Hex.ofAddress_inj hoperands]
  · rintro rfl
    rw [Hex.ofAddress_eq]
    rfl

end Instruction

namespace Assembly

variable {w : Word}

theorem mnemonic_ofWord_eq_iff : (ofWord w).mnemonic = "DW" ↔ Instruction.decode? w = none := by
  unfold ofWord
  cases Instruction.decode? w with
  | none => simp [dataWord]
  | some i => simp [i.mnemonic_assembly]

theorem ofWord_eq_sys_iff {nnn : Address} :
    ofWord w = ⟨"SYS", "$" ++ Hex.ofAddress nnn⟩ ↔ Instruction.decode? w = some (.sys nnn) := by
  unfold ofWord
  cases Instruction.decode? w with
  | none => simp [dataWord]
  | some i => simp [Instruction.assembly_eq_sys_iff]

end Assembly

namespace Machine

variable {m : Machine} {i : Instruction} {f : Fault} {now before : List Bool}

/-! ## Calls of machine code as they are refused -/

theorem blockFault_ne {length : Nat} (hf : ∀ range, f ≠ .access range) :
    m.blockFault length ≠ some f := by
  intro h
  obtain ⟨-, hrange⟩ := blockFault_eq_some_iff.1 h
  exact hf _ hrange

/-- A call of machine code is refused as one, and nothing else is. -/
theorem refusal_eq_unknownSubroutine_iff {nnn : Address} :
    m.refusal i = some (.unknownSubroutine nnn) ↔ i = .sys nnn := by
  have hblock : ∀ length, m.blockFault length ≠ some (.unknownSubroutine nnn) :=
    fun length => blockFault_ne (by simp)
  cases i with
  | draw x y n =>
    rw [refusal]
    split <;> simp [hblock]
  | _ => simp [refusal, hblock]

/-- What is refused is an instruction all the same. -/
theorem refusal_ne_unknownInstruction (m : Machine) (i : Instruction) (w : Word) :
    m.refusal i ≠ some (.unknownInstruction w) := by
  have hblock : ∀ length, m.blockFault length ≠ some (.unknownInstruction w) :=
    fun length => blockFault_ne (by simp)
  cases i with
  | draw x y n =>
    rw [refusal]
    split <;> simp [hblock]
  | _ => simp [refusal, hblock]

/-- Inside the store, a cycle fails for want of an instruction exactly at a word that is none. -/
theorem impasse_eq_unknownInstruction_iff {w : Word} (hinside : 0 ≤ m.pc ∧ m.pc ≤ 4094) :
    m.impasse = some (.unknownInstruction w) ↔
      w = m.word ∧ Instruction.decode? m.word = none := by
  rw [impasse, pending_eq, if_pos hinside]
  cases Instruction.decode? m.word with
  | none => simp [eq_comm]
  | some i => simp [refusal_ne_unknownInstruction]

/-- And it fails at a call of machine code exactly at the word of one. -/
theorem impasse_eq_unknownSubroutine_iff {nnn : Address} (hinside : 0 ≤ m.pc ∧ m.pc ≤ 4094) :
    m.impasse = some (.unknownSubroutine nnn) ↔
      Instruction.decode? m.word = some (.sys nnn) := by
  rw [impasse, pending_eq, if_pos hinside]
  cases Instruction.decode? m.word with
  | none => simp
  | some i => simp [refusal_eq_unknownSubroutine_iff]

/-! ## Cycles -/

/-- A cycle carries an instruction out: it ends in what the execution of the instruction ends in,
on the machine that was shown its keys. -/
def Dispatches (m : Machine) (now before : List Bool) (i : Instruction) : Prop :=
  ∃ keys previous, Keypad.ofList? now = some keys ∧ Keypad.ofList? before = some previous ∧
    m.cycleFrom now before =
      match (Effect.execute i).run (m.latch keys previous) with
      | .ok pc m' => .ok () { m' with pc }.counted
      | .error fault m' => .error (.fault fault) m'

/-- A cycle that shows the machine all its keys carries out the instruction that it finds. -/
theorem dispatches_of_pending {w : Word} (h : m.pending = .ok (w, i)) (hnow : now.length = 16)
    (hbefore : before.length = 16) : m.Dispatches now before i := by
  obtain ⟨keys, hkeys⟩ := Keypad.ofList?_of_length hnow
  obtain ⟨previous, hprevious⟩ := Keypad.ofList?_of_length hbefore
  refine ⟨keys, previous, hkeys, hprevious, ?_⟩
  rw [cycleFrom_eq_cycle m hkeys hprevious, cycle, Effect.cycle]
  simp only [EStateM.run_bind, EStateM.run_get, h, Effect.run_ofExcept_ok, EStateM.run_modify]
  cases (Effect.execute i).run (m.latch keys previous) <;> rfl

/-- A cycle that shows the machine all its keys ends in the fault of the impasse. -/
theorem cycleFrom_fails_iff_impasse (hnow : now.length = 16) (hbefore : before.length = 16) :
    (∃ m', m.cycleFrom now before = .error (.fault f) m') ↔ m.impasse = some f := by
  constructor
  · rintro ⟨m', h⟩
    obtain ⟨⟨f', hf, himpasse⟩, -⟩ := impasse_of_cycleFrom hnow hbefore h
    cases hf
    exact himpasse
  · intro h
    obtain ⟨keys, previous, hcycle⟩ := cycleFrom_of_impasse h hnow hbefore
    exact ⟨_, hcycle⟩

end Machine

/-! ## Lines -/

/-- **A listing shows what is carried out.** A program is loaded, and its machine stands at the
address of a line of two bytes. Then the word of the line is the one that the machine fetches. A
cycle that shows it all its keys fails for want of an instruction, which it does with this word
only, exactly if the line is written as data. It fails at a call of machine code exactly if the
line is written as that call. Whatever is not written as data is the instruction that the cycle
carries out. -/
theorem Listing.shows_cycle {program : Program} {line : Line} (hline : line ∈ ofProgram program)
    (hwide : ¬line.IsByte) {m : Machine} (hmemory : m.memory = .load program)
    (hpc : m.pc = line.address) {now before : List Bool} (hnow : now.length = 16)
    (hbefore : before.length = 16) :
    ∃ w : Word, line.word = w.toNat ∧ m.fetch = .ok w ∧
      ((∃ m', m.cycleFrom now before = .error (.fault (.unknownInstruction w)) m') ↔
        line.assembly.mnemonic = "DW") ∧
      (∀ w' m', m.cycleFrom now before = .error (.fault (.unknownInstruction w')) m' → w' = w) ∧
      (∀ nnn, (∃ m', m.cycleFrom now before = .error (.fault (.unknownSubroutine nnn)) m') ↔
        line.assembly.mnemonic = "SYS" ∧ line.assembly.operands = "$" ++ Hex.ofAddress nnn) ∧
      (line.assembly.mnemonic ≠ "DW" →
        ∃ i, m.pending = .ok (w, i) ∧ m.Dispatches now before i ∧ line.assembly = i.assembly) := by
  obtain ⟨hshown, hinside⟩ := (Machine.atLine_of_load hmemory hline hwide hpc).eq_ofWord
  have hassembly : line.assembly = .ofWord m.word := congrArg Line.assembly hshown
  refine ⟨m.word, congrArg Line.word hshown, ?_, ?_, ?_, ?_, ?_⟩
  · rw [Machine.fetch_eq, if_pos hinside]
  · rw [Machine.cycleFrom_fails_iff_impasse hnow hbefore,
      Machine.impasse_eq_unknownInstruction_iff hinside, hassembly,
      Assembly.mnemonic_ofWord_eq_iff]
    exact and_iff_right rfl
  · intro w' m' h
    have himpasse := (Machine.cycleFrom_fails_iff_impasse hnow hbefore).1 ⟨m', h⟩
    exact ((Machine.impasse_eq_unknownInstruction_iff hinside).1 himpasse).1
  · intro nnn
    rw [Machine.cycleFrom_fails_iff_impasse hnow hbefore,
      Machine.impasse_eq_unknownSubroutine_iff hinside, ← Assembly.ofWord_eq_sys_iff, ← hassembly]
    cases line.assembly
    simp
  · intro hdata
    rw [hassembly, ne_eq, Assembly.mnemonic_ofWord_eq_iff] at hdata
    obtain ⟨i, hdecode⟩ := Option.ne_none_iff_exists'.1 hdata
    have hpending : m.pending = .ok (m.word, i) :=
      Machine.pending_eq_ok_iff.2 ⟨hinside, rfl, hdecode⟩
    refine ⟨i, hpending, Machine.dispatches_of_pending hpending hnow hbefore, ?_⟩
    rw [hassembly, Assembly.ofWord, hdecode]

/-- The last word of a program that fills the store calls machine code. -/
theorem Listing.shows_cycle_last_word :
    let program : Program := ⟨.replicate 3584 0x01, Nat.le_of_eq Array.size_replicate⟩
    let line : Line := .ofWord 4094 ⟨0x0, 0x1, 0x0, 0x1⟩
    let m : Machine := { Machine.powerOn program (.ofStream fun _ => 0) with pc := 4094 }
    line ∈ ofProgram program ∧ ∃ m', m.cycleFrom (.replicate 16 false) (.replicate 16 false) =
      .error (.fault (.unknownSubroutine 0x101)) m' := by
  intro program line m
  have hbyte : ∀ k < 3584, program.bytes.toList[k]? = some 0x01 := fun k hk => by
    rw [Array.toList_replicate, List.getElem?_replicate, if_pos hk]
  have hshown : (ofProgram program)[1791]? = some line := by
    rw [ofProgram, getElem?_ofBytes, hbyte _ (by decide), hbyte _ (by decide)]
    rfl
  have hline : line ∈ ofProgram program := List.mem_of_getElem? hshown
  have hmemory : m.memory = .load program := by rfl
  obtain ⟨w, -, -, -, -, hsys, -⟩ := shows_cycle hline (Line.not_isByte_ofWord _ _) hmemory rfl
    (List.length_replicate (n := 16) (a := false)) (List.length_replicate (n := 16) (a := false))
  exact ⟨hline, (hsys 0x101).2 ⟨by decide, by decide⟩⟩

end Chip8
