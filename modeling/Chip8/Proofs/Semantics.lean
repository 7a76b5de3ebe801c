import Chip8.Machine.Cycle

/-!
# The meaning of instructions

Execution is a sequence of effects, any of which may fail half way. Its meaning is
simpler: either an instruction is *refused*, or it is *performed*, and then the
machine is a plain function of what it was.

* `Machine.word` — the word at the program counter
* `Machine.pending_eq_ok_iff`, `Machine.pending_eq_error_iff` — when there is an
  instruction to carry out
* `Machine.pending_of_load` — the instructions of a program that was loaded
* `Machine.refusal` — the fault that an instruction ends in, if it does
* `Machine.perform` — the machine after an instruction that is not refused
-/

namespace Chip8

/-! ## Fetching -/

namespace Machine

/-- The word that stands at the program counter. -/
def word (m : Machine) : Word :=
  .ofBytes (m.memory.byteAt m.pc.toNat) (m.memory.byteAt (m.pc.toNat + 1))

theorem word_of_load {m : Machine} {program : Program} {k : Nat}
    (hmemory : m.memory = .load program) (hpc : m.pc = programStart + k) :
    m.word = .ofBytes (program.bytes.getD k 0) (program.bytes.getD (k + 1) 0) := by
  have htoNat : m.pc.toNat = 512 + k := by
    simp only [programStart] at hpc
    omega
  rw [word, hmemory, htoNat, Memory.byteAt_load, Memory.byteAt_load, dif_neg (by omega),
    dif_neg (by omega), if_pos (by simp only [programStart]; omega),
    if_pos (by simp only [programStart]; omega)]
  simp only [programStart, Nat.add_sub_cancel_left, Nat.add_assoc]

theorem fetch_eq (m : Machine) :
    m.fetch = if 0 ≤ m.pc ∧ m.pc ≤ 4094 then .ok m.word else .error (.access ⟨m.pc, 2⟩) := by
  by_cases h : 0 ≤ m.pc ∧ m.pc ≤ 4094
  · have hlow : (m.pc + 1).toNat = m.pc.toNat + 1 := by omega
    rw [fetch, if_neg (by simp only [memorySize]; omega), if_pos h, Memory.get,
      if_pos (by simp only [Memory.InRange]; omega), Memory.get,
      if_pos (by simp only [Memory.InRange]; omega), hlow]
    rfl
  · rw [fetch, if_pos (by simp only [memorySize]; omega), if_neg h]

theorem pending_eq (m : Machine) :
    m.pending =
      if 0 ≤ m.pc ∧ m.pc ≤ 4094 then
        match Instruction.decode? m.word with
        | some i => .ok (m.word, i)
        | none => .error (.unknownInstruction m.word)
      else .error (.access ⟨m.pc, 2⟩) := by
  rw [pending, fetch_eq]
  split <;> rfl

/-- There is an instruction to carry out exactly if the word fetched decodes to it. -/
theorem pending_eq_ok_iff_fetch {m : Machine} {w : Word} {i : Instruction} :
    m.pending = .ok (w, i) ↔ m.fetch = .ok w ∧ Instruction.decode? w = some i := by
  rw [pending_eq, fetch_eq]
  cases hd : Instruction.decode? m.word <;> grind

/-- There is an instruction to carry out exactly if the word at the program counter is
inside the store and decodes to it. -/
theorem pending_eq_ok_iff {m : Machine} {w : Word} {i : Instruction} :
    m.pending = .ok (w, i) ↔
      (0 ≤ m.pc ∧ m.pc ≤ 4094) ∧ m.word = w ∧ Instruction.decode? w = some i := by
  rw [pending_eq]
  cases hd : Instruction.decode? m.word <;> grind

/-- Looking for the instruction fails outside the store, or at a word that no pattern
matches. -/
theorem pending_eq_error_iff {m : Machine} {f : Fault} :
    m.pending = .error f ↔
      (¬(0 ≤ m.pc ∧ m.pc ≤ 4094) ∧ f = .access ⟨m.pc, 2⟩) ∨
      ((0 ≤ m.pc ∧ m.pc ≤ 4094) ∧ Instruction.decode? m.word = none ∧
        f = .unknownInstruction m.word) := by
  rw [pending_eq]
  cases hd : Instruction.decode? m.word <;> grind

/-- An instruction of a program is carried out where it was loaded. -/
theorem pending_of_load {m : Machine} {program : Program} {k : Nat} {w : Word} {i : Instruction}
    (hmemory : m.memory = .load program) (hpc : m.pc = programStart + k) (hinside : k ≤ 3582)
    (hword : .ofBytes (program.bytes.getD k 0) (program.bytes.getD (k + 1) 0) = w)
    (hdecode : Instruction.decode? w = some i) : m.pending = .ok (w, i) := by
  refine pending_eq_ok_iff.2 ⟨?_, (word_of_load hmemory hpc).trans hword, hdecode⟩
  simp only [programStart] at hpc
  omega

@[simp] theorem pending_latch (m : Machine) (now before : Keypad) :
    (m.latch now before).pending = m.pending := rfl

/-! ## Refusal -/

/-- The fault of a block of `length` bytes from the index register on, if the block is not
inside the store. -/
def blockFault (m : Machine) (length : Nat) : Option Fault :=
  if Memory.InRange m.index length then none else some (.access ⟨m.index, length⟩)

theorem blockFault_eq_none_iff {m : Machine} {length : Nat} :
    m.blockFault length = none ↔ Memory.InRange m.index length := by
  rw [blockFault]
  split <;> simp_all

theorem blockFault_eq_some_iff {m : Machine} {length : Nat} {f : Fault} :
    m.blockFault length = some f ↔
      (m.index < 0 ∨ 4096 < m.index + length) ∧ f = .access ⟨m.index, length⟩ := by
  rw [blockFault, ← Memory.not_inRange_iff]
  split <;> simp_all [eq_comm]

/-- The fault that an instruction ends in, if it does. -/
def refusal (m : Machine) : Instruction → Option Fault
  | .sys nnn => some (.unknownSubroutine nnn)
  | .ret => if m.stack = [] then some .emptyStack else none
  | .call _ =>
    if stackCapacity ≤ m.stack.length then some (.stackOverflow m.stack.length) else none
  | .draw _ _ n =>
    if memorySize < m.index + n.val then some (.spriteOverflow m.index n.val)
    else m.blockFault n.val
  | .storeDecimal _ => m.blockFault 3
  | .storeBlock x => m.blockFault (x.val + 1)
  | .loadBlock x => m.blockFault (x.val + 1)
  | .getDelay _ => if 0 ≤ m.delay ∧ m.delay ≤ 255 then none else some (.tooWide m.delay)
  | .cls | .jump _ | .skipIfByte _ _ | .skipUnlessByte _ _ | .skipIfEqual _ _
  | .skipUnlessEqual _ _ | .skipIfDown _ | .skipUnlessDown _ | .setByte _ _ | .addByte _ _
  | .copy _ _ | .or _ _ | .and _ _ | .xor _ _ | .add _ _ | .sub _ _ | .subFrom _ _
  | .shiftRight _ _ | .shiftLeft _ _ | .random _ _ | .setIndex _ | .jumpOffset _ | .addIndex _
  | .digitSprite _ | .setDelay _ | .setSound _ | .awaitKey _ => none

@[simp] theorem refusal_latch (m : Machine) (now before : Keypad) (i : Instruction) :
    (m.latch now before).refusal i = m.refusal i := by
  cases i <;> rfl

/-! ## Performance -/

/-- The machine at the next instruction. -/
def onward (m : Machine) : Machine := { m with pc := m.pc + 2 }

/-- The machine at the next instruction, or at the one after it if `condition` holds. -/
def skipIf (m : Machine) (condition : Bool) : Machine :=
  { m with pc := m.pc + if condition then 4 else 2 }

/-- The flag as a byte. -/
def flag (b : Bool) : UInt8 := if b then 1 else 0

/-- A register set to a value, and the flag register after it. -/
def setFlagged (m : Machine) (x : Register) (value flag : UInt8) : Machine :=
  (m.setReg x value).setReg flagRegister flag

/-- The `length` bytes from the index register on. -/
def bytesAtIndex (m : Machine) (length : Nat) : List UInt8 :=
  (List.range length).map fun k => m.memory.byteAt (m.index.toNat + k)

/-- The machine with bytes written from the index register on. -/
def overwrite (m : Machine) (bytes : List UInt8) : Machine :=
  { m with
    memory := ⟨Memory.put m.memory.bytes m.index.toNat bytes⟩
    counters.writes := m.counters.writes + bytes.length }

/-- The machine with its index register past a block of `count` bytes. -/
def pastBlock (m : Machine) (count : Nat) : Machine :=
  { m with index := (m.index + count) % 65536 }

@[simp] theorem length_block (m : Machine) (x : Register) :
    (m.block x).length = x.val + 1 := by
  simp only [block, List.length_take, Vector.length_toList]
  omega

@[simp] theorem length_bytesAtIndex (m : Machine) (length : Nat) :
    (m.bytesAtIndex length).length = length := by
  simp [bytesAtIndex]

/-- The machine after drawing a sprite. -/
def drawn (m : Machine) (x y : Register) (sprite : List UInt8) : Machine :=
  let column : Int := (m.reg x).toNat
  let row : Int := (m.reg y).toNat
  let hit := m.screen.collides column row sprite
  { m with
    screen := m.screen.draw column row sprite
    v := m.v.set flagRegister (flag hit)
    counters.draws := m.counters.draws + 1
    counters.reads := m.counters.reads + sprite.length
    counters.collisions := m.counters.collisions + if hit then 1 else 0 }

/-- The machine after an instruction that is not refused. -/
def perform (m : Machine) : Instruction → Machine
  | .sys _ => m
  | .cls => { m with screen := .blank, counters.clears := m.counters.clears + 1 }.onward
  | .ret =>
    { m with
      pc := m.stack.headD 0 + 2
      stack := m.stack.tail
      counters.returns := m.counters.returns + 1 }
  | .jump nnn => { m with pc := nnn.val, counters.jumps := m.counters.jumps + 1 }
  | .call nnn =>
    { m with
      pc := nnn.val, stack := m.pc :: m.stack, counters.calls := m.counters.calls + 1 }
  | .skipIfByte x nn => m.skipIf (m.reg x = nn)
  | .skipUnlessByte x nn => m.skipIf (m.reg x ≠ nn)
  | .skipIfEqual x y => m.skipIf (m.reg x = m.reg y)
  | .skipUnlessEqual x y => m.skipIf (m.reg x ≠ m.reg y)
  | .skipIfDown x => m.skipIf (m.keys.isDown (Word.lowDigit (m.reg x)))
  | .skipUnlessDown x => m.skipIf (!m.keys.isDown (Word.lowDigit (m.reg x)))
  | .setByte x nn => (m.setReg x nn).onward
  | .addByte x nn => (m.setReg x (m.reg x + nn)).onward
  | .copy x y => (m.setReg x (m.reg y)).onward
  | .or x y => (m.setReg x (m.reg x ||| m.reg y)).onward
  | .and x y => (m.setReg x (m.reg x &&& m.reg y)).onward
  | .xor x y => (m.setReg x (m.reg x ^^^ m.reg y)).onward
  | .add x y =>
    (m.setFlagged x (m.reg x + m.reg y) (flag (255 < (m.reg x).toNat + (m.reg y).toNat))).onward
  | .sub x y => (m.setFlagged x (m.reg x - m.reg y) (flag (m.reg y ≤ m.reg x))).onward
  | .subFrom x y => (m.setFlagged x (m.reg y - m.reg x) (flag (m.reg x ≤ m.reg y))).onward
  | .shiftRight x y => (m.setFlagged x (m.reg y / 2) (m.reg y % 2)).onward
  | .shiftLeft x y => (m.setFlagged x (2 * m.reg y) (m.reg y / 128)).onward
  | .random x nn =>
    { m.setReg x (m.source.draw.1 &&& nn) with
      source := m.source.draw.2
      counters.randoms := m.counters.randoms + 1 }.onward
  | .setIndex nnn => { m with index := nnn.val }.onward
  | .jumpOffset nnn =>
    { m with pc := nnn.val + (m.reg 0).toNat, counters.jumps := m.counters.jumps + 1 }
  | .addIndex x => (m.pastBlock (m.reg x).toNat).onward
  | .digitSprite x => { m with index := Font.address (m.reg x).toNat }.onward
  | .storeDecimal x => (m.overwrite (Effect.decimalDigits (m.reg x).toNat)).onward
  | .storeBlock x => ((m.overwrite (m.block x)).pastBlock (x.val + 1)).onward
  | .loadBlock x =>
    ({ m with
      v := loadedRegisters m.v (m.bytesAtIndex (x.val + 1))
      counters.reads := m.counters.reads + (x.val + 1) }.pastBlock (x.val + 1)).onward
  | .draw x y n => (m.drawn x y (m.bytesAtIndex n.val)).onward
  | .getDelay x => (m.setReg x (UInt8.ofNat m.delay.toNat)).onward
  | .setDelay x =>
    { m with
      delay := (m.reg x).toNat, counters.timerSets := m.counters.timerSets + 1 }.onward
  | .setSound x =>
    { m with
      sound := (m.reg x).toNat, counters.timerSets := m.counters.timerSets + 1 }.onward
  | .awaitKey x =>
    match Keypad.firstReleased? m.previousKeys m.keys with
    | some key => (m.setReg x (UInt8.ofNat key.val)).onward
    | none => { m with counters.keyWaits := m.counters.keyWaits + 1 }

/-- One more instruction counted. -/
def counted (m : Machine) : Machine :=
  { m with counters.instructions := m.counters.instructions + 1 }

end Machine

end Chip8
