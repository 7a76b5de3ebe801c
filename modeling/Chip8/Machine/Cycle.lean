import Chip8.Instruction.Encoding
import Chip8.Machine.Effect

/-!
# Cycles

One cycle fetches the word at the program counter, decodes it and carries the
instruction out, one effect after another. The program counter moves last.

* `Machine.fetch` — the word at the program counter
* `Machine.pending` — that word with its instruction
* `Effect.execute` — the effects of an instruction, and where to go on
* `Effect.cycle` — fetch, decode and execute
* `Effect.cycleFrom` — a cycle with the keys given as lists
* `Machine.run` — cycles with all keys up until one fails
-/

namespace Chip8

/-! ## Fetching -/

namespace Machine

/-- The word at the program counter, its more significant byte first. -/
def fetch (m : Machine) : Except Fault Word :=
  if m.pc < 0 ∨ memorySize < m.pc + 2 then .error (.access ⟨m.pc, 2⟩)
  else do
    let high ← (m.memory.get m.pc).mapError .access
    let low ← (m.memory.get (m.pc + 1)).mapError .access
    .ok (.ofBytes high low)

/-- The word at the program counter and its instruction. -/
def pending (m : Machine) : Except Fault (Word × Instruction) := do
  let word ← m.fetch
  match Instruction.decode? word with
  | some i => .ok (word, i)
  | none => .error (.unknownInstruction word)

/-! ## Blocks of registers -/

/-- The registers `V0` to `VX`. -/
def block (m : Machine) (x : Register) : List UInt8 := m.v.toList.take (x.val + 1)

/-- The registers with the bytes of a list in front. -/
def loadedRegisters (v : Registers) (bytes : List UInt8) : Registers :=
  Vector.ofFn fun i => bytes.getD i.val (v.get i)

end Machine

namespace Effect

/-! ## Execution -/

/-- The hundreds, tens and ones of a byte. -/
def decimalDigits (n : Nat) : List UInt8 :=
  [UInt8.ofNat (n / 100), UInt8.ofNat (n / 10 % 10), UInt8.ofNat (n % 10)]

/-- Carries an instruction out. The result is the address to go on at. -/
def execute : Instruction → Effect Int
  | .sys nnn => throw (.unknownSubroutine nnn)
  | .cls => do
    modify fun m => { m with screen := .blank }
    count fun c => { c with clears := c.clears + 1 }
    next
  | .ret => do
    let caller ← pop
    count fun c => { c with returns := c.returns + 1 }
    -- the stack holds the address of the call itself
    return caller + 2
  | .jump nnn => do
    count fun c => { c with jumps := c.jumps + 1 }
    return nnn.val
  | .call nnn => do
    push (← get).pc
    count fun c => { c with calls := c.calls + 1 }
    return nnn.val
  | .skipIfByte x nn => do skipIf ((← value x) = nn.toNat)
  | .skipUnlessByte x nn => do skipIf ((← value x) ≠ nn.toNat)
  | .skipIfEqual x y => do skipIf ((← value x) = (← value y))
  | .skipUnlessEqual x y => do skipIf ((← value x) ≠ (← value y))
  | .skipIfDown x => do
    let m ← get
    skipIf (m.keys.isDown (Word.lowDigit (m.reg x)))
  | .skipUnlessDown x => do
    let m ← get
    skipIf (!m.keys.isDown (Word.lowDigit (m.reg x)))
  | .setByte x nn => do
    assign x nn.toNat
    next
  | .addByte x nn => do
    assign x (((← value x) + nn.toNat) % 256)
    next
  | .copy x y => do
    assign x (← value y)
    next
  | .or x y => do
    let (a, b) := (← value x, ← value y)
    assign x (a ||| b : Nat)
    next
  | .and x y => do
    let (a, b) := (← value x, ← value y)
    assign x (a &&& b : Nat)
    next
  | .xor x y => do
    let (a, b) := (← value x, ← value y)
    assign x (a ^^^ b : Nat)
    next
  | .add x y => do
    let (a, b) := (← value x, ← value y)
    assignFlagged x (a + b) (bit (255 < a + b))
    next
  | .sub x y => do
    let (a, b) := (← value x, ← value y)
    assignFlagged x (a - b) (bit (b ≤ a))
    next
  | .subFrom x y => do
    let (a, b) := (← value x, ← value y)
    assignFlagged x (b - a) (bit (a ≤ b))
    next
  | .shiftRight x y => do
    let b ← value y
    assignFlagged x (b / 2) (b % 2)
    next
  | .shiftLeft x y => do
    let b ← value y
    assignFlagged x (2 * b) (b / 128)
    next
  | .random x nn => do
    let byte ← randomByte
    assign x (byte &&& nn).toNat
    count fun c => { c with randoms := c.randoms + 1 }
    next
  | .setIndex nnn => do
    modify fun m => { m with index := nnn.val }
    next
  | .jumpOffset nnn => do
    count fun c => { c with jumps := c.jumps + 1 }
    return nnn.val + (← value 0)
  | .addIndex x => do
    moveIndex (← value x)
    next
  | .digitSprite x => do
    let digit ← value x
    modify fun m => { m with index := Font.address digit }
    next
  | .storeDecimal x => do
    checkEnd 3
    store (decimalDigits (← value x))
    count fun c => { c with writes := c.writes + 3 }
    next
  | .storeBlock x => do
    checkEnd (x.val + 1)
    store ((← get).block x)
    moveIndex (x.val + 1)
    count fun c => { c with writes := c.writes + (x.val + 1) }
    next
  | .loadBlock x => do
    checkEnd (x.val + 1)
    let bytes ← read (x.val + 1)
    modify fun m => { m with v := Machine.loadedRegisters m.v bytes }
    moveIndex (x.val + 1)
    count fun c => { c with reads := c.reads + (x.val + 1) }
    next
  | .draw x y n => do
    let m ← get
    if memorySize < m.index + n.val then throw (.spriteOverflow m.index n.val)
    let sprite ← read n.val
    let hit ← drawSprite (← value x) (← value y) sprite
    assign flagRegister (bit hit)
    countDraw n.val hit
    next
  | .getDelay x => do
    assign x (← get).delay
    next
  | .setDelay x => do
    let timer ← value x
    modify fun m => { m with delay := timer }
    count fun c => { c with timerSets := c.timerSets + 1 }
    next
  | .setSound x => do
    let timer ← value x
    modify fun m => { m with sound := timer }
    count fun c => { c with timerSets := c.timerSets + 1 }
    next
  | .awaitKey x => do
    let m ← get
    match Keypad.firstReleased? m.previousKeys m.keys with
    | some key =>
      assign x key.val
      next
    | none =>
      count fun c => { c with keyWaits := c.keyWaits + 1 }
      return m.pc

/-! ## Cycles -/

/-- One cycle: fetch, decode and execute, given the keys now and a frame before. -/
def cycle (now before : Keypad) : Effect Unit := do
  let (_, instruction) ← ofExcept (← get).pending
  modify (·.latch now before)
  let pc ← execute instruction
  modify fun m => { m with pc }
  count fun c => { c with instructions := c.instructions + 1 }

end Effect

/-! ## Running -/

namespace Machine

/-- One cycle, given the keys now and a frame before. A cycle that fails leaves a machine
too. -/
def cycle (m : Machine) (now before : Keypad) : EStateM.Result Fault Machine Unit :=
  (Effect.cycle now before).run m

/-- At most `n` cycles with all keys up, until one fails, when `done` succeeded before:
how many succeeded, the fault that ended them, and the state after them. -/
def runFrom (done : Nat) : Nat → Machine → Nat × Option Fault × Machine
  | 0, m => (done, none, m)
  | n + 1, m =>
    match m.cycle .released .released with
    | .ok _ m' => runFrom (done + 1) n m'
    | .error fault m' => (done, some fault, m')

/-- At most `n` cycles with all keys up, until one fails. -/
def run (n : Nat) (m : Machine) : Nat × Option Fault × Machine := runFrom 0 n m

end Machine

/-! ## Keys given as lists -/

/-- Which of the two key lists of a cycle has not one entry for each key. -/
structure KeyCountError where
  /-- The name of the list. -/
  list : String
  /-- The number of its entries. -/
  count : Nat
deriving DecidableEq, Repr

/-- The report of a key list of the wrong length. -/
def KeyCountError.message (e : KeyCountError) : String :=
  s!"{e.list} must have 16 entries, got {e.count}"

/-- Why a cycle with the keys given as lists fails. -/
inductive CycleError where
  /-- A list has not one entry for each key. -/
  | keyCount (e : KeyCountError)
  /-- The cycle itself failed. -/
  | fault (f : Fault)
deriving DecidableEq, Repr

/-- The keypad of a list of key states, which must have one entry for each key. -/
def Keypad.ofStates (list : String) (states : List Bool) : Except KeyCountError Keypad :=
  match Keypad.ofList? states with
  | some keypad => .ok keypad
  | none => .error ⟨list, states.length⟩

/-- One cycle with the keys given as lists, which are looked at before the machine is. -/
def Effect.cycleFrom (now before : List Bool) : EStateM CycleError Machine Unit := do
  let now ← ofExcept ((Keypad.ofStates "current_keys" now).mapError .keyCount)
  let before ← ofExcept ((Keypad.ofStates "previous_keys" before).mapError .keyCount)
  (Effect.cycle now before).adaptExcept .fault

/-- One cycle with the keys given as lists. -/
def Machine.cycleFrom (m : Machine) (now before : List Bool) :
    EStateM.Result CycleError Machine Unit :=
  (Effect.cycleFrom now before).run m

end Chip8
