import Chip8.Fault
import Chip8.Machine

/-!
# Effects

A step of execution looks at the machine, changes it, and may fail with a fault.
A fault takes nothing back: what was changed before it stays changed.

* `Effect` — computations that change a machine and may fail
* `Effect.value`, `Effect.assign` — a register as a number
* `Effect.assignFlagged` — a register together with the flag
* `Effect.push`, `Effect.pop` — the stack of return addresses
* `Effect.checkEnd`, `Effect.read`, `Effect.store` — memory from the index register on
* `Effect.drawSprite`, `Effect.randomByte` — the screen, and the source of random bytes
* `Effect.next`, `Effect.skipIf` — where to go on
-/

namespace Chip8

/-- A computation that changes a machine and may fail. -/
abbrev Effect := EStateM Fault Machine

namespace Effect

/-! ## Registers -/

/-- The value of a register, as a number. -/
def value (x : Register) : Effect Nat := return ((← get).reg x).toNat

/-- Sets a register to a number, which must be a byte. -/
def assign (x : Register) (n : Int) : Effect Unit :=
  if 0 ≤ n ∧ n ≤ 255 then modify (·.setReg x (UInt8.ofNat n.toNat)) else throw (.tooWide n)

/-- Sets a register to a number reduced to a byte and then the flag register, so that the
flag wins if they are the same. -/
def assignFlagged (x : Register) (n flag : Int) : Effect Unit := do
  assign x (n % 256)
  assign flagRegister flag

/-- One or zero. -/
def bit (b : Bool) : Int := if b then 1 else 0

/-! ## Going on -/

/-- The address of the next instruction. -/
def next : Effect Int := return (← get).pc + 2

/-- The address of the next instruction, or of the one after it if `condition` holds. -/
def skipIf (condition : Bool) : Effect Int := return (← get).pc + if condition then 4 else 2

/-- Counts something. -/
def count (f : Counters → Counters) : Effect Unit :=
  modify fun m => { m with counters := f m.counters }

/-! ## The stack -/

/-- Puts a return address on the stack, unless the stack is full. -/
def push (address : Int) : Effect Unit := do
  let m ← get
  if stackCapacity ≤ m.stack.length then throw (.stackOverflow m.stack.length)
  set { m with stack := address :: m.stack }

/-- Takes the latest return address off the stack. -/
def pop : Effect Int := do
  let m ← get
  match m.stack with
  | [] => throw .emptyStack
  | address :: rest =>
    set { m with stack := rest }
    return address

/-! ## Memory -/

/-- Fails if `length` bytes from the index register on go past the end of the store. -/
def checkEnd (length : Nat) : Effect Unit := do
  let m ← get
  if memorySize < m.index + length then throw (.access ⟨m.index, length⟩)

/-- The `length` bytes from the index register on. -/
def read (length : Nat) : Effect (List UInt8) := do
  let m ← get
  ofExcept ((m.memory.read m.index length).mapError .access)

/-- Writes bytes to memory from the index register on. -/
def store (bytes : List UInt8) : Effect Unit := do
  let m ← get
  let memory ← ofExcept ((m.memory.write m.index bytes).mapError .access)
  set { m with memory }

/-- Moves the index register past a block of `count` bytes. -/
def moveIndex (count : Nat) : Effect Unit :=
  modify fun m => { m with index := (m.index + count) % 65536 }

/-! ## Devices -/

/-- Draws a sprite, and tells whether that switched off a lit pixel. -/
def drawSprite (x y : Int) (sprite : List UInt8) : Effect Bool :=
  modifyGet fun m => (m.screen.collides x y sprite, { m with screen := m.screen.draw x y sprite })

/-- Counts a sprite of so many rows, and whether it switched off a lit pixel. -/
def countDraw (rows : Nat) (hit : Bool) : Effect Unit := do
  count fun c => { c with draws := c.draws + 1 }
  count fun c => { c with reads := c.reads + rows }
  if hit then count fun c => { c with collisions := c.collisions + 1 }

/-- Draws the next random byte. -/
def randomByte : Effect UInt8 :=
  modifyGet fun m => (m.source.draw.1, { m with source := m.source.draw.2 })

end Effect

end Chip8
