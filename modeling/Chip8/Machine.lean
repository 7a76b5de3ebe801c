import Chip8.Counters
import Chip8.Keypad
import Chip8.Memory
import Chip8.Random.Source
import Chip8.Screen
import Chip8.Word

/-!
# The machine

The state of a machine: its store and screen, sixteen registers, the index
register, the program counter, the stack of return addresses, two timers, the
source of random bytes, the keys it was shown last, and the counts of what it
has done.

* `Machine` — the state
* `Machine.powerOn`, `Machine.reset` — the state in which a program starts
* `Machine.tick` — one tick of both timers
* `Machine.soundPlaying` — whether the buzzer is heard
* `Machine.latch` — shows the machine its keys
-/

namespace Chip8

/-- The registers `V0` to `VF`. -/
abbrev Registers := Vector UInt8 16

/-- The register that receives carries, borrows and collisions. -/
def flagRegister : Register := 0xF

/-- The number of return addresses that the stack can hold. -/
def stackCapacity : Nat := 12

/-- The state of a machine. Program counter, index register, return addresses and timers
are unbounded integers: it is the access to memory, or to a register, that bounds them. -/
structure Machine where
  /-- The program that was loaded at power-on. -/
  program : Program
  /-- The store. -/
  memory : Memory
  /-- The screen. -/
  screen : Screen
  /-- The registers `V0` to `VF`. -/
  v : Registers
  /-- The index register `I`. -/
  index : Int
  /-- The address of the next instruction. -/
  pc : Int
  /-- The addresses of the calls not yet returned from, the latest first. -/
  stack : List Int
  /-- The delay timer. -/
  delay : Int
  /-- The sound timer. -/
  sound : Int
  /-- Where random bytes come from. -/
  source : RandomSource
  /-- The keys that the machine was shown last. -/
  keys : Keypad
  /-- The keys a frame before those. -/
  previousKeys : Keypad
  /-- What the machine has done since power-on. -/
  counters : Counters

namespace Machine

/-- The state in which a program starts. -/
def powerOn (program : Program) (source : RandomSource) : Machine where
  program
  memory := .load program
  screen := .blank
  v := Vector.replicate 16 0
  index := 0
  pc := programStart
  stack := []
  delay := 0
  sound := 0
  source
  keys := .released
  previousKeys := .released
  counters := {}

/-- Switches the machine off and on: the same program starts again. -/
def reset (m : Machine) : Machine := powerOn m.program m.source.restart

/-- A timer after a tick: it counts down to zero, and then it stands. -/
def countDown (timer : Int) : Int := if 0 < timer then timer - 1 else timer

/-- One tick of both timers. -/
def tick (m : Machine) : Machine :=
  { m with
    delay := countDown m.delay
    sound := countDown m.sound
    counters.ticks := m.counters.ticks + 1 }

/-- `n` ticks of both timers. -/
def ticks : Nat → Machine → Machine
  | 0, m => m
  | n + 1, m => ticks n m.tick

/-- The least value of the sound timer at which the buzzer is heard. -/
def soundThreshold : Int := 2

/-- Whether the buzzer is heard. -/
def soundPlaying (m : Machine) : Bool := soundThreshold ≤ m.sound

/-- The value of a register. -/
def reg (m : Machine) (x : Register) : UInt8 := m.v[x]

/-- Sets a register. -/
def setReg (m : Machine) (x : Register) (value : UInt8) : Machine := { m with v := m.v.set x value }

/-- Shows the machine the keys now and those a frame before. -/
def latch (m : Machine) (now before : Keypad) : Machine :=
  { m with keys := now, previousKeys := before }

end Machine

end Chip8
