import Chip8.Machine.Boot
import Chip8.Machine.Cycle
import Chip8.Session.Log
import Chip8.Settings

/-!
# Sessions

A session drives a machine frame by frame. A frame is a fixed number of cycles,
which all see the same keys, and then one tick of the timers. A fault of the program
stops the machine until the session is reset. A fault that is not the program's
only interrupts what the session was asked to do.

* `Session` — a machine with its settings, keys, frame count, fault and log
* `Session.start`, `Session.reset` — a session before its first frame
* `Session.setKey`, `Session.releaseAll` — pressing and releasing keys
* `Session.step`, `Session.frame`, `Session.run` — a cycle, a frame, several frames
-/

namespace Chip8

/-- A machine that is driven frame by frame. -/
structure Session where
  /-- How the machine is driven. -/
  settings : Settings
  /-- The machine. -/
  machine : Machine
  /-- The keys now. -/
  keys : Keypad
  /-- The keys at the end of the last completed frame. -/
  previousKeys : Keypad
  /-- The fault that stopped the machine, if one did. -/
  fault : Option Fault
  /-- The fault that interrupted what was asked for last, if one did. -/
  interruption : Option Fault
  /-- The number of completed frames. -/
  frames : Nat
  /-- Whether every instruction is noted in the log. -/
  traced : Bool
  /-- What was noted, the earliest first. -/
  log : Array LogEntry

/-- A key that the pad has not. -/
structure NoSuchKey where
  /-- The number given. -/
  key : Int
deriving DecidableEq, Repr

/-- The report of a key that the pad has not. -/
def NoSuchKey.message (e : NoSuchKey) : String := s!"key must be 0x0-0xF, got {e.key}"

namespace Session

/-- A session before its first frame. -/
def ofMachine (settings : Settings) (machine : Machine) (traced : Bool) : Session where
  settings
  machine
  keys := .released
  previousKeys := .released
  fault := none
  interruption := none
  frames := 0
  traced
  log := #[]

/-- A session with the machine that bytes and the seed of the settings start. -/
def start (settings : Settings) (bytes : Array UInt8) (entropy : Nat) (traced : Bool) :
    Except BootError Session :=
  (Machine.boot bytes settings.seed entropy).map fun machine => ofMachine settings machine traced

/-- Resets the machine and releases every key. What was noted stays in the log. -/
def reset (s : Session) : Session :=
  { ofMachine s.settings s.machine.reset s.traced with log := s.log }

/-! ## Keys -/

/-- Presses or releases a key. -/
def press (s : Session) (key : Key) (pressed : Bool) : Session :=
  { s with keys := s.keys.set key pressed }

/-- Presses or releases the key of a number, if the pad has it. -/
def setKey (s : Session) (key : Int) (pressed : Bool) : Except NoSuchKey Session :=
  if h : 0 ≤ key ∧ key < 16 then .ok (s.press ⟨key.toNat, by omega⟩ pressed) else .error ⟨key⟩

/-- Releases every key. -/
def releaseAll (s : Session) : Session := { s with keys := .released }

/-! ## Running -/

/-- Whether a fault stopped the machine. -/
def crashed (s : Session) : Bool := s.fault.isSome

/-- Whether there is nothing to go on with: the machine was stopped or interrupted. -/
def halted (s : Session) : Bool := s.crashed || s.interruption.isSome

/-- Forgets what interrupted the machine. -/
def resume (s : Session) : Session := { s with interruption := none }

/-- Adds an entry to the log. -/
def note (s : Session) (entry : LogEntry) : Session := { s with log := s.log.push entry }

/-- Notes the instruction that comes next, if the session traces and there is one. -/
def noteNext (s : Session) : Session :=
  if s.traced then
    match s.machine.pending with
    | .ok (word, instruction) => s.note (.executing word s.machine.pc instruction)
    | .error _ => s
  else s

/-- Halts with a fault. It stops the machine if it is the program's. -/
def halt (s : Session) (fault : Fault) : Session :=
  if fault.isCrash then { s with fault }.note (.crashed s.machine.pc fault)
  else { s with interruption := fault }

/-- Runs one cycle, unless the machine was stopped. -/
def step (s : Session) : Session :=
  if s.crashed then s
  else
    let s := s.resume.noteNext
    match s.machine.cycle s.keys s.previousKeys with
    | .ok _ machine => { s with machine }
    | .error fault machine => { s with machine }.halt fault

/-- Runs cycles until `n` are done or one of them fails. -/
def steps : Nat → Session → Session
  | 0, s => s
  | n + 1, s =>
    let s := s.step
    if s.halted then s else steps n s

/-- Ends a frame: the timers tick, and the keys become those of the last frame. -/
def endFrame (s : Session) : Session :=
  { s with machine := s.machine.tick, previousKeys := s.keys, frames := s.frames + 1 }

/-- Runs one frame, unless the machine was stopped. A frame in which a cycle fails does
not end. -/
def frame (s : Session) : Session :=
  if s.crashed then s
  else
    let s := s.steps s.settings.cyclesPerFrame
    if s.halted then s else s.endFrame

/-- Runs frames until `n` are done or one of them does not end. -/
def runFrames : Nat → Session → Session
  | 0, s => s
  | n + 1, s =>
    let s := s.frame
    if s.halted then s else runFrames n s

/-- Runs at most `n` frames; none if `n` is negative. -/
def run (n : Int) (s : Session) : Session := runFrames n.toNat s.resume

/-- The number of frames completed between two moments of a session. -/
def framesSince (earlier later : Session) : Nat := later.frames - earlier.frames

end Session

end Chip8
