import Chip8.Machine

/-!
# Starting a machine

A machine starts from the bytes of a program and, if there is one, a seed. The
program must fit into the store, and the seed must not be negative.

* `BootError` — why a machine cannot start
* `Machine.boot` — the machine that bytes and a seed start
-/

namespace Chip8

/-- Why a machine cannot start. -/
inductive BootError where
  /-- The program does not fit into the store. -/
  | program (e : ProgramTooLarge)
  /-- The seed is negative. -/
  | seed (e : NegativeSeed)
deriving DecidableEq, Repr

/-- The report of a machine that cannot start. -/
def BootError.message : BootError → String
  | program e => e.message
  | seed e => e.message

/-- The machine that the bytes of a program and a seed start. The program is looked at
before the seed. Without a seed the random bytes come from `entropy`. -/
def Machine.boot (bytes : Array UInt8) (seed : Option Seed) (entropy : Nat) :
    Except BootError Machine := do
  let program ← (Program.ofBytes bytes).mapError .program
  let source ← (RandomSource.ofSeed? (seed.getD (.number entropy))).mapError .seed
  .ok (.powerOn program source)

end Chip8
