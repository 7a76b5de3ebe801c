import Chip8.Random.Seed

/-!
# The random number generator

A permuted congruential generator: a state of 128 bits goes from step to step by
a multiplication and an addition, and its two halves, combined and rotated, are
given out as 64 random bits.

* `Generator`, `Generator.ofEntropy` — the state, and the state that a seed starts
* `Generator.number` — 64 random bits
* `Generator.word` — 32 random bits: the two halves of a number, the lower first
* `Generator.byte` — a random byte
-/

namespace Chip8

/-- The state of a generator. -/
structure Generator where
  /-- The state of the congruence. -/
  state : BitVec 128
  /-- What is added at each step, an odd number. -/
  increment : BitVec 128
  /-- The upper half of the last number, if only the lower half was given out. -/
  spare : Option (BitVec 32)
deriving DecidableEq

namespace Generator

/-- The multiplier of the congruence. -/
def multiplier : BitVec 128 := 0x2360ED051FC65DA44385DF649FCCF645

/-- The next state of the congruence. -/
def step (g : Generator) : Generator :=
  { g with state := g.state * multiplier + g.increment }

/-- The state that the words of a seed start. -/
def ofEntropy (entropy : List UInt32) : Generator :=
  let s := Seed.drawn entropy
  let wide (i : Nat) : BitVec 128 :=
    BitVec.ofNat 64 (s.getD i 0) ++ BitVec.ofNat 64 (s.getD (i + 1) 0)
  let g : Generator := step ⟨0, (wide 2 <<< 1) ||| 1, none⟩
  step { g with state := g.state + wide 0 }

/-- The random bits of a state: its halves combined, rotated by its top six bits. -/
def output (state : BitVec 128) : BitVec 64 :=
  (state.extractLsb' 64 64 ^^^ state.extractLsb' 0 64).rotateRight (state >>> 122).toNat

/-- The next 64 random bits. -/
def number (g : Generator) : BitVec 64 × Generator :=
  let next := g.step
  (output next.state, next)

/-- The next 32 random bits. -/
def word (g : Generator) : BitVec 32 × Generator :=
  match g.spare with
  | some w => (w, { g with spare := none })
  | none =>
    let (bits, next) := g.number
    (bits.extractLsb' 0 32, { next with spare := some (bits.extractLsb' 32 32) })

/-- The next random byte: the top eight bits of a word. -/
def byte (g : Generator) : UInt8 × Generator :=
  let (bits, next) := g.word
  (UInt8.ofBitVec (bits.extractLsb' 24 8), next)

end Generator

end Chip8
