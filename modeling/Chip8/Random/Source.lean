import Chip8.Random.Generator

/-!
# Sources of random bytes

The machine takes its random bytes from a seeded generator or from a given
stream. Power-on starts a seeded source again from its seed, while a stream goes
on where it is.

* `RandomSource` — a source and where it stands
* `RandomSource.draw` — the next byte, and the source after it
* `RandomSource.restart` — the source after power-on
* `RandomSource.ofSeed?` — the source of a seed, which must not be negative anywhere
-/

namespace Chip8

/-- A seed with an integer below zero. -/
structure NegativeSeed where
  /-- The first such integer. -/
  value : Int
deriving DecidableEq, Repr

/-- The report of a seed with an integer below zero. -/
def NegativeSeed.message (_ : NegativeSeed) : String := "expected non-negative integer"

/-- A source of random bytes. -/
inductive RandomSource where
  /-- A generator that was started from the words of a seed. -/
  | seeded (entropy : List UInt32) (generator : Generator)
  /-- A stream of bytes, and how many of them were taken. -/
  | stream (bytes : Nat → UInt8) (position : Nat)

namespace RandomSource

/-- The source that the words of a seed start. -/
def ofEntropy (entropy : List UInt32) : RandomSource :=
  .seeded entropy (Generator.ofEntropy entropy)

/-- The source that a stream starts. -/
def ofStream (bytes : Nat → UInt8) : RandomSource := .stream bytes 0

/-- The source that a seed starts, if no integer in it is negative. -/
def ofSeed? (seed : Seed) : Except NegativeSeed RandomSource :=
  match seed.parts.find? (· < 0) with
  | some n => .error ⟨n⟩
  | none => .ok (ofEntropy seed.entropy)

/-- The next byte, and the source after it. -/
def draw : RandomSource → UInt8 × RandomSource
  | seeded entropy generator =>
    let (byte, next) := generator.byte
    (byte, seeded entropy next)
  | stream bytes position => (bytes position, stream bytes (position + 1))

/-- The source after power-on: a seed starts again, a stream goes on. -/
def restart : RandomSource → RandomSource
  | seeded entropy _ => ofEntropy entropy
  | stream bytes position => stream bytes position

/-- The source after `count` more bytes. -/
def after (s : RandomSource) : Nat → RandomSource
  | 0 => s
  | count + 1 => (s.after count).draw.2

/-- The byte that comes after `count` others. -/
def byteAfter (s : RandomSource) (count : Nat) : UInt8 := (s.after count).draw.1

/-- A stream that was drawn from is the same stream, further on. -/
theorem after_stream (bytes : Nat → UInt8) (position count : Nat) :
    (stream bytes position).after count = stream bytes (position + count) := by
  induction count with
  | zero => rfl
  | succ count ih =>
    rw [after, ih]
    rfl

theorem byteAfter_stream (bytes : Nat → UInt8) (position count : Nat) :
    (stream bytes position).byteAfter count = bytes (position + count) := by
  rw [byteAfter, after_stream]
  rfl

end RandomSource

end Chip8
