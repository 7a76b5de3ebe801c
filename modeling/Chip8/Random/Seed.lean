/-!
# Spreading a seed

A seed is an integer of any size, or several of them. It is cut into words of 32
bits and stirred into a pool of four words, from which as many well-mixed words as
needed are drawn.

* `Seed`, `Seed.parts` — a seed, and the integers that make it up
* `Seed.words`, `Seed.entropy` — the words of an integer and of a seed
* `Seed.Mixer`, `Seed.pool` — stirring words into the pool
* `Seed.draw`, `Seed.drawn` — what is drawn from the pool
-/

namespace Chip8

/-- A seed of random bytes. -/
inductive Seed where
  /-- An integer. -/
  | number (n : Int)
  /-- Several integers, one after another. -/
  | numbers (ns : List Int)
deriving DecidableEq, Repr

namespace Seed

/-- The integers that make up a seed. -/
def parts : Seed → List Int
  | number n => [n]
  | numbers ns => ns

/-- The number of values of a word. -/
def wordValues : Nat := 0x100000000

/-- The 32-bit words of an integer, the least significant first; zero has one word. -/
def words (n : Nat) : List UInt32 :=
  if n < wordValues then [UInt32.ofNat n]
  else UInt32.ofNat n :: words (n / wordValues)
termination_by n
decreasing_by simp only [wordValues] at *; omega

/-- The words of a seed. Only integers that are not negative have any. -/
def entropy (seed : Seed) : List UInt32 := seed.parts.flatMap fun n => words n.toNat

/-- The upper half of a word folded onto its lower half. -/
def fold (v : UInt32) : UInt32 := v ^^^ (v >>> 16)

/-- Two words mixed into one. -/
def blend (x y : UInt32) : UInt32 := fold (0xca01f9dd * x - 0x4973f715 * y)

/-- A pool of four words, and the multiplier with which the next word is hashed. -/
structure Mixer where
  /-- The pool. -/
  pool : Vector UInt32 4
  /-- The multiplier, which changes with every word hashed. -/
  multiplier : UInt32

namespace Mixer

/-- A word hashed with the multiplier, and the multiplier after it. -/
def hash (multiplier v : UInt32) : UInt32 × UInt32 :=
  let next := multiplier * 0x931e8875
  (fold ((v ^^^ multiplier) * next), next)

/-- The mixer before anything was hashed. -/
def start : Mixer := ⟨Vector.replicate 4 0, 0x43b0d7e5⟩

/-- Puts the hash of a word in place `i`. -/
def fill (m : Mixer) (i : Fin 4) (v : UInt32) : Mixer :=
  let (hashed, next) := hash m.multiplier v
  ⟨m.pool.set i hashed, next⟩

/-- Blends the hash of a word into place `i`. -/
def stir (m : Mixer) (i : Fin 4) (v : UInt32) : Mixer :=
  let (hashed, next) := hash m.multiplier v
  ⟨m.pool.set i (blend m.pool[i] hashed), next⟩

/-- Stirs every place of the pool into every other one. -/
def cross (m : Mixer) : Mixer :=
  (List.finRange 4).foldl (fun m a =>
    ((List.finRange 4).filter (· ≠ a)).foldl (fun m b => m.stir b m.pool[a]) m) m

/-- Stirs a word into every place of the pool. -/
def absorb (m : Mixer) (v : UInt32) : Mixer :=
  (List.finRange 4).foldl (fun m i => m.stir i v) m

end Mixer

/-- The pool of a list of words: the first four fill the places, which are then stirred
into one another, and the others are stirred in one by one. -/
def pool (entropy : List UInt32) : Vector UInt32 4 :=
  let filled := (List.finRange 4).foldl (fun m i => m.fill i (entropy.getD i 0)) Mixer.start
  ((entropy.drop 4).foldl Mixer.absorb filled.cross).pool

/-- Draws `count` words from a pool, going round it from place `i` on. -/
def draw (pool : Vector UInt32 4) : (count i : Nat) → (multiplier : UInt32) → List UInt32
  | 0, _, _ => []
  | count + 1, i, multiplier =>
    let next := multiplier * 0x58f38ded
    fold ((pool.get ⟨i % 4, Nat.mod_lt i (by decide)⟩ ^^^ multiplier) * next) ::
      draw pool count (i + 1) next

/-- The first eight words drawn from the pool of a list of words, two at a time as numbers
of 64 bits, the less significant word first. -/
def drawn (entropy : List UInt32) : List Nat :=
  pairs (draw (pool entropy) 8 0 0x8b51f9dd)
where
  /-- Joins the words two at a time. -/
  pairs : List UInt32 → List Nat
    | low :: high :: rest => (low.toNat + wordValues * high.toNat) :: pairs rest
    | _ => []

end Seed

end Chip8
