/-!
# Counters

What the machine has done since power-on, counted.

* `Counters` — thirteen counts, all zero at power-on
* `Counters.toList` — each count with its label, in the order of reports
-/

namespace Chip8

/-- The counts of what a machine has done. -/
structure Counters where
  /-- Cycles that did not fail. -/
  instructions : Nat := 0
  /-- Times the screen was cleared. -/
  clears : Nat := 0
  /-- Sprites drawn. -/
  draws : Nat := 0
  /-- Sprites drawn that switched off a lit pixel. -/
  collisions : Nat := 0
  /-- Bytes of memory read by instructions. -/
  reads : Nat := 0
  /-- Bytes of memory written by instructions. -/
  writes : Nat := 0
  /-- Times a timer was set. -/
  timerSets : Nat := 0
  /-- Cycles spent waiting for a key. -/
  keyWaits : Nat := 0
  /-- Jumps taken. -/
  jumps : Nat := 0
  /-- Subroutines called. -/
  calls : Nat := 0
  /-- Subroutines returned from. -/
  returns : Nat := 0
  /-- Random bytes drawn. -/
  randoms : Nat := 0
  /-- Ticks of the timers. -/
  ticks : Nat := 0
deriving DecidableEq, Repr

/-- Each count with its label, in the order of reports. -/
def Counters.toList (c : Counters) : List (String × Nat) :=
  [("instructions_executed", c.instructions),
   ("display_clears", c.clears),
   ("display_writes", c.draws),
   ("sprite_collisions", c.collisions),
   ("memory_reads", c.reads),
   ("memory_writes", c.writes),
   ("timer_sets", c.timerSets),
   ("key_wait_cycles", c.keyWaits),
   ("jumps_taken", c.jumps),
   ("subroutine_calls", c.calls),
   ("returns", c.returns),
   ("random_generations", c.randoms),
   ("timer_ticks", c.ticks)]

end Chip8
