import Chip8.Proofs.Drawing
import Chip8.Proofs.Flags
import Mathlib.Data.Finset.Prod
import Mathlib.Data.Finset.SymmDiff
import Mathlib.Data.List.ProdSigma

/-!
# Pixels gained and lost

A sprite that is drawn lights the pixels below it that were dark and darkens those that were lit.
So the number of lit pixels grows by the bits of the sprite that land on the screen, less twice
those among them that strike a lit pixel, and there is a collision if there is one of these.
Drawing the same sprite again takes all of it back, and the bits that struck nothing the first
time strike the second time.

* `Sprite.place`, `Sprite.landing`, `Sprite.striking` — the bits of a sprite that land on the
  screen, and those that fall on lit pixels
* `Sprite.covers_iff_landing` — the pixels that a sprite covers are those its bits land on
* `Screen.litPixels`, `Screen.lit_eq_card` — the lit pixels, and their number
* `Screen.lit_draw` — what drawing does to it
* `Screen.collides_iff_striking`, `Screen.collides_or_collides_draw` — a collision is a bit that
  strikes, and one of two drawings has one
* `Machine.Draws`, `Machine.draws_of_cycleFrom`, `Machine.draws_of_read` — what `DXYN` does
* `Machine.draw_accounts` — all of this together
-/

namespace Chip8

/-! ## Bits and pixels -/

namespace Sprite

/-- The row and the column of the screen in which a bit of a sprite falls, given its row and its
column in the sprite. They may be off the right or the bottom edge. -/
def place (p : Sprite) (bit : Nat × Nat) : Nat × Nat :=
  ((p.y % 32).toNat + bit.1, (p.x % 64).toNat + bit.2)

/-- The bits of a sprite that are set and fall on the screen. -/
def landing (p : Sprite) : Finset (Nat × Nat) :=
  (Finset.range p.rows.length ×ˢ Finset.range 8).filter fun bit =>
    (p.rows.getD bit.1 0).toNat.testBit (7 - bit.2) = true ∧
      (p.place bit).1 < 32 ∧ (p.place bit).2 < 64

/-- Those among them that fall on lit pixels. -/
def striking (p : Sprite) (s : Screen) : Finset (Nat × Nat) :=
  p.landing.filter fun bit => s.pixel (p.place bit).2 (p.place bit).1 = true

variable (p : Sprite)

/-- Two bits do not fall on one pixel. -/
theorem place_injective : Function.Injective p.place := by
  rintro ⟨i, j⟩ ⟨i', j'⟩ h
  obtain ⟨hrow, hcolumn⟩ := Prod.mk.inj h
  exact Prod.ext (by omega) (by omega)

/-- A pixel is covered exactly if a bit lands on it. -/
theorem covers_iff_landing {row column : Nat} :
    p.Covers column row ↔ ∃ bit ∈ p.landing, p.place bit = (row, column) := by
  have hx : (p.x % 64).toNat = p.x % 64 := Int.toNat_of_nonneg (by omega)
  have hy : (p.y % 32).toNat = p.y % 32 := Int.toNat_of_nonneg (by omega)
  simp only [landing, Finset.mem_filter, Finset.mem_product, Finset.mem_range]
  constructor
  · rintro ⟨hcolumn, hrow, i, j, byte, hbyte, hj, hbit, hc, hr⟩
    obtain ⟨hi, -⟩ := List.getElem?_eq_some_iff.1 hbyte
    have hplace : p.place (i, j) = (row, column) := Prod.ext (by simp [place]; omega)
      (by simp [place]; omega)
    refine ⟨(i, j), ⟨⟨hi, hj⟩, ?_, ?_, ?_⟩, hplace⟩
    · rwa [List.getD_eq_getElem?_getD, hbyte]
    · rwa [hplace]
    · rwa [hplace]
  · rintro ⟨⟨i, j⟩, ⟨⟨hi, hj⟩, hbit, hrow, hcolumn⟩, hplace⟩
    rw [hplace] at hrow hcolumn
    obtain ⟨hr, hc⟩ := Prod.mk.inj hplace
    refine ⟨hcolumn, hrow, i, j, p.rows[i], List.getElem?_eq_getElem hi, hj, ?_, by omega,
      by omega⟩
    rwa [List.getD_eq_getElem?_getD, List.getElem?_eq_getElem hi] at hbit

end Sprite

/-! ## Lit pixels -/

namespace Screen

variable (s : Screen) (p : Sprite)

/-- The pixels of a screen that are lit, each as its row and its column. -/
def litPixels : Finset (Nat × Nat) :=
  (Finset.range 32 ×ˢ Finset.range 64).filter fun pixel => s.pixel pixel.2 pixel.1 = true

theorem rows_grid :
    s.grid.rows =
      (List.range 32).map fun row => (List.range 64).map fun column => s.pixel column row := by
  apply List.ext_getElem
  · simp [grid]
  · intro row hrow hrow'
    have h : row < 32 := by simpa using hrow'
    simp only [grid, List.getElem_map, List.getElem_range, Vector.getElem_toList, pixel,
      Vector.getElem?_eq_getElem h, Option.getD_some]

/-- The number of lit pixels is the size of their set. -/
theorem lit_eq_card : s.lit = s.litPixels.card := by
  have hcount : s.lit = (List.range 32 ×ˢ List.range 64).countP fun q => s.pixel q.2 q.1 := by
    unfold lit SProd.sprod List.instSProd List.product
    rw [rows_grid, List.countP_flatten, List.countP_flatMap, List.map_map]
    simp [Function.comp_def]
  have hplaces : (List.range 32 ×ˢ List.range 64).toFinset =
      Finset.range 32 ×ˢ Finset.range 64 := by
    ext ⟨row, column⟩
    simp
  have hnodup : (List.range 32 ×ˢ List.range 64).Nodup :=
    List.nodup_range.product List.nodup_range
  rw [hcount, List.countP_eq_length_filter, ← List.toFinset_card_of_nodup (hnodup.filter _),
    List.toFinset_filter, hplaces, litPixels]

theorem mem_litPixels {row column : Nat} :
    (row, column) ∈ s.litPixels ↔ row < 32 ∧ column < 64 ∧ s.pixel column row = true := by
  simp [litPixels, and_assoc]

theorem litPixels_draw :
    (s.draw p.x p.y p.rows).litPixels = symmDiff s.litPixels (p.landing.image p.place) := by
  ext ⟨row, column⟩
  rw [Finset.mem_symmDiff, mem_litPixels, mem_litPixels, Finset.mem_image, ← p.covers_iff_landing,
    pixel_draw]
  by_cases hcovers : p.Covers column row
  · have hinside : column < 64 ∧ row < 32 := ⟨hcovers.1, hcovers.2.1⟩
    simp [hcovers, hinside]
  · simp [hcovers]

theorem litPixels_inter :
    s.litPixels ∩ p.landing.image p.place = (p.striking s).image p.place := by
  ext ⟨row, column⟩
  simp only [Finset.mem_inter, mem_litPixels, Finset.mem_image, Sprite.striking, Finset.mem_filter]
  constructor
  · rintro ⟨⟨-, -, hlit⟩, bit, hbit, hplace⟩
    exact ⟨bit, ⟨hbit, by rwa [hplace]⟩, hplace⟩
  · rintro ⟨bit, ⟨hbit, hlit⟩, hplace⟩
    have hinside := (Finset.mem_filter.1 hbit).2.2
    rw [hplace] at hinside hlit
    exact ⟨⟨hinside.1, hinside.2, hlit⟩, bit, hbit, hplace⟩

/-- **Pixels gained and lost.** Every bit that lands adds a lit pixel, but one that strikes takes
one away. -/
theorem lit_draw :
    ((s.draw p.x p.y p.rows).lit : Int) =
      s.lit + p.landing.card - 2 * (p.striking s).card := by
  have hcovered : (p.landing.image p.place).card = p.landing.card :=
    Finset.card_image_of_injective _ p.place_injective
  have hstruck : (s.litPixels ∩ p.landing.image p.place).card = (p.striking s).card := by
    rw [litPixels_inter, Finset.card_image_of_injective _ p.place_injective]
  have hlost := Finset.card_sdiff_add_card_inter s.litPixels (p.landing.image p.place)
  have hgained := Finset.card_sdiff_add_card_inter (p.landing.image p.place) s.litPixels
  rw [Finset.inter_comm] at hgained
  rw [lit_eq_card, lit_eq_card, litPixels_draw, Finset.symmDiff_def,
    Finset.card_union_of_disjoint disjoint_sdiff_sdiff]
  omega

/-- A sprite collides exactly if one of its bits strikes. -/
theorem collides_iff_striking :
    s.collides p.x p.y p.rows = true ↔ 0 < (p.striking s).card := by
  rw [collides, overlaps_iff, Finset.card_pos]
  simp only [pixel_stamp, p.covers_iff_landing]
  constructor
  · rintro ⟨column, row, hlit, bit, hbit, hplace⟩
    exact ⟨bit, Finset.mem_filter.2 ⟨hbit, by rwa [hplace]⟩⟩
  · rintro ⟨bit, hbit⟩
    obtain ⟨hland, hlit⟩ := Finset.mem_filter.1 hbit
    obtain ⟨-, -, hrow, hcolumn⟩ := Finset.mem_filter.1 hland
    exact ⟨⟨_, hcolumn⟩, ⟨_, hrow⟩, hlit, bit, hland, rfl⟩

/-- A bit that lands strikes when the sprite is drawn, or else when it is drawn again. -/
theorem striking_or_striking_draw {bit : Nat × Nat} (h : bit ∈ p.landing) :
    bit ∈ p.striking s ∨ bit ∈ p.striking (s.draw p.x p.y p.rows) := by
  have hcovers : p.Covers (p.place bit).2 (p.place bit).1 := p.covers_iff_landing.2 ⟨bit, h, rfl⟩
  simp only [Sprite.striking, Finset.mem_filter, pixel_draw, hcovers, h, true_and]
  cases s.pixel (p.place bit).2 (p.place bit).1 <;> simp

/-- A sprite that is drawn twice collides at least once, unless nothing of it lands. -/
theorem collides_or_collides_draw :
    (s.collides p.x p.y p.rows = true ∨
        (s.draw p.x p.y p.rows).collides p.x p.y p.rows = true) ↔ 0 < p.landing.card := by
  rw [collides_iff_striking, collides_iff_striking]
  constructor
  · rintro (h | h) <;> exact h.trans_le (Finset.card_filter_le _ _)
  · intro h
    obtain ⟨bit, hbit⟩ := Finset.card_pos.1 h
    rcases s.striking_or_striking_draw p hbit with hstrikes | hstrikes
    · exact .inl (Finset.card_pos.2 ⟨bit, hstrikes⟩)
    · exact .inr (Finset.card_pos.2 ⟨bit, hstrikes⟩)

end Screen

/-! ## Cycles -/

namespace Machine

/-- A machine has drawn a sprite, has set the flag register and counted if the sprite collides, and
has kept its store, its index register, its stack, its timers and the other registers. -/
structure Draws (m m' : Machine) (p : Sprite) : Prop where
  /-- The sprite is drawn. -/
  screen : m'.screen = m.screen.draw p.x p.y p.rows
  /-- The flag register tells whether it collides. -/
  flagged : m'.reg flagRegister = flag (m.screen.collides p.x p.y p.rows)
  /-- And the count of collisions grows by it. -/
  counted : m'.counters.collisions = m.counters.collisions + (m'.reg flagRegister).toNat
  /-- The store is as it was. -/
  memory : m'.memory = m.memory
  /-- The index register is as it was. -/
  index : m'.index = m.index
  /-- The stack is as it was. -/
  stack : m'.stack = m.stack
  /-- The delay timer is as it was. -/
  delay : m'.delay = m.delay
  /-- The sound timer is as it was. -/
  sound : m'.sound = m.sound
  /-- The other registers are as they were. -/
  others : ∀ r, r ≠ flagRegister → m'.reg r = m.reg r

variable {m m' : Machine} {x y : Register} {n : Nibble} {now before : List Bool}

theorem refusal_draw_eq_none_iff :
    m.refusal (.draw x y n) = none ↔ Memory.InRange m.index n.val := by
  rw [refusal, ← blockFault_eq_none_iff]
  split
  · next hend =>
    simp only [memorySize] at hend
    simp only [blockFault_eq_none_iff, Memory.InRange, reduceCtorEq, false_iff]
    omega
  · rfl

/-- `DXYN` takes the place of the sprite from the registers before it sets the flag, and its rows
from the index register on. -/
theorem draws_perform (keys previous : Keypad) :
    m.Draws ((m.latch keys previous).perform (.draw x y n)).counted
      ⟨(m.reg x).toNat, (m.reg y).toNat, m.bytesAtIndex n.val⟩ := by
  have hreg (r : Register) :=
    reg_drawn (m.latch keys previous) x y r ((m.latch keys previous).bytesAtIndex n.val)
  have hflag := (hreg flagRegister).trans (if_pos rfl)
  constructor
  case flagged => exact hflag
  case counted =>
    have hcount (hit : Bool) : (if hit then 1 else 0) = (flag hit).toNat := by cases hit <;> rfl
    exact congrArg (m.counters.collisions + ·)
      ((hcount _).trans (congrArg UInt8.toNat hflag).symm)
  case others =>
    intro r hr
    exact (hreg r).trans (if_neg hr)
  all_goals rfl

/-- A `DXYN` that succeeds has drawn the rows that it found. -/
theorem draws_of_cycleFrom (hw : m.Fetches ⟨0xD, x, y, n⟩)
    (hcycle : m.cycleFrom now before = .ok () m') :
    ∃ rows, m.memory.read m.index n.val = .ok rows ∧
      m.Draws m' ⟨(m.reg x).toNat, (m.reg y).toNat, rows⟩ := by
  have hpending : m.pending = .ok (_, .draw x y n) := hw.pending rfl
  obtain ⟨hrefusal, keys, previous, rfl⟩ := exists_perform_of_cycleFrom hpending hcycle
  exact ⟨_, if_pos (refusal_draw_eq_none_iff.1 hrefusal), draws_perform keys previous⟩

/-- And it does succeed where there are rows. -/
theorem draws_of_read (hw : m.Fetches ⟨0xD, x, y, n⟩) {rows : List UInt8}
    (hread : m.memory.read m.index n.val = .ok rows) (hnow : now.length = 16)
    (hbefore : before.length = 16) :
    ∃ m', m.cycleFrom now before = .ok () m' ∧
      m.Draws m' ⟨(m.reg x).toNat, (m.reg y).toNat, rows⟩ := by
  obtain ⟨hin, rfl⟩ := Memory.read_eq_ok_iff.1 hread
  obtain ⟨keys, previous, hcycle⟩ := exists_cycleFrom_of_fetches hw rfl
    (refusal_draw_eq_none_iff.2 hin) hnow hbefore
  exact ⟨_, hcycle, draws_perform keys previous⟩

theorem Draws.flag_eq_one_iff {p : Sprite} (h : m.Draws m' p) :
    m'.reg flagRegister = 1 ↔ m.screen.collides p.x p.y p.rows = true := by
  rw [h.flagged]
  cases m.screen.collides p.x p.y p.rows <;> decide

/-- Drawing a sprite twice restores the screen, and one of the two sets the flag, unless nothing
of the sprite lands. -/
theorem Draws.again {again again' : Machine} {p : Sprite} (h : m.Draws m' p)
    (hsame : again.screen = m'.screen) (hagain : again.Draws again' p) :
    again'.screen = m.screen ∧
      (m'.reg flagRegister = 1 ∨ again'.reg flagRegister = 1 ↔ 0 < p.landing.card) := by
  constructor
  · rw [hagain.screen, hsame, h.screen, Screen.draw_draw]
  · rw [h.flag_eq_one_iff, hagain.flag_eq_one_iff, hsame, h.screen,
      Screen.collides_or_collides_draw]

/-- **Drawing keeps accounts.** A `DXYN` that succeeds draws the rows that stand from the index
register on, at the place that `VX` and `VY` gave before the flag was set. The number of lit
pixels grows by the bits that land, less twice those that strike lit pixels. The flag is set if
there is one of these, the count of collisions grows by the flag, and store, index register, stack,
timers and the other registers stay as they were. The same sprite drawn again, at the same place in
a machine with that screen, restores the screen, and one of the two drawings has set the flag
exactly if any bit lands. -/
theorem draw_accounts (hw : m.Fetches ⟨0xD, x, y, n⟩)
    (hcycle : m.cycleFrom now before = .ok () m') :
    ∃ rows, m.memory.read m.index n.val = .ok rows ∧
      let p : Sprite := ⟨(m.reg x).toNat, (m.reg y).toNat, rows⟩
      m.Draws m' p ∧
      (m'.screen.lit : Int) = m.screen.lit + p.landing.card - 2 * (p.striking m.screen).card ∧
      m'.reg flagRegister = (if 0 < (p.striking m.screen).card then 1 else 0) ∧
      ∀ (again : Machine) (now' before' : List Bool), now'.length = 16 → before'.length = 16 →
        again.Fetches ⟨0xD, x, y, n⟩ → again.screen = m'.screen → again.reg x = m.reg x →
        again.reg y = m.reg y → again.index = m.index →
        again.memory.read m.index n.val = .ok rows →
        ∃ again', again.cycleFrom now' before' = .ok () again' ∧ again'.screen = m.screen ∧
          (m'.reg flagRegister = 1 ∨ again'.reg flagRegister = 1 ↔ 0 < p.landing.card) := by
  obtain ⟨rows, hread, hdraws⟩ := draws_of_cycleFrom hw hcycle
  refine ⟨rows, hread, ?_⟩
  intro p
  refine ⟨hdraws, ?lit, ?flag, ?again⟩
  case lit =>
    rw [hdraws.screen]
    exact m.screen.lit_draw p
  case flag =>
    have hstrikes := m.screen.collides_iff_striking p
    rw [hdraws.flagged]
    simp only [← hstrikes, flag]
    rfl
  case again =>
    intro again now' before' hnow hbefore hfetches hscreen hx hy hindex hbytes
    rw [← hindex] at hbytes
    obtain ⟨again', hcycle', hagain⟩ := draws_of_read hfetches hbytes hnow hbefore
    rw [hx, hy] at hagain
    exact ⟨again', hcycle', hdraws.again hscreen hagain⟩

/-- A program that draws itself in the last corner of the screen, with the flag register for both
coordinates: one pixel remains of it, and it is gone when the flag register is set back and the
program starts again. -/
theorem draw_accounts_corner :
    let start := powerOn ⟨#[0xDF, 0xF2], by decide⟩ (.ofStream fun _ => 0)
    let m : Machine := { start.setReg 0xF 63 with index := 512 }
    m.Fetches ⟨0xD, 0xF, 0xF, 0x2⟩ ∧
      ∃ m', m.cycleFrom (.replicate 16 false) (.replicate 16 false) = .ok () m' ∧
        m'.screen.lit = 1 ∧ m'.reg 0xF = 0 ∧
        let again : Machine := { m'.setReg 0xF 63 with pc := 512 }
        ∃ again', again.cycleFrom (.replicate 16 false) (.replicate 16 false) = .ok () again' ∧
          again'.screen = .blank ∧ again'.reg 0xF = 1 := by
  intro start m
  have hmemory : m.memory = .load ⟨#[0xDF, 0xF2], by decide⟩ := by rfl
  have hw : m.Fetches ⟨0xD, 0xF, 0xF, 0x2⟩ :=
    ⟨by decide, (word_of_load (m := m) (k := 0) hmemory rfl).trans (by decide)⟩
  have hkeys : (List.replicate 16 false).length = 16 := List.length_replicate
  have hscreen : m.screen = .blank := rfl
  have hrows : m.memory.read 512 2 = .ok [0xDF, 0xF2] := by
    rw [hmemory]
    simp [Memory.read, Memory.InRange, Memory.byteAt_load, List.range_succ, programStart]
  obtain ⟨m', hcycle, -⟩ := draws_of_read hw hrows hkeys hkeys
  obtain ⟨rows, hread, hdraws, hlit, hflag, hagain⟩ := draw_accounts hw hcycle
  obtain rfl := Except.ok.inj (hrows.symm.trans hread)
  have hplace : ((m.reg 0xF).toNat : Int) = 63 := rfl
  have hlanding : (Sprite.landing ⟨63, 63, [0xDF, 0xF2]⟩).card = 1 := by decide
  have hstriking : (Sprite.striking ⟨63, 63, [0xDF, 0xF2]⟩ m.screen).card = 0 := by
    rw [hscreen]
    simp [Sprite.striking]
  have hdark : m.screen.lit = 0 := by
    rw [hscreen, Screen.lit_eq_card]
    simp [Screen.litPixels]
  rw [hplace, hlanding, hstriking, hdark] at hlit
  rw [hplace, hstriking, if_neg (Nat.lt_irrefl 0)] at hflag
  rw [hplace, hlanding] at hagain
  refine ⟨hw, m', hcycle, by omega, hflag, ?_⟩
  intro again
  have hset : again.reg 0xF = 63 := (reg_setReg m' 0xF 0xF 63).trans (if_pos rfl)
  have hstored : again.memory = m.memory := hdraws.memory
  have hfetches : again.Fetches ⟨0xD, 0xF, 0xF, 0x2⟩ :=
    ⟨(by decide : (0 : Int) ≤ 512 ∧ (512 : Int) ≤ 4094),
      (word_of_load (m := again) (k := 0) (hstored.trans hmemory) rfl).trans (by decide)⟩
  have hread' : again.memory.read m.index (0x2 : Nibble).val = .ok [0xDF, 0xF2] :=
    (congrArg (Memory.read · m.index _) hstored).trans hread
  obtain ⟨again', hcycle', hrestored, hone⟩ := hagain again _ _ hkeys hkeys hfetches rfl hset hset
    hdraws.index hread'
  refine ⟨again', hcycle', hrestored, (hone.2 Nat.one_pos).resolve_left ?_⟩
  rw [hflag]
  decide

end Machine

end Chip8
