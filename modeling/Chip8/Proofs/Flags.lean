import Chip8.Proofs.Bounds
import Chip8.Proofs.Footprint

/-!
# Results and flags

The arithmetic of the machine is that of bytes, and what a byte cannot hold goes to the flag: the
carry of a sum, the borrow of a difference, the bit that a shift pushes out. Result and flag
together lose nothing, so that each instruction is an equation between numbers. It holds for any
choice of registers, since both operands are read before the first register is written, and the
flag is written last.

* `Machine.Leaves`, `Machine.Computes` — a cycle that leaves a result and a flag under some law
* `Machine.Assigns` — a cycle that sets one register and no flag
* `toNat_add_flag`, `toNat_sub_flag`, `toNat_half_flag`, `toNat_double_flag` — the equations
* `Machine.computes_of_fetches`, `Machine.assigns_of_fetches` — what instructions with and without
  a flag do
* `Machine.flags_exact` — all of them together
-/

namespace Chip8

namespace Machine

/-! ## The equations -/

section Equations

variable (a b : UInt8)

theorem toNat_flag (c : Bool) : (flag c).toNat = c.toNat := by
  cases c <;> rfl

theorem toNat_flag_le (c : Bool) : (flag c).toNat ≤ 1 := by
  cases c <;> decide

theorem toNat_flag_eq_one_iff {c : Prop} [Decidable c] : (flag c).toNat = 1 ↔ c := by
  by_cases h : c <;> simp [flag, h]

/-- A sum is the result and 256 for the carry. -/
theorem toNat_add_flag :
    (a + b).toNat + 256 * (flag (255 < a.toNat + b.toNat)).toNat = a.toNat + b.toNat := by
  have ha := a.toNat_lt
  have hb := b.toNat_lt
  rw [toNat_flag, UInt8.toNat_add]
  by_cases h : 255 < a.toNat + b.toNat
  · rw [decide_eq_true h, Bool.toNat_true]
    omega
  · rw [decide_eq_false h, Bool.toNat_false]
    omega

/-- A difference is the result less 256 for the borrow, and there is none if the flag is set. -/
theorem toNat_sub_flag :
    ((a - b).toNat : Int) - 256 * (1 - (flag (b ≤ a)).toNat) = a.toNat - b.toNat := by
  have ha := a.toNat_lt
  have hb := b.toNat_lt
  rw [toNat_flag, UInt8.toNat_sub]
  by_cases h : b ≤ a
  · have hle : b.toNat ≤ a.toNat := h
    rw [decide_eq_true h, Bool.toNat_true]
    omega
  · have hlt : ¬b.toNat ≤ a.toNat := h
    rw [decide_eq_false h, Bool.toNat_false]
    omega

theorem toNat_low_le : (b % 2).toNat ≤ 1 := by
  rw [UInt8.toNat_mod, show (2 : UInt8).toNat = 2 from rfl]
  omega

theorem toNat_high_le : (b / 128).toNat ≤ 1 := by
  have hb := b.toNat_lt
  rw [UInt8.toNat_div, show (128 : UInt8).toNat = 128 from rfl]
  omega

/-- A byte is twice its half and the bit that was shifted out. -/
theorem toNat_half_flag : 2 * (b / 2).toNat + (b % 2).toNat = b.toNat := by
  rw [UInt8.toNat_div, UInt8.toNat_mod, show (2 : UInt8).toNat = 2 from rfl]
  omega

/-- The double of a byte is the result and 256 for the bit that was shifted out. -/
theorem toNat_double_flag : (2 * b).toNat + 256 * (b / 128).toNat = 2 * b.toNat := by
  have hb := b.toNat_lt
  rw [UInt8.toNat_mul, UInt8.toNat_div, show (2 : UInt8).toNat = 2 from rfl,
    show (128 : UInt8).toNat = 128 from rfl]
  omega

end Equations

/-! ## Cycles -/

/-- A machine has left a result in `VX` and a flag in `VF`. The flag wins if they are the same. -/
structure Leaves (m m' : Machine) (x : Register) (result flag : Nat) : Prop where
  /-- The result is a byte. -/
  byte : result ≤ 255
  /-- The flag is a bit. -/
  bit : flag ≤ 1
  /-- The result is in `VX`, unless that is the flag register. -/
  target : x ≠ flagRegister → (m'.reg x).toNat = result
  /-- The flag is in `VF`. -/
  flagged : (m'.reg flagRegister).toNat = flag
  /-- The other registers are as they were. -/
  others : ∀ z, z ≠ x → z ≠ flagRegister → m'.reg z = m.reg z

/-- A cycle succeeds and leaves a result and a flag for which the law holds. -/
def Computes (m : Machine) (now before : List Bool) (x : Register) (law : Nat → Nat → Prop) :
    Prop :=
  ∃ m' r f, m.cycleFrom now before = .ok () m' ∧ m.Leaves m' x r f ∧ law r f

/-- A cycle succeeds and leaves a number in `VX`. No other register changes. -/
def Assigns (m : Machine) (now before : List Bool) (x : Register) (value : Nat) : Prop :=
  ∃ m', m.cycleFrom now before = .ok () m' ∧ (m'.reg x).toNat = value ∧
    ∀ z, z ≠ x → m'.reg z = m.reg z

variable {m : Machine} {w : Word} {i : Instruction} {now before : List Bool}

/-- An instruction at the program counter that is not refused is carried out, whatever keys the
machine is shown. -/
theorem exists_cycleFrom_of_fetches (hw : m.Fetches w) (hdecode : Instruction.decode? w = some i)
    (hrefusal : m.refusal i = none) (hnow : now.length = 16) (hbefore : before.length = 16) :
    ∃ keys previous,
      m.cycleFrom now before = .ok () ((m.latch keys previous).perform i).counted := by
  obtain ⟨keys, hkeys⟩ := Keypad.ofList?_of_length hnow
  obtain ⟨previous, hprevious⟩ := Keypad.ofList?_of_length hbefore
  exact ⟨keys, previous, cycleFrom_of_pending hkeys hprevious (hw.pending hdecode) hrefusal⟩

section

variable {x : Register} {value : UInt8} (hw : m.Fetches w)
  (hdecode : Instruction.decode? w = some i) (hrefusal : m.refusal i = none)
  (hnow : now.length = 16) (hbefore : before.length = 16)
include hw hdecode hrefusal hnow hbefore

/-- An instruction that sets a register and then the flag computes whatever law holds of the
two. -/
theorem computes_of_fetches {flag : UInt8} {law : Nat → Nat → Prop}
    (hperform : ∀ keys previous, (m.latch keys previous).perform i =
      ((m.latch keys previous).setFlagged x value flag).onward)
    (hflag : flag.toNat ≤ 1) (hlaw : law value.toNat flag.toNat) :
    m.Computes now before x law := by
  obtain ⟨keys, previous, hcycle⟩ :=
    exists_cycleFrom_of_fetches hw hdecode hrefusal hnow hbefore
  rw [hperform] at hcycle
  refine ⟨_, _, _, hcycle, ?_, hlaw⟩
  constructor
  case byte => exact toNat_byte_le value
  case bit => exact hflag
  case target =>
    intro hx
    rw [reg_counted, reg_onward, reg_setFlagged, if_neg hx, if_pos rfl]
  case flagged => rw [reg_counted, reg_onward, reg_setFlagged, if_pos rfl]
  case others =>
    intro z hz hzflag
    rw [reg_counted, reg_onward, reg_setFlagged, if_neg hzflag, if_neg hz, reg_latch]

/-- An instruction that sets a register assigns it. -/
theorem assigns_of_fetches {n : Nat}
    (hperform : ∀ keys previous, (m.latch keys previous).perform i =
      ((m.latch keys previous).setReg x value).onward)
    (hvalue : value.toNat = n) : m.Assigns now before x n := by
  obtain ⟨keys, previous, hcycle⟩ :=
    exists_cycleFrom_of_fetches hw hdecode hrefusal hnow hbefore
  rw [hperform] at hcycle
  refine ⟨_, hcycle, ?_, ?_⟩
  · rw [reg_counted, reg_onward, reg_setReg, if_pos rfl, hvalue]
  · intro z hz
    rw [reg_counted, reg_onward, reg_setReg, if_neg hz, reg_latch]

end

/-- **Flags are exact.** Whatever registers an instruction names, be they the same or the flag
register, result and flag are told by the operands before it: the flag is the carry of a sum, tells
that nothing was borrowed in a difference, or is the bit that was shifted out of `VY`. The
instructions without a flag add modulo 256 or work bit by bit, and leave the flag register alone
unless they name it. -/
theorem flags_exact (m : Machine) (x y : Register) {now before : List Bool}
    (hnow : now.length = 16) (hbefore : before.length = 16) :
    let a := (m.reg x).toNat
    let b := (m.reg y).toNat
    (m.Fetches ⟨0x8, x, y, 0x4⟩ → m.Computes now before x fun r f =>
      (f = 1 ↔ 256 ≤ a + b) ∧ r + 256 * f = a + b) ∧
    (m.Fetches ⟨0x8, x, y, 0x5⟩ → m.Computes now before x fun r f =>
      (f = 1 ↔ b ≤ a) ∧ (r : Int) - 256 * (1 - f) = a - b) ∧
    (m.Fetches ⟨0x8, x, y, 0x7⟩ → m.Computes now before x fun r f =>
      (f = 1 ↔ a ≤ b) ∧ (r : Int) - 256 * (1 - f) = b - a) ∧
    (m.Fetches ⟨0x8, x, y, 0x6⟩ → m.Computes now before x fun r f => 2 * r + f = b) ∧
    (m.Fetches ⟨0x8, x, y, 0xE⟩ → m.Computes now before x fun r f => r + 256 * f = 2 * b) ∧
    (∀ nn : UInt8, m.Fetches (.withByte 0x7 x nn) →
      m.Assigns now before x ((a + nn.toNat) % 256)) ∧
    (m.Fetches ⟨0x8, x, y, 0x0⟩ → m.Assigns now before x b) ∧
    (m.Fetches ⟨0x8, x, y, 0x1⟩ → m.Assigns now before x (a ||| b)) ∧
    (m.Fetches ⟨0x8, x, y, 0x2⟩ → m.Assigns now before x (a &&& b)) ∧
    (m.Fetches ⟨0x8, x, y, 0x3⟩ → m.Assigns now before x (a ^^^ b)) := by
  intro a b
  refine ⟨?add, ?sub, ?subFrom, ?shiftRight, ?shiftLeft, ?addByte, ?copy, ?or, ?and, ?xor⟩
  case add =>
    intro hw
    refine computes_of_fetches hw rfl rfl hnow hbefore (fun _ _ => rfl) (toNat_flag_le _)
      ⟨?_, toNat_add_flag _ _⟩
    exact toNat_flag_eq_one_iff
  case sub =>
    intro hw
    refine computes_of_fetches hw rfl rfl hnow hbefore (fun _ _ => rfl) (toNat_flag_le _)
      ⟨?_, toNat_sub_flag _ _⟩
    exact toNat_flag_eq_one_iff
  case subFrom =>
    intro hw
    refine computes_of_fetches hw rfl rfl hnow hbefore (fun _ _ => rfl) (toNat_flag_le _)
      ⟨?_, toNat_sub_flag _ _⟩
    exact toNat_flag_eq_one_iff
  case shiftRight =>
    intro hw
    exact computes_of_fetches hw rfl rfl hnow hbefore (fun _ _ => rfl) (toNat_low_le _)
      (toNat_half_flag _)
  case shiftLeft =>
    intro hw
    exact computes_of_fetches hw rfl rfl hnow hbefore (fun _ _ => rfl) (toNat_high_le _)
      (toNat_double_flag _)
  case addByte =>
    intro nn hw
    have hdecode : Instruction.decode? (.withByte 0x7 x nn) = some (.addByte x nn) :=
      congrArg (some ∘ Instruction.addByte x) (Word.nn_withByte 0x7 x nn)
    exact assigns_of_fetches hw hdecode rfl hnow hbefore (fun _ _ => rfl) (UInt8.toNat_add ..)
  case copy =>
    intro hw
    exact assigns_of_fetches hw rfl rfl hnow hbefore (fun _ _ => rfl) rfl
  case or =>
    intro hw
    exact assigns_of_fetches hw rfl rfl hnow hbefore (fun _ _ => rfl) (UInt8.toNat_or ..)
  case and =>
    intro hw
    exact assigns_of_fetches hw rfl rfl hnow hbefore (fun _ _ => rfl) (UInt8.toNat_and ..)
  case xor =>
    intro hw
    exact assigns_of_fetches hw rfl rfl hnow hbefore (fun _ _ => rfl) (UInt8.toNat_xor ..)

/-- The flag register added to itself keeps nothing of the sum but the carry. -/
theorem flags_exact_doubled_flag :
    let start := powerOn ⟨#[0x8F, 0xF4], by decide⟩ (.ofStream fun _ => 0)
    let m := start.setReg 0xF 200
    m.Fetches ⟨0x8, 0xF, 0xF, 0x4⟩ ∧
      ∃ m', m.cycleFrom (.replicate 16 false) (.replicate 16 false) = .ok () m' ∧
        (m'.reg 0xF).toNat = 1 := by
  intro start m
  have hmemory : m.memory = .load ⟨#[0x8F, 0xF4], by decide⟩ := by rfl
  have hw : m.Fetches ⟨0x8, 0xF, 0xF, 0x4⟩ :=
    ⟨by decide, (word_of_load (m := m) (k := 0) hmemory rfl).trans (by decide)⟩
  have hkeys : (List.replicate 16 false).length = 16 := List.length_replicate
  obtain ⟨hadd, -⟩ := flags_exact m 0xF 0xF hkeys hkeys
  obtain ⟨m', r, f, hcycle, hleaves, hcarry, -⟩ := hadd hw
  have hsum : 256 ≤ (m.reg 0xF).toNat + (m.reg 0xF).toNat := by decide
  exact ⟨hw, m', hcycle, hleaves.flagged.trans (hcarry.2 hsum)⟩

end Machine

end Chip8
