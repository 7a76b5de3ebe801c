import Chip8.Text.Hex
import Chip8.Text.Numeral

/-!
# Numerals read back

What is written in base sixteen is read back in base sixteen, whatever zeros are put in front of
it. The numerals are told by their digits for that: writing turns a number into digits, and
reading adds the digits up. What is written in base ten is read back as well, with one digit more
at a time.

* `Hex.digit`, `Hex.value` — a digit as a character, and the number of a list of digits
* `Hex.exists_numeral`, `Hex.numeral_three` — the digits of a numeral, and of one of three
* `Numeral.digitsValue_digits` — the number that is read from digits
* `Numeral.digitsValue_numeral` — numerals read back
* `Numeral.digitsValue_repr`, `Numeral.read_repr` — numbers in base ten read back
-/

namespace Chip8

namespace Hex

/-! ## Digits -/

/-- A digit of base sixteen as a character. -/
def digit (d : Fin 16) : Char := d.val.digitChar.toUpper

/-- The number that a list of digits stands for, the most significant digit first. -/
def value (ds : List (Fin 16)) : Nat := ds.foldl (fun n d => 16 * n + d.val) 0

theorem value_concat (ds : List (Fin 16)) (d : Fin 16) :
    value (ds ++ [d]) = 16 * value ds + d.val := by
  rw [value, List.foldl_append]
  rfl

theorem value_zeros (k : Nat) (ds : List (Fin 16)) :
    value (List.replicate k 0 ++ ds) = value ds := by
  induction k with
  | zero => rfl
  | succ k ih => exact ih

/-- A number is that of the digits that are written for it. -/
theorem exists_digits (n : Nat) : ∃ ds, ds ≠ [] ∧ digits n = ds.map digit ∧ value ds = n := by
  -- by induction on the number without its last digit
  induction n using Nat.strongRecOn with
  | ind n ih =>
    rcases Nat.lt_or_ge n 16 with hlt | hge
    · refine ⟨[⟨n, hlt⟩], List.cons_ne_nil _ _, ?_, ?_⟩
      · rw [digits, Nat.toDigits_of_lt_base hlt]
        rfl
      · simp [value]
    · obtain ⟨ds, hne, hdigits, hvalue⟩ := ih (n / 16) (by omega)
      let last : Fin 16 := ⟨n % 16, Nat.mod_lt _ (by decide)⟩
      refine ⟨ds ++ [last], by simp, ?_, ?_⟩
      · rw [digits, Nat.toDigits_of_base_le (by decide) hge, List.map_append, List.map_append,
          ← hdigits]
        rfl
      · rw [value_concat, hvalue]
        exact Nat.div_add_mod n 16

/-- The same for a numeral with zeros in front. -/
theorem exists_numeral (width n : Nat) :
    ∃ ds, ds ≠ [] ∧ (numeral width n).toList = ds.map digit ∧ value ds = n := by
  obtain ⟨ds, hne, hdigits, hvalue⟩ := exists_digits n
  refine ⟨List.replicate (width - (digits n).length) 0 ++ ds, by simp [hne], ?_, ?_⟩
  · rw [numeral, String.toList_ofList, padded, List.map_append, List.map_replicate, hdigits]
    rfl
  · rw [value_zeros, hvalue]

theorem digits_digit (d : Fin 16) : digits d.val = [digit d] := by
  rw [digits, Nat.toDigits_of_lt_base d.isLt]
  rfl

theorem digits_concat {n : Nat} (h : n ≠ 0) (d : Fin 16) :
    digits (16 * n + d.val) = digits n ++ [digit d] := by
  have hrest : (16 * n + d.val) / 16 = n := by omega
  have hlast : (16 * n + d.val) % 16 = d.val := by omega
  rw [digits, Nat.toDigits_of_base_le (by decide) (by omega), List.map_append, hrest, hlast]
  rfl

/-- A number of at most three digits is written with all three. -/
theorem numeral_three (a b c : Fin 16) :
    numeral 3 (256 * a.val + 16 * b.val + c.val) = String.ofList [digit a, digit b, digit c] := by
  have hsplit : 256 * a.val + 16 * b.val + c.val = 16 * (16 * a.val + b.val) + c.val := by omega
  rw [numeral, hsplit]
  congr 1
  by_cases ha : a = 0
  · subst ha
    by_cases hb : b = 0
    · subst hb
      rw [show 16 * (16 * (0 : Fin 16).val + (0 : Fin 16).val) + c.val = c.val by simp,
        digits_digit]
      rfl
    · have hb' : b.val ≠ 0 := fun h => hb (Fin.ext h)
      rw [show 16 * (0 : Fin 16).val + b.val = b.val by simp, digits_concat hb', digits_digit]
      rfl
  · have ha' : a.val ≠ 0 := fun h => ha (Fin.ext h)
    rw [digits_concat (by omega), digits_concat ha', digits_digit]
    rfl

theorem exists_digit_of_mem_numeral {width n : Nat} {c : Char}
    (h : c ∈ (numeral width n).toList) : ∃ d, c = digit d := by
  obtain ⟨ds, -, hdigits, -⟩ := exists_numeral width n
  rw [hdigits, List.mem_map] at h
  obtain ⟨d, -, rfl⟩ := h
  exact ⟨d, rfl⟩

end Hex

/-! ## Reading -/

namespace Numeral

open Hex (digit value)

theorem digitIn?_digit : ∀ d : Fin 16, digitIn? 16 (digit d) = some d.val := by decide

theorem digit_ne_underscore : ∀ d : Fin 16, digit d ≠ '_' := by decide

theorem digitsFrom_digits (n : Nat) (ds : List (Fin 16)) :
    digitsFrom 16 n (ds.map digit) = some (ds.foldl (fun n d => 16 * n + d.val) n) := by
  induction ds generalizing n with
  | nil => rfl
  | cons d ds ih =>
    rw [List.map_cons, digitsFrom, digitIn?_digit, Option.bind_some, ih, Nat.mul_comm n]
    · rfl
    · intro c cs h
      exact absurd h (digit_ne_underscore d)

/-- The number that is read from digits is the one that they stand for. -/
theorem digitsValue_digits {ds : List (Fin 16)} (h : ds ≠ []) :
    digitsValue 16 (ds.map digit) = some (value ds) := by
  cases ds with
  | nil => exact absurd rfl h
  | cons d ds =>
    rw [List.map_cons, digitsValue, digitIn?_digit, Option.bind_some, digitsFrom_digits, value,
      List.foldl_cons, Nat.mul_zero, Nat.zero_add]

/-- **Numerals read back.** -/
theorem digitsValue_numeral (width n : Nat) :
    digitsValue 16 (Hex.numeral width n).toList = some n := by
  obtain ⟨ds, hne, hdigits, rfl⟩ := Hex.exists_numeral width n
  rw [hdigits, digitsValue_digits hne]

/-! ## Base ten -/

theorem digitIn?_digitChar {d : Nat} (h : d < 10) : digitIn? 10 d.digitChar = some d := by
  have hall : ∀ d : Fin 10, digitIn? 10 d.val.digitChar = some d.val := by decide
  exact hall ⟨d, h⟩

theorem digitsFrom_cons {base acc : Nat} {c : Char} {cs : List Char} (h : c ≠ '_') :
    digitsFrom base acc (c :: cs) =
      (digitIn? base c).bind fun d => digitsFrom base (acc * base + d) cs := by
  rw [digitsFrom]
  exact fun c' cs' hc => absurd hc h

theorem digitsFrom_concat {cs : List Char} (hcs : '_' ∉ cs) {d : Nat} (hd : d < 10) (acc : Nat) :
    digitsFrom 10 acc (cs ++ [d.digitChar]) = (digitsFrom 10 acc cs).map (· * 10 + d) := by
  induction cs generalizing acc with
  | nil =>
    have hmark : d.digitChar ≠ '_' := by
      intro heq
      have hread := digitIn?_digitChar hd
      rw [heq] at hread
      cases hread
    rw [List.nil_append, digitsFrom_cons hmark, digitIn?_digitChar hd]
    rfl
  | cons c cs ih =>
    rw [List.mem_cons, not_or] at hcs
    have hc : c ≠ '_' := Ne.symm hcs.1
    rw [List.cons_append, digitsFrom_cons hc, digitsFrom_cons hc]
    cases digitIn? 10 c with
    | none => rfl
    | some e => exact ih hcs.2 _

theorem digitsValue_concat {cs : List Char} (hne : cs ≠ []) (hcs : '_' ∉ cs) {d : Nat}
    (hd : d < 10) :
    digitsValue 10 (cs ++ [d.digitChar]) = (digitsValue 10 cs).map (· * 10 + d) := by
  cases cs with
  | nil => exact absurd rfl hne
  | cons c cs =>
    rw [List.mem_cons, not_or] at hcs
    rw [List.cons_append, digitsValue, digitsValue]
    cases digitIn? 10 c with
    | none => rfl
    | some e => exact digitsFrom_concat hcs.2 hd e

theorem isDigit_of_mem_repr {n : Nat} {c : Char} (h : c ∈ n.repr.toList) : c.isDigit = true := by
  rw [Nat.toList_repr] at h
  exact Nat.isDigit_of_mem_toDigits (by decide) (by decide) h

/-- What is written in base ten is read back. -/
theorem digitsValue_repr (n : Nat) : digitsValue 10 n.repr.toList = some n := by
  -- by induction on the number without its last digit
  induction n using Nat.strongRecOn with
  | ind n ih =>
    rw [Nat.toList_repr]
    rcases Nat.lt_or_ge n 10 with hlt | hge
    · rw [Nat.toDigits_of_lt_base hlt, digitsValue, digitIn?_digitChar hlt]
      rfl
    · have hrest := ih (n / 10) (by omega)
      have hmark : '_' ∉ (n / 10).repr.toList := fun h => absurd (isDigit_of_mem_repr h) (by decide)
      have hne : (n / 10).repr.toList ≠ [] := by
        intro hnil
        rw [hnil] at hrest
        cases hrest
      rw [Nat.toDigits_of_base_le (by decide) hge, ← Nat.toList_repr,
        digitsValue_concat hne hmark (Nat.mod_lt n (by decide)), hrest, Option.map_some]
      exact congrArg some (Nat.div_add_mod' n 10)

theorem isDigit_iff_toNat {c : Char} : c.isDigit = true ↔ 48 ≤ c.toNat ∧ c.toNat ≤ 57 := by
  rw [Char.isDigit, Bool.and_eq_true_iff, decide_eq_true_iff, decide_eq_true_iff]
  rfl

theorem plain_of_isDigit {c : Char} (h : c.isDigit = true) : plain c = c := by
  have hle := (isDigit_iff_toNat.1 h).2
  rw [plain, if_pos (by omega)]

theorem trimBy_of_forall {drop : Char → Bool} {cs : List Char} (h : ∀ c ∈ cs, drop c = false) :
    Text.trimBy drop cs = cs := by
  have hdrop (ds : List Char) (hds : ∀ c ∈ ds, drop c = false) : ds.dropWhile drop = ds := by
    cases ds with
    | nil => rfl
    | cons c ds => rw [List.dropWhile_cons_of_neg (by simp [hds])]
  rw [Text.trimBy, Text.trimRightBy, hdrop cs h,
    hdrop _ fun c hc => h c (List.mem_reverse.1 hc), List.reverse_reverse]

theorem isAsciiBlank_of_isDigit {c : Char} (h : c.isDigit = true) :
    Text.isAsciiBlank c = false := by
  have hge := (isDigit_iff_toNat.1 h).1
  simp only [Text.isAsciiBlank, Bool.or_eq_false_iff, Bool.and_eq_false_iff,
    decide_eq_false_iff_not, beq_eq_false_iff_ne]
  omega

theorem decimalValue_repr {n : Nat} (h : n.repr.length ≤ maxDecimalDigits) :
    decimalValue n.repr.toList = some n := by
  have hcount : n.repr.toList.countP (· != '_') ≤ maxDecimalDigits := calc
    _ ≤ n.repr.toList.length := List.countP_le_length
    _ = n.repr.length := String.length_toList
    _ ≤ maxDecimalDigits := h
  rw [decimalValue, if_neg (Nat.not_lt.2 hcount), digitsValue_repr]

/-- **A number that is written in base ten is read as itself**, unless it is too long. -/
theorem read_repr {n : Nat} (h : n.repr.length ≤ maxDecimalDigits) :
    read n.repr.toList = some (n : Int) := by
  have hdigit : ∀ c ∈ n.repr.toList, c.isDigit = true := fun c hc => isDigit_of_mem_repr hc
  have hplain : n.repr.toList.map plain = n.repr.toList := by
    rw [List.map_congr_left fun c hc => plain_of_isDigit (hdigit c hc), List.map_id']
  rw [read, readWith, hplain, trimBy_of_forall fun c hc => isAsciiBlank_of_isDigit (hdigit c hc)]
  split
  · rename_i cs htext
    exact absurd (hdigit '-' (htext ▸ List.mem_cons_self)) (by decide)
  · rename_i cs htext
    exact absurd (hdigit '+' (htext ▸ List.mem_cons_self)) (by decide)
  · rw [decimalValue_repr h]
    rfl

end Numeral

end Chip8
