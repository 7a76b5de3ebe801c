import Chip8.Proofs.Numerals
import Chip8.Proofs.Overrides
import Mathlib.Data.List.TakeWhile

/-!
# Colours in text

A colour is documented as six digits of base sixteen, after one `#` or none, with blanks around.
More than that is accepted. Each pair of characters is read as an integer by itself, so that it can
hold a sign, a blank or a digit of another script, and any number of `#` can stand before the pairs.
A sign can make a component negative, and then the colour is refused by the settings.

* `Numeral.IsDigit` — digits of base sixteen
* `Numeral.CountsAs`, `Numeral.IsGap` — what counts as a digit and as a blank in a numeral
* `Numeral.standsFor_plain` — what stands in a numeral for a character tells what it counts as
* `Numeral.ReadsPair`, `Numeral.readHex_pair_iff` — the integers that pairs of characters stand for
* `Colour.Documented`, `Colour.Accepted` — the two formats
* `Colour.parse_eq_ok_iff` — the texts that are parsed
* `Colour.exists_ofOptions_iff` — the components that settings take
* `Colour.parse_exact` — all of this together
-/

namespace Chip8

/-! ## Digits, blanks and signs -/

namespace Numeral

/-- A character is a digit of base sixteen: `0`–`9`, `A`–`F` or `a`–`f`. -/
def IsDigit (c : Char) (d : Fin 16) : Prop := c = Hex.digit d ∨ c = d.val.digitChar

/-- A character counts as a digit of base sixteen: it is one, or it is a decimal digit of any
script. -/
def CountsAs (c : Char) (d : Fin 16) : Prop := IsDigit c d ∨ Text.decimalValue? c = some d.val

/-- A character counts as a blank in a numeral: it is blank, but no information separator. -/
def IsGap (c : Char) : Prop := Text.isBlank c = true ∧ ¬ (0x1C ≤ c.toNat ∧ c.toNat ≤ 0x1F)

instance (c : Char) (d : Fin 16) : Decidable (IsDigit c d) :=
  inferInstanceAs (Decidable (_ ∨ _))

instance (c : Char) (d : Fin 16) : Decidable (CountsAs c d) :=
  inferInstanceAs (Decidable (_ ∨ _))

instance (c : Char) : Decidable (IsGap c) :=
  inferInstanceAs (Decidable (_ ∧ _))

variable {c c' : Char} {d : Fin 16}

/-- What is asked of a character of ASCII can be tried with each of them. -/
theorem forall_ascii {p : Char → Prop} (h : ∀ k : Fin 127, p (Char.ofNat k.val))
    (hc : c.toNat < 127) : p c := by
  have hofNat := h ⟨c.toNat, hc⟩
  rwa [Char.ofNat_toNat] at hofNat

theorem digitIn?_of_ascii (hc : c.toNat < 127) : digitIn? 16 c = some d.val ↔ IsDigit c d :=
  forall_ascii (p := fun c => ∀ d : Fin 16, digitIn? 16 c = some d.val ↔ IsDigit c d)
    (by decide +kernel) hc d

/-- In ASCII nothing but digits of base sixteen counts as one. -/
theorem countsAs_of_ascii (hc : c.toNat < 127) : CountsAs c d ↔ IsDigit c d := by
  have hascii : Text.decimalValue? c = none ∨ Text.decimalValue? c = digitIn? 16 c :=
    forall_ascii (p := fun c =>
      Text.decimalValue? c = none ∨ Text.decimalValue? c = digitIn? 16 c) (by decide +kernel) hc
  refine or_iff_left_of_imp fun hvalue => (digitIn?_of_ascii hc).1 ?_
  rcases hascii with hnone | hdigit
  · rw [hnone] at hvalue
    cases hvalue
  · rw [← hdigit, hvalue]

/-- Beyond ASCII nothing but the decimal digits of other scripts counts as a digit. -/
theorem countsAs_of_ge (hc : 127 ≤ c.toNat) : CountsAs c d ↔ Text.decimalValue? c = some d.val := by
  have hsmall : ∀ d, (Hex.digit d).toNat < 127 ∧ d.val.digitChar.toNat < 127 := by decide
  refine or_iff_right ?_
  rintro (rfl | rfl)
  · exact absurd (hsmall d).1 (by omega)
  · exact absurd (hsmall d).2 (by omega)

/-- A decimal digit has its place in a row of ten. -/
theorem exists_of_decimalValue? {k : Nat} (h : Text.decimalValue? c = some k) :
    ∃ z ∈ Text.decimalZeros, c = Char.ofNat (z + k) ∧ k < 10 := by
  have hlt := Text.decimalValue?_lt h
  obtain ⟨z, hz, rfl⟩ := Option.map_eq_some_iff.1 h
  have hrow := List.find?_some hz
  simp only [Bool.and_eq_true, decide_eq_true_eq] at hrow
  refine ⟨z, List.mem_of_find?_eq_some hz, ?_, hlt⟩
  rw [Nat.add_sub_cancel' hrow.1, Char.ofNat_toNat]

theorem not_isBlank_of_decimalValue? {k : Nat} (h : Text.decimalValue? c = some k) :
    Text.isBlank c = false := by
  have hrows : ∀ z ∈ Text.decimalZeros, ∀ k : Fin 10,
      Text.isBlank (Char.ofNat (z + k.val)) = false := by
    decide +kernel
  obtain ⟨z, hz, rfl, hlt⟩ := exists_of_decimalValue? h
  exact hrows z hz ⟨k, hlt⟩

theorem CountsAs.not_isGap (h : CountsAs c d) : ¬ IsGap c ∧ c ≠ '-' ∧ c ≠ '+' := by
  have hsigns : ∀ d, ¬ CountsAs '-' d ∧ ¬ CountsAs '+' d := by decide
  have hdigits : ∀ d, ¬ IsGap (Hex.digit d) ∧ ¬ IsGap d.val.digitChar := by decide
  refine ⟨fun hgap => ?_, ?_, ?_⟩
  · obtain (rfl | rfl) | hvalue := h
    · exact (hdigits d).1 hgap
    · exact (hdigits d).2 hgap
    · have hblank := not_isBlank_of_decimalValue? hvalue
      rw [hgap.1] at hblank
      cases hblank
  · rintro rfl
    exact (hsigns d).1 h
  · rintro rfl
    exact (hsigns d).2 h

/-! ## What stands for a character -/

/-- A character stands for another one in a numeral: what it is tells what the other one counts
as. -/
structure StandsFor (p c : Char) : Prop where
  /-- One is a digit if the other counts as it. -/
  digit : ∀ d : Fin 16, digitIn? 16 p = some d.val ↔ CountsAs c d
  /-- One is blank if the other counts as a blank. -/
  gap : Text.isAsciiBlank p = true ↔ IsGap c
  /-- Minus signs are the same. -/
  minus : p = '-' ↔ c = '-'
  /-- Plus signs are the same. -/
  plus : p = '+' ↔ c = '+'

theorem standsFor_of_ascii (hc : c.toNat < 127) : StandsFor c c where
  digit d := by rw [digitIn?_of_ascii hc, countsAs_of_ascii hc]
  gap := forall_ascii (p := fun c => Text.isAsciiBlank c = true ↔ IsGap c) (by decide +kernel) hc
  minus := Iff.rfl
  plus := Iff.rfl

/-- What stands in a numeral for a character beyond ASCII: a space for a blank, a digit for a digit,
and a question mark for all else. -/
theorem plain_of_ge (hc : 127 ≤ c.toNat) :
    (Text.isBlank c = true ∧ Text.decimalValue? c = none ∧ plain c = ' ') ∨
      (∃ k : Fin 10, Text.isBlank c = false ∧ Text.decimalValue? c = some k.val ∧
        plain c = Char.ofNat (48 + k.val)) ∨
      Text.isBlank c = false ∧ Text.decimalValue? c = none ∧ plain c = '?' := by
  rw [plain, if_neg (by omega)]
  cases hvalue : Text.decimalValue? c with
  | some k =>
    have hblank := not_isBlank_of_decimalValue? hvalue
    refine .inr (.inl ⟨⟨k, Text.decimalValue?_lt hvalue⟩, hblank, rfl, ?_⟩)
    rw [hblank]
    rfl
  | none => cases Text.isBlank c <;> simp

theorem standsFor_of_ge (hc : 127 ≤ c.toNat) : StandsFor (plain c) c := by
  have hgap : IsGap c ↔ Text.isBlank c = true := by
    rw [IsGap, and_iff_left]
    omega
  have hminus : c ≠ '-' := by
    rintro rfl
    exact absurd hc (by decide)
  have hplus : c ≠ '+' := by
    rintro rfl
    exact absurd hc (by decide)
  obtain ⟨hblank, hvalue, hplain⟩ | ⟨k, hblank, hvalue, hplain⟩ | ⟨hblank, hvalue, hplain⟩ :=
    plain_of_ge hc
  · have hspace : ∀ d : Fin 16, digitIn? 16 ' ' ≠ some d.val := by decide
    rw [hplain]
    refine ⟨fun d => ?_, ?_, iff_of_false (by decide) hminus, iff_of_false (by decide) hplus⟩
    · rw [countsAs_of_ge hc, hvalue]
      exact iff_of_false (hspace d) (by simp)
    · exact iff_of_true (by decide) (hgap.2 hblank)
  · have hdigits : ∀ k : Fin 10, digitIn? 16 (Char.ofNat (48 + k.val)) = some k.val ∧
        Text.isAsciiBlank (Char.ofNat (48 + k.val)) = false ∧
        Char.ofNat (48 + k.val) ≠ '-' ∧ Char.ofNat (48 + k.val) ≠ '+' := by
      decide
    obtain ⟨hdigit, hnonblank, hne, hne'⟩ := hdigits k
    rw [hplain]
    refine ⟨fun d => ?_, ?_, iff_of_false hne hminus, iff_of_false hne' hplus⟩
    · rw [countsAs_of_ge hc, hvalue, hdigit]
    · rw [hgap, hblank, hnonblank]
  · have hmark : ∀ d : Fin 16, digitIn? 16 '?' ≠ some d.val := by decide
    rw [hplain]
    refine ⟨fun d => ?_, ?_, iff_of_false (by decide) hminus, iff_of_false (by decide) hplus⟩
    · rw [countsAs_of_ge hc, hvalue]
      exact iff_of_false (hmark d) (by simp)
    · rw [hgap, hblank]
      decide

/-- **What stands in a numeral for a character** tells what the character counts as. -/
theorem standsFor_plain (c : Char) : StandsFor (plain c) c := by
  by_cases hc : c.toNat < 127
  · rw [plain, if_pos hc]
    exact standsFor_of_ascii hc
  · exact standsFor_of_ge (Nat.not_lt.1 hc)

/-! ## Pairs of characters -/

/-- The integer that a pair of characters is read as: two digits, a digit with a blank on either
side, or a digit with a sign. -/
inductive ReadsPair : Char → Char → Int → Prop
  /-- Two digits. -/
  | digits {c c' : Char} {d d' : Fin 16} (first : CountsAs c d) (second : CountsAs c' d') :
    ReadsPair c c' (16 * d.val + d'.val : Nat)
  /-- A blank and a digit. -/
  | afterGap {c c' : Char} {d : Fin 16} (gap : IsGap c) (digit : CountsAs c' d) :
    ReadsPair c c' d.val
  /-- A digit and a blank. -/
  | beforeGap {c c' : Char} {d : Fin 16} (digit : CountsAs c d) (gap : IsGap c') :
    ReadsPair c c' d.val
  /-- A digit that is counted as it is. -/
  | plus {c : Char} {d : Fin 16} (digit : CountsAs c d) : ReadsPair '+' c d.val
  /-- A digit that is counted below zero. -/
  | minus {c : Char} {d : Fin 16} (digit : CountsAs c d) : ReadsPair '-' c (-d.val)

theorem digitIn?_lt {k : Nat} (h : digitIn? 16 c = some k) : k < 16 := by
  simpa using (Option.filter_eq_some_iff.1 h).2

theorem map_digitIn?_plain_iff {f : Nat → Int} {n : Int} :
    (digitIn? 16 (plain c)).map f = some n ↔ ∃ d : Fin 16, CountsAs c d ∧ f d.val = n := by
  rw [Option.map_eq_some_iff]
  constructor
  · rintro ⟨k, hk, rfl⟩
    exact ⟨⟨k, digitIn?_lt hk⟩, ((standsFor_plain c).digit _).1 hk, rfl⟩
  · rintro ⟨d, hd, rfl⟩
    exact ⟨d.val, ((standsFor_plain c).digit d).2 hd, rfl⟩

theorem hexMagnitude_one (p : Char) : hexMagnitude [p] = digitIn? 16 p := by
  simp [hexMagnitude, digitsValue, digitsFrom]

theorem hexMagnitude_two (p q : Char) :
    hexMagnitude [p, q] =
      (digitIn? 16 p).bind fun d => (digitIn? 16 q).map fun d' => 16 * d + d' := by
  unfold hexMagnitude
  split
  -- nothing follows the marker of the base, and the letter in it is no digit
  case h_1 h => cases h; rfl
  case h_2 h => cases h; rfl
  case h_3 =>
    simp only [digitsValue, digitsFrom, Option.map_eq_bind, Nat.mul_comm]
    rfl

theorem trimBy_two (drop : Char → Bool) (p q : Char) :
    Text.trimBy drop [p, q] =
      if drop p then if drop q then [] else [q] else if drop q then [p] else [p, q] := by
  cases hp : drop p <;> cases hq : drop q <;>
    simp [Text.trimBy, Text.trimRightBy, hp, hq]

theorem readHex_nil {text : List Char}
    (h : Text.trimBy Text.isAsciiBlank (text.map plain) = []) : readHex text = none := by
  rw [readHex, readWith, h]
  rfl

theorem readHex_one {text : List Char} {p : Char}
    (h : Text.trimBy Text.isAsciiBlank (text.map plain) = [p]) :
    readHex text = (digitIn? 16 p).map Int.ofNat := by
  rw [readHex, readWith, h]
  split
  -- a sign by itself is neither a numeral nor a digit
  case h_1 h => cases h; rfl
  case h_2 h => cases h; rfl
  case h_3 => rw [hexMagnitude_one]

theorem readHex_two {text : List Char} {p q : Char}
    (h : Text.trimBy Text.isAsciiBlank (text.map plain) = [p, q]) :
    readHex text =
      if p = '-' then (digitIn? 16 q).map fun d : Nat => -(d : Int)
      else if p = '+' then (digitIn? 16 q).map Int.ofNat
      else (digitIn? 16 p).bind fun d => (digitIn? 16 q).map fun d' => Int.ofNat (16 * d + d') := by
  rw [readHex, readWith, h]
  split
  case h_1 h =>
    cases h
    rw [if_pos rfl, hexMagnitude_one]
    cases digitIn? 16 q <;> rfl
  case h_2 h =>
    cases h
    rw [if_neg (by decide), if_pos rfl, hexMagnitude_one]
  case h_3 hminus hplus =>
    have hp : p ≠ '-' := by
      rintro rfl
      exact hminus _ rfl
    have hp' : p ≠ '+' := by
      rintro rfl
      exact hplus _ rfl
    rw [if_neg hp, if_neg hp', hexMagnitude_two, Option.map_bind]
    congr 1
    funext d
    rw [Function.comp_apply, Option.map_map]
    rfl

/-- **Pairs of characters** are read as the integers that they stand for, and no others are. -/
theorem readHex_pair_iff {n : Int} : readHex [c, c'] = some n ↔ ReadsPair c c' n := by
  have htrim : Text.trimBy Text.isAsciiBlank ([c, c'].map plain) = _ := trimBy_two _ _ _
  obtain ⟨hdigit, hgap, hminus, hplus⟩ := standsFor_plain c
  have hgap' := (standsFor_plain c').gap
  constructor
  · intro h
    by_cases hc : IsGap c <;> by_cases hc' : IsGap c'
    · rw [if_pos (hgap.2 hc), if_pos (hgap'.2 hc')] at htrim
      rw [readHex_nil htrim] at h
      cases h
    · rw [if_pos (hgap.2 hc), if_neg (mt hgap'.1 hc')] at htrim
      rw [readHex_one htrim] at h
      obtain ⟨d, hd, rfl⟩ := map_digitIn?_plain_iff.1 h
      exact .afterGap hc hd
    · rw [if_neg (mt hgap.1 hc), if_pos (hgap'.2 hc')] at htrim
      rw [readHex_one htrim] at h
      obtain ⟨d, hd, rfl⟩ := map_digitIn?_plain_iff.1 h
      exact .beforeGap hd hc'
    · rw [if_neg (mt hgap.1 hc), if_neg (mt hgap'.1 hc')] at htrim
      rw [readHex_two htrim] at h
      split at h
      · rename_i hsign
        obtain ⟨d, hd, rfl⟩ := map_digitIn?_plain_iff.1 h
        rw [hminus.1 hsign]
        exact .minus hd
      · split at h
        · rename_i hsign
          obtain ⟨d, hd, rfl⟩ := map_digitIn?_plain_iff.1 h
          rw [hplus.1 hsign]
          exact .plus hd
        · obtain ⟨k, hk, h⟩ := Option.bind_eq_some_iff.1 h
          obtain ⟨d', hd', rfl⟩ := map_digitIn?_plain_iff.1 h
          exact .digits (d := ⟨k, digitIn?_lt hk⟩) ((hdigit _).1 hk) hd'
  · rintro (⟨first, second⟩ | ⟨gap, digit⟩ | ⟨digit, gap⟩ | digit | digit)
    · obtain ⟨hc, hne, hne'⟩ := first.not_isGap
      rw [if_neg (mt hgap.1 hc), if_neg (mt hgap'.1 second.not_isGap.1)] at htrim
      rw [readHex_two htrim, if_neg (mt hminus.1 hne), if_neg (mt hplus.1 hne'),
        (hdigit _).2 first, Option.bind_some]
      exact map_digitIn?_plain_iff.2 ⟨_, second, rfl⟩
    · rw [if_pos (hgap.2 gap), if_neg (mt hgap'.1 digit.not_isGap.1)] at htrim
      rw [readHex_one htrim]
      exact map_digitIn?_plain_iff.2 ⟨_, digit, rfl⟩
    · rw [if_neg (mt hgap.1 digit.not_isGap.1), if_pos (hgap'.2 gap)] at htrim
      rw [readHex_one htrim]
      exact map_digitIn?_plain_iff.2 ⟨_, digit, rfl⟩
    · rw [if_neg (by decide), if_neg (mt hgap'.1 digit.not_isGap.1)] at htrim
      rw [readHex_two htrim, if_neg (mt hminus.1 (by decide)), if_pos (hplus.2 rfl)]
      exact map_digitIn?_plain_iff.2 ⟨_, digit, rfl⟩
    · rw [if_neg (by decide), if_neg (mt hgap'.1 digit.not_isGap.1)] at htrim
      rw [readHex_two htrim, if_pos (hminus.2 rfl)]
      exact map_digitIn?_plain_iff.2 ⟨_, digit, rfl⟩

theorem ReadsPair.first_ne {n : Int} (h : ReadsPair c c' n) : c ≠ '#' := by
  have hdigit : ∀ d, ¬ CountsAs '#' d := by decide
  rintro rfl
  cases h with
  | digits first second => exact hdigit _ first
  | afterGap gap digit => exact absurd gap (by decide)
  | beforeGap digit gap => exact hdigit _ digit

theorem ReadsPair.bounds {n : Int} (h : ReadsPair c c' n) : -15 ≤ n ∧ n ≤ 255 := by
  cases h <;> omega

end Numeral

/-! ## Colours -/

namespace Colour

open Numeral

/-- How a text can name the components of a colour: there are some marks and six characters in it,
and blanks around them. What the marks may be, and what each pair of characters stands for, differs.
-/
inductive Spelled (marks : List Char → Prop) (pair : Char → Char → Int → Prop) (text : String) :
    List Int → Prop
  /-- Marks and three pairs. -/
  | intro {before : List Char} {c c' d d' e e' : Char} {red green blue : Int}
    (text_eq : Text.trim text.toList = before ++ [c, c', d, d', e, e']) (before_ok : marks before)
    (red_ok : pair c c' red) (green_ok : pair d d' green) (blue_ok : pair e e' blue) :
    Spelled marks pair text [red, green, blue]

/-- A pair of digits of base sixteen stands for a byte. -/
def WritesByte (c c' : Char) (n : Int) : Prop :=
  ∃ d d' : Fin 16, IsDigit c d ∧ IsDigit c' d' ∧ n = (16 * d.val + d'.val : Nat)

/-- The format that is documented: six digits of base sixteen after one `#` or none. -/
def Documented (text : String) (ns : List Int) : Prop :=
  Spelled (fun before => before = [] ∨ before = ['#']) WritesByte text ns

/-- The format that is accepted: any number of `#`, and pairs that are integers by themselves. -/
def Accepted (text : String) (ns : List Int) : Prop :=
  Spelled (fun before => ∀ c ∈ before, c = '#') ReadsPair text ns

variable {text : String} {ns : List Int} {c c' : Char} {n : Int}

theorem component_eq_ok_iff : component c c' = .ok n ↔ ReadsPair c c' n := by
  rw [component, ← readHex_pair_iff]
  cases readHex [c, c'] <;> simp

/-- **Texts that are parsed** are those of the format that is accepted. -/
theorem parse_eq_ok_iff : parse text = .ok ns ↔ Accepted text ns := by
  constructor
  · intro h
    unfold parse at h
    split at h
    · rename_i hpairs
      obtain ⟨red, hred, h⟩ := bind_eq_ok_iff.1 h
      obtain ⟨green, hgreen, h⟩ := bind_eq_ok_iff.1 h
      obtain ⟨blue, hblue, h⟩ := bind_eq_ok_iff.1 h
      cases h
      have htext : Text.trim text.toList = (Text.trim text.toList).takeWhile (· = '#') ++ _ :=
        List.takeWhile_append_dropWhile.symm
      rw [hpairs] at htext
      refine .intro htext (fun c hc => ?_) (component_eq_ok_iff.1 hred)
        (component_eq_ok_iff.1 hgreen) (component_eq_ok_iff.1 hblue)
      simpa using List.mem_takeWhile_imp hc
    · cases h
  · rintro @⟨before, c, c', d, d', e, e', _, _, _, text_eq, before_ok, red_ok, green_ok, blue_ok⟩
    have hpairs : (Text.trim text.toList).dropWhile (· = '#') = [c, c', d, d', e, e'] := by
      rw [text_eq, List.dropWhile_append_of_pos (by simpa using before_ok),
        List.dropWhile_cons_of_neg (by simpa using red_ok.first_ne)]
    unfold parse
    rw [hpairs]
    simp only [component_eq_ok_iff.2 red_ok, component_eq_ok_iff.2 green_ok,
      component_eq_ok_iff.2 blue_ok]
    rfl

/-- What is documented is accepted. -/
theorem Documented.accepted (h : Documented text ns) : Accepted text ns := by
  have hpair {c c' : Char} {n : Int} : WritesByte c c' n → ReadsPair c c' n := by
    rintro ⟨d, d', hd, hd', rfl⟩
    exact .digits (.inl hd) (.inl hd')
  obtain ⟨text_eq, before_ok, red_ok, green_ok, blue_ok⟩ := h
  refine .intro text_eq ?_ (hpair red_ok) (hpair green_ok) (hpair blue_ok)
  rcases before_ok with rfl | rfl
  · simp
  · simp

/-- Apart from the blanks around it, a text has one `#` at most, no signs and blanks, and only
characters of ASCII. -/
structure Tidy (text : String) : Prop where
  /-- There is one `#` at most. -/
  marks : (Text.trim text.toList).count '#' ≤ 1
  /-- All characters are of ASCII, and none is blank or a sign. -/
  characters : ∀ c ∈ Text.trim text.toList,
    c.toNat < 127 ∧ Text.isBlank c = false ∧ c ∉ ['+', '-']

/-- What is accepted of tidy texts is what is documented. -/
theorem Accepted.documented (htidy : Tidy text) (h : Accepted text ns) : Documented text ns := by
  obtain @⟨before, _, _, _, _, _, _, _, _, _, text_eq, before_ok, red_ok, green_ok, blue_ok⟩ := h
  obtain ⟨hmarks, hcharacters⟩ := htidy
  rw [text_eq] at hmarks hcharacters
  have hpair {c c' : Char} {n : Int}
      (hc : c.toNat < 127 ∧ Text.isBlank c = false ∧ c ∉ ['+', '-'])
      (hc' : c'.toNat < 127 ∧ Text.isBlank c' = false ∧ c' ∉ ['+', '-'])
      (hread : ReadsPair c c' n) : WritesByte c c' n := by
    cases hread with
    | digits first second =>
      exact ⟨_, _, (countsAs_of_ascii hc.1).1 first, (countsAs_of_ascii hc'.1).1 second, rfl⟩
    | afterGap gap digit => exact absurd gap.1 (by simp [hc.2.1])
    | beforeGap digit gap => exact absurd gap.1 (by simp [hc'.2.1])
    | plus digit => exact absurd hc.2.2 (by simp)
    | minus digit => exact absurd hc.2.2 (by simp)
  refine .intro text_eq ?_ (hpair (hcharacters _ (by simp)) (hcharacters _ (by simp)) red_ok)
    (hpair (hcharacters _ (by simp)) (hcharacters _ (by simp)) green_ok)
    (hpair (hcharacters _ (by simp)) (hcharacters _ (by simp)) blue_ok)
  have hbefore := List.eq_replicate_of_mem before_ok
  rw [hbefore, List.count_append, List.count_replicate_self] at hmarks
  rw [hbefore]
  rcases Nat.le_one_iff_eq_zero_or_eq_one.1 (Nat.le_of_add_right_le hmarks) with hlength | hlength
  · exact .inl (by rw [hlength]; rfl)
  · exact .inr (by rw [hlength]; rfl)

/-- Components make a colour for the screen exactly if they are three bytes. -/
theorem exists_ofOptions_iff {option : String} (hoption : option ∈ ["foreground", "background"]) :
    (∃ s, Settings.ofOptions [(option, .numbers ns)] = .ok s) ↔
      (OptionValue.numbers ns).IsColour := by
  have hstandard : Draft.standard.Valid := Draft.valid_draft .standard
  have hnames : Settings.unknownNames [(option, .numbers ns)] = [] := by
    rw [Settings.unknownNames_eq_nil_iff]
    rintro name hname
    rw [List.mem_singleton.1 hname]
    revert hoption
    exact (by decide : ∀ name ∈ ["foreground", "background"], Draft.hasOption name = true) option
  rw [Settings.ofOptions, Settings.change, hnames, Draft.exists_check_iff]
  obtain rfl | rfl : option = "foreground" ∨ option = "background" := by simpa using hoption
  · exact ⟨fun h => h.foreground, fun h => { hstandard with foreground := h }⟩
  · exact ⟨fun h => h.background, fun h => { hstandard with background := h }⟩

/-- **Which texts name a colour, and which.** A text that follows the documented format gives the
three numbers that its digits stand for. More texts than these give a colour: what is accepted has
any number of `#` before it, and each pair of characters is an integer, which can have a blank, a
sign or a digit of another script in it. Of texts without any of that, and with one `#` at most,
only those of the documented format are accepted. The integers are three, from -15 to 255, and
make a colour for the screen unless one of them is negative. -/
theorem parse_exact (text : String) (ns : List Int) :
    (Documented text ns → parse text = .ok ns) ∧
      (parse text = .ok ns ↔ Accepted text ns) ∧
      (Tidy text → (parse text = .ok ns ↔ Documented text ns)) ∧
      (parse text = .ok ns →
        ns.length = 3 ∧ (∀ n ∈ ns, -15 ≤ n ∧ n ≤ 255) ∧
          ∀ option ∈ ["foreground", "background"],
            (∃ s, Settings.ofOptions [(option, .numbers ns)] = .ok s) ↔ ∀ n ∈ ns, 0 ≤ n) := by
  refine ⟨fun h => parse_eq_ok_iff.2 h.accepted, parse_eq_ok_iff, fun htidy => ?_, fun h => ?_⟩
  · rw [parse_eq_ok_iff]
    exact ⟨Accepted.documented htidy, Documented.accepted⟩
  · obtain @⟨_, _, _, _, _, _, _, red, green, blue, _, _, red_ok, green_ok, blue_ok⟩ :=
      parse_eq_ok_iff.1 h
    have hbounds : ∀ n ∈ [red, green, blue], -15 ≤ n ∧ n ≤ 255 := by
      simp [red_ok.bounds, green_ok.bounds, blue_ok.bounds]
    refine ⟨rfl, hbounds, fun option hoption => ?_⟩
    rw [exists_ofOptions_iff hoption]
    constructor
    · rintro ⟨_, _, _, heq, hbytes⟩
      cases heq
      exact fun n hn => (hbytes n hn).1
    · exact fun h => ⟨red, green, blue, rfl, fun n hn => ⟨h n hn, (hbounds n hn).2⟩⟩

/-- A colour with blanks around it and letters of both sizes. -/
theorem parse_exact_blank :
    Documented " #33fF66\n" [51, 255, 102] ∧ Tidy " #33fF66\n" ∧
      parse " #33fF66\n" = .ok [51, 255, 102] ∧
      ∃ s, Settings.ofOptions [("foreground", .numbers [51, 255, 102])] = .ok s := by
  have htrim : Text.trim " #33fF66\n".toList = ['#', '3', '3', 'f', 'F', '6', '6'] := by decide
  have hdocumented : Documented " #33fF66\n" [51, 255, 102] :=
    .intro htrim (.inr rfl) ⟨3, 3, by decide, by decide, rfl⟩
      ⟨15, 15, by decide, by decide, rfl⟩ ⟨6, 6, by decide, by decide, rfl⟩
  have htidy : Tidy " #33fF66\n" := by
    refine ⟨by decide, ?_⟩
    rw [htrim]
    simp only [List.forall_mem_cons, List.not_mem_nil, false_imp_iff, implies_true, and_true]
    decide
  obtain ⟨hparse, -, htext, hsettings⟩ := parse_exact " #33fF66\n" [51, 255, 102]
  have hok := hparse hdocumented
  obtain ⟨-, -, hscreen⟩ := hsettings hok
  exact ⟨(htext htidy).1 hok, htidy, hok, (hscreen "foreground" (by decide)).2 (by decide)⟩

/-- Signs are taken for a part of the numbers, which makes them negative. -/
theorem parse_signed :
    parse "-1-1-1" = .ok [-1, -1, -1] ∧ (∀ ns, ¬ Documented "-1-1-1" ns) ∧
      ¬ ∃ s, Settings.ofOptions [("foreground", .numbers [-1, -1, -1])] = .ok s := by
  refine ⟨rfl, ?_, ?_⟩
  · rintro _ @⟨before, c, _, _, _, _, _, _, _, _, text_eq, before_ok, ⟨d, _, hd, _, _⟩, _, _⟩
    have htrim : Text.trim "-1-1-1".toList = ['-', '1', '-', '1', '-', '1'] := by decide
    have hminus : ∀ d, ¬ IsDigit '-' d := by decide
    rw [htrim] at text_eq
    rcases before_ok with rfl | rfl
    · cases text_eq
      exact hminus d hd
    · cases text_eq
  · rw [exists_ofOptions_iff (by decide)]
    rintro ⟨_, _, _, heq, hbytes⟩
    cases heq
    exact absurd (hbytes (-1) (by simp)).1 (by decide)

end Colour

end Chip8
