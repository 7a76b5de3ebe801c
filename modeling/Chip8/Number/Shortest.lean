import Chip8.Number.Binary64

/-!
# Shortest decimals

A double-precision number is written with the fewest decimal digits that read
back as the same number, and among those with the digits nearest to it.

* `Shortest.Decimal` — the digits `d` and exponent `k` of the decimal `d * 10 ^ k`
* `Shortest.ofBinary64` — the shortest decimal of a number
* `Shortest.text` — its text: positional from `10 ^ (-4)` up to `10 ^ 16`, with an
  exponent outside
-/

namespace Chip8.Shortest

/-- The decimal number `digits * 10 ^ exponent`. -/
structure Decimal where
  /-- All the digits, as one natural number. -/
  digits : Nat
  /-- The power of ten that the last digit counts. -/
  exponent : Int
deriving DecidableEq, Repr

/-- Whether a decimal reads back as `v`. -/
def readsAs (v : Binary64) (d : Decimal) : Bool :=
  let (num, den) := Binary64.scaled 10 d.digits 1 d.exponent
  Binary64.nearest? num den = some v

/-- The exponent of the power of ten at or just below the positive ratio `num / den`. -/
def floorLog10 (num den : Nat) : Int :=
  let e : Int := ((Nat.toDigits 10 num).length : Int) - (Nat.toDigits 10 den).length
  let (a, b) := Binary64.scaled 10 num den (-e)
  if b ≤ a then e else e - 1

/-- The decimal with `count` digits nearest to `v` that reads back as `v`, if one of the
two neighbours of `v` with so many digits does. A tie goes to the even digit. -/
def withDigits? (v : Binary64) (count : Nat) : Option Decimal :=
  let (num, den) := v.ratio
  let exponent := floorLog10 num den + 1 - count
  let (a, b) := Binary64.scaled 10 num den (-exponent)
  let nearer := Binary64.roundHalfEven a b
  let farther := if nearer = a / b then nearer + 1 else a / b
  [nearer, farther].findSome? fun digits =>
    if readsAs v ⟨digits, exponent⟩ then some ⟨digits, exponent⟩ else none

/-- The shortest decimal of a number. Seventeen digits always suffice. -/
def ofBinary64 (v : Binary64) : Option Decimal :=
  (List.range' 1 17).findSome? (withDigits? v)

/-- The digits without the zeros at their end, which move into the exponent. -/
def trimmed (d : Decimal) : List Char :=
  let cs := (Nat.toDigits 10 d.digits).reverse.dropWhile (· = '0') |>.reverse
  if cs.isEmpty then ['0'] else cs

/-- The text of a decimal. Positional notation has at least one digit on either side of
the point; with an exponent, the exponent has a sign and at least two digits. -/
def text (d : Decimal) : String :=
  let cs := trimmed d
  let point : Int := d.exponent + (Nat.toDigits 10 d.digits).length
  if -4 < point ∧ point ≤ 16 then
    let front := if point ≤ 0 then ['0'] else
      cs.take point.toNat ++ List.replicate (point.toNat - cs.length) '0'
    let back := List.replicate (-point).toNat '0' ++ cs.drop point.toNat
    String.ofList (front ++ '.' :: if back.isEmpty then ['0'] else back)
  else
    let shown := (Nat.toDigits 10 (point - 1).natAbs)
    let sign := if point - 1 < 0 then '-' else '+'
    let fraction := if cs.length ≤ 1 then [] else '.' :: cs.drop 1
    String.ofList (cs.take 1 ++ fraction ++ 'e' :: sign ::
      (List.replicate (2 - shown.length) '0' ++ shown))

end Chip8.Shortest
