import PromptForm.Number.Binary64

/-!
# The shortest decimal of a binary number

A finite number of the binary64 format is written with the fewest decimal digits that read back as
the same number, and with the digits nearest to it among those. The search runs over the grids
`10 ^ p`: on the first grid that has a point in the rounding interval of the number, the nearer of
the number's two neighbours is taken.

## Main definitions

* `Decimal`: a whole number of digits times a power of ten.
* `Decimal.shortest`: the shortest decimal of a positive finite number.
* `Binary64.text`: the written form of a number.
-/

namespace PromptForm

structure Decimal where
  digits : Nat
  exponent : Int
  deriving DecidableEq, Repr

namespace Decimal

/-- A rounding interval: the reals between `low / den` and `high / den` read back as
`value / den`. -/
structure Interval where
  low : Nat
  value : Nat
  high : Nat
  den : Nat
  closed : Bool

/-- The rounding interval of `mantissa * 2 ^ exponent`: half way to both neighbours, the lower one
being nearer at a power of two. -/
def Interval.of (mantissa : Nat) (exponent : Int) : Interval :=
  let below := if mantissa = Nat.pow 2 52 ∧ exponent > Binary64.minExponent then 1 else 2
  let up := Nat.pow 2 (exponent - 2).toNat
  { low := (4 * mantissa - below) * up
    value := 4 * mantissa * up
    high := (4 * mantissa + 2) * up
    den := Nat.pow 2 (2 - exponent).toNat
    closed := mantissa % 2 == 0 }

/-- Whether the grid point `point * unit / scale` lies in the interval, where `unit` carries the
denominator and `scale` the power of ten. -/
def Interval.holds (i : Interval) (scale unit point : Nat) : Bool :=
  let place := point * unit
  if i.closed then i.low * scale ≤ place && place ≤ i.high * scale
  else i.low * scale < place && place < i.high * scale

/-- The number of decimal digits before the point: the least `k` with the number below `10 ^ k`,
searched upwards from a bound. -/
def magnitudeFrom (i : Interval) : Nat → Int → Int
  | 0, k => k
  | fuel + 1, k =>
    if i.value * Nat.pow 10 (-k).toNat < i.den * Nat.pow 10 k.toNat then k else magnitudeFrom i fuel (k + 1)

/-- The best point of the grid `10 ^ power`, when the grid has a point in the interval. -/
def Interval.onGrid? (i : Interval) (power : Int) : Option Decimal :=
  let scale := Nat.pow 10 (-power).toNat
  let unit := Nat.pow 10 power.toNat * i.den
  let lower := i.value * scale / unit
  let upper := lower + 1
  let toLower := i.value * scale - lower * unit
  let toUpper := upper * unit - i.value * scale
  match i.holds scale unit lower, i.holds scale unit upper with
  | false, false => none
  | true, false => some ⟨lower, power⟩
  | false, true => some ⟨upper, power⟩
  | true, true =>
    if toLower < toUpper ∨ (toLower = toUpper ∧ lower % 2 = 0) then some ⟨lower, power⟩
    else some ⟨upper, power⟩

/-- The first grid with a point in the interval, from the coarsest. -/
def Interval.search (i : Interval) : Nat → Int → Decimal
  | 0, power => ⟨i.value * Nat.pow 10 (-power).toNat / (Nat.pow 10 power.toNat * i.den), power⟩
  | fuel + 1, power => (i.onGrid? power).getD (i.search fuel (power - 1))

/-- The decimal without the zeros at its end, at most `fuel` of them. -/
def strip : Nat → Decimal → Decimal
  | 0, d => d
  | fuel + 1, d =>
    if d.digits ≠ 0 ∧ d.digits % 10 = 0 then strip fuel ⟨d.digits / 10, d.exponent + 1⟩ else d

/-- The shortest decimal that reads back as `mantissa * 2 ^ exponent`, for a positive mantissa. -/
def shortest (mantissa : Nat) (exponent : Int) : Decimal :=
  let i := Interval.of mantissa exponent
  let guess := ((exponent + mantissa.log2) * 30103).fdiv 100000 - 1
  let magnitude := magnitudeFrom i 5 guess
  strip 20 (i.search 17 (magnitude - 1))

end Decimal

namespace Binary64

/-- Written positionally are the numbers with the point at most three places before the first digit
and at most sixteen places after it. -/
def isPositional (point : Int) : Bool :=
  -4 < point && point ≤ 16

def digitChars (n : Nat) : List Char :=
  Nat.toDigits 10 n

/-- An exponent: its sign and at least two digits. -/
def exponentChars (n : Int) : List Char :=
  let digits := digitChars n.natAbs
  (if n < 0 then '-' else '+') :: (if digits.length < 2 then '0' :: digits else digits)

/-- The written form of a positive decimal: positional with at least one digit on both sides of the
point, or one digit before the point and an exponent. -/
def decimalChars (d : Decimal) : List Char :=
  let digits := digitChars d.digits
  let point : Int := digits.length + d.exponent
  if isPositional point then
    if point ≤ 0 then '0' :: '.' :: List.replicate (-point).toNat '0' ++ digits
    else if d.exponent ≥ 0 then digits ++ List.replicate d.exponent.toNat '0' ++ ['.', '0']
    else digits.take point.toNat ++ '.' :: digits.drop point.toNat
  else
    let fraction := digits.drop 1
    digits.take 1 ++ (if fraction.isEmpty then [] else '.' :: fraction) ++
      'e' :: exponentChars (point - 1)

/-- The written form of a number: the shortest decimal, `inf`, or `nan`. -/
def text : Binary64 → String
  | .finite negative mantissa exponent =>
    let body :=
      if mantissa = 0 then ['0', '.', '0'] else decimalChars (Decimal.shortest mantissa exponent)
    String.ofList (if negative then '-' :: body else body)
  | .infinite negative => if negative then "-inf" else "inf"
  | .notNumber => "nan"

end Binary64

end PromptForm
