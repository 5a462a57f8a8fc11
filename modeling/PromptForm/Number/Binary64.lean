/-!
# Binary floating point numbers

The numbers of the binary64 format, as sign, mantissa and exponent, with exact arithmetic on whole
numbers. The only place where a number is rounded is `Binary64.ofRatio`, which takes the nearest
number of the format and, of two nearest, the one with the even mantissa.

## Main definitions

* `Binary64`: a finite number `± mantissa * 2 ^ exponent`, an infinity, or not a number.
* `Binary64.ofRatio`: the number nearest to a quotient of whole numbers.
* `Binary64.toRatio?`: the exact value of a finite number.
* `Binary64.truncate?`: the whole part of a finite number.
-/

namespace PromptForm

inductive Binary64 where
  /-- The number `mantissa * 2 ^ exponent` with a sign. -/
  | finite (negative : Bool) (mantissa : Nat) (exponent : Int)
  | infinite (negative : Bool)
  | notNumber
  deriving DecidableEq, Repr

namespace Binary64

/-- The least exponent of a finite number. -/
def minExponent : Int := -1074

/-- The greatest exponent of a finite number. -/
def maxExponent : Int := 971

def zeroOf (negative : Bool) : Binary64 := .finite negative 0 minExponent

/-- The quotient rounded to a whole number, a half going to the even neighbour. -/
def roundDiv (num den : Nat) : Nat :=
  let quotient := num / den
  let rest := num % den
  if 2 * rest > den ∨ (2 * rest = den ∧ quotient % 2 = 1) then quotient + 1 else quotient

/-- The two parts of `num / den * 2 ^ (-exponent)` as a quotient of whole numbers. -/
def scaled (num den : Nat) (exponent : Int) : Nat × Nat :=
  (num * Nat.pow 2 (-exponent).toNat, den * Nat.pow 2 exponent.toNat)

/-- The exponent for which the quotient has a mantissa of 53 bits, or the least exponent. -/
def exponentOf (num den : Nat) : Int :=
  let guess := max ((num.log2 : Int) - (den.log2 : Int) - 53) minExponent
  let (n, d) := scaled num den guess
  if n / d < Nat.pow 2 53 then guess else guess + 1

/-- The number nearest to `± num / den`, for a positive `den`. -/
def ofRatio (negative : Bool) (num den : Nat) : Binary64 :=
  if num = 0 then zeroOf negative
  else
    let exponent := exponentOf num den
    let (n, d) := scaled num den exponent
    let mantissa := roundDiv n d
    let (mantissa, exponent) :=
      if mantissa = Nat.pow 2 53 then (Nat.pow 2 52, exponent + 1) else (mantissa, exponent)
    if exponent > maxExponent then .infinite negative else .finite negative mantissa exponent

/-- The number nearest to the quotient of a whole number and a positive number. -/
def ofIntRatio (num : Int) (den : Nat) : Binary64 :=
  ofRatio (num < 0) num.natAbs den

def ofInt (n : Int) : Binary64 := ofIntRatio n 1

/-- The exact value of a finite number, as a quotient with a power of two below. -/
def toRatio? : Binary64 → Option (Int × Nat)
  | .finite negative mantissa exponent =>
    let num : Nat := mantissa * Nat.pow 2 exponent.toNat
    some (if negative then -(num : Int) else (num : Int), Nat.pow 2 (-exponent).toNat)
  | _ => none

/-- The whole part of a finite number, its fraction dropped. -/
def truncate? (x : Binary64) : Option Int :=
  x.toRatio?.map fun (num, den) => num.tdiv den

/-- The number as a whole number, when it is one. -/
def toInt? (x : Binary64) : Option Int :=
  x.toRatio?.bind fun (num, den) => if num.tmod den = 0 then some (num.tdiv den) else none

/-- The sum of two numbers, rounded; only finite numbers are added here. -/
def add (x y : Binary64) : Binary64 :=
  match x.toRatio?, y.toRatio? with
  | some (a, b), some (c, d) => ofIntRatio (a * d + c * b) (b * d)
  | _, _ =>
    match x, y with
    | .notNumber, _ | _, .notNumber => .notNumber
    | .infinite s, .infinite t => if s = t then .infinite s else .notNumber
    | .infinite s, _ | _, .infinite s => .infinite s
    | _, _ => .notNumber

/-- The sign of a number; that which is not a number counts as positive. -/
def isNegative : Binary64 → Bool
  | .finite negative _ _ => negative
  | .infinite negative => negative
  | .notNumber => false

/-- Whether the number is a zero of either sign. -/
def isZero : Binary64 → Bool
  | .finite _ mantissa _ => mantissa == 0
  | _ => false

def mul (x y : Binary64) : Binary64 :=
  let negative := x.isNegative != y.isNegative
  match x.toRatio?, y.toRatio? with
  | some (a, b), some (c, d) => ofRatio negative (a * c).natAbs (b * d)
  | _, _ =>
    if x = .notNumber ∨ y = .notNumber ∨ x.isZero ∨ y.isZero then .notNumber
    else .infinite negative

def neg : Binary64 → Binary64
  | .finite negative mantissa exponent => .finite (!negative) mantissa exponent
  | .infinite negative => .infinite (!negative)
  | .notNumber => .notNumber

end Binary64

end PromptForm
