/-! # Double-precision numbers as exact values

A finite number is a sign, a mantissa and a power of two, so comparing it with an integer and
rounding a decimal to it are exact arithmetic on natural numbers. Rounding goes to the nearest
number and a tie to the even mantissa.
-/

namespace ElementWrap

/-- A number of the binary format of 64 bits. A finite one is `± mantissa * 2 ^ exponent`, with the
mantissa below `2 ^ 53` and, unless the exponent is the smallest one, at least `2 ^ 52`. -/
inductive Binary64
  | nan
  | infinity (negative : Bool)
  | finite (negative : Bool) (mantissa : Nat) (exponent : Int)
  deriving DecidableEq, Repr

namespace Binary64

/-- The exponent of the smallest numbers. -/
def minExponent : Int := -1074

/-- The exponent of the largest numbers. -/
def maxExponent : Int := 971

/-- The least mantissa, `2 ^ 52`, of a number whose exponent is not the smallest one. -/
def leastMantissa : Nat := 0x10000000000000

/-- The nearest integer to a quotient, the even one of two. -/
def roundQuotient (num den : Nat) : Nat :=
  let floor := num / den
  let rest := num % den
  if den < 2 * rest || (2 * rest == den && floor % 2 == 1) then floor + 1 else floor

/-- A ratio divided by a power of two. -/
def descale (num den : Nat) (exponent : Int) : Nat × Nat :=
  if 0 ≤ exponent then (num, den * Nat.pow 2 exponent.toNat)
  else (num * Nat.pow 2 (-exponent).toNat, den)

/-- The exponent that leaves a positive ratio 53 binary digits before the point, or the smallest
exponent where that is larger. -/
def exponentOf (num den : Nat) : Int :=
  let upper : Int := (num.log2 : Int) - (den.log2 : Int) - 52
  let scaled := descale num den upper
  max minExponent (if scaled.1 / scaled.2 < leastMantissa then upper - 1 else upper)

/-- The number nearest to a ratio. -/
def ofRatio (negative : Bool) (num den : Nat) : Binary64 :=
  if num = 0 then finite negative 0 minExponent
  else
    let exponent := exponentOf num den
    let scaled := descale num den exponent
    let mantissa := roundQuotient scaled.1 scaled.2
    let (mantissa, exponent) :=
      if mantissa = 2 * leastMantissa then (leastMantissa, exponent + 1) else (mantissa, exponent)
    if maxExponent < exponent then infinity negative else finite negative mantissa exponent

/-- The number nearest to `± digits * 10 ^ exponent`. Powers far outside the range are not
computed. -/
def ofDecimal (negative : Bool) (digits : Nat) (exponent : Int) : Binary64 :=
  let count : Int := (Nat.toDigits 10 digits).length
  if digits = 0 || count + exponent < -400 then finite negative 0 minExponent
  else if 400 < count + exponent then infinity negative
  else if 0 ≤ exponent then ofRatio negative (digits * Nat.pow 10 exponent.toNat) 1
  else ofRatio negative digits (Nat.pow 10 (-exponent).toNat)

/-- The number is a zero of either sign. -/
def isZero : Binary64 → Bool
  | finite _ mantissa _ => mantissa == 0
  | _ => false

/-- The two numbers have one value; not-a-number has none. -/
def equal : Binary64 → Binary64 → Bool
  | nan, _ => false
  | _, nan => false
  | x, y => x == y || (x.isZero && y.isZero)

/-- The number has the value of an integer. -/
def equalInt : Binary64 → Int → Bool
  | finite negative mantissa exponent, n =>
    let scaled := descale mantissa 1 (-exponent)
    scaled.1 == n.natAbs * scaled.2 && (mantissa == 0 || negative == decide (n < 0))
  | _, _ => false

end Binary64

end ElementWrap
