import ElementWrap.Decimal.Binary64

/-! # The shortest decimal that reads back

Of all decimals that round to a given number, `shortest` takes one with the fewest digits and, among
those, the one nearest to the number. A layout then decides where the point stands and from which
sizes on an exponent is written.
-/

namespace ElementWrap.Decimal

/-- Significant digits and the power of ten that the first of them counts; the digits are a positive
number without a trailing zero. -/
structure Digits where
  digits : Nat
  leading : Int
  deriving DecidableEq, Repr

/-- The numerators over one denominator of a positive number and of the two ends of the interval
that rounds to it. -/
structure Neighbourhood where
  low : Nat
  value : Nat
  high : Nat
  denominator : Nat
  closed : Bool

namespace Neighbourhood

/-- The interval around `mantissa * 2 ^ exponent`. Just above a power of two the lower half is
smaller, and the ends belong to it if the mantissa is even. -/
def of (mantissa : Nat) (exponent : Int) : Neighbourhood :=
  let below := if mantissa = Binary64.leastMantissa && Binary64.minExponent < exponent then 1 else 2
  let scale (n : Nat) : Nat := (Binary64.descale n 1 (2 - exponent)).1
  { low := scale (4 * mantissa - below)
    value := scale (4 * mantissa)
    high := scale (4 * mantissa + 2)
    denominator := (Binary64.descale 1 1 (2 - exponent)).2
    closed := mantissa % 2 == 0 }

/-- The same numbers counted in units of a power of ten. -/
def inUnits (n : Neighbourhood) (power : Int) : Neighbourhood :=
  if 0 ≤ power then { n with denominator := n.denominator * Nat.pow 10 power.toNat }
  else
    let scale (k : Nat) : Nat := k * Nat.pow 10 (-power).toNat
    { n with low := scale n.low, value := scale n.value, high := scale n.high }

/-- An integer lies in the interval. -/
def admits (n : Neighbourhood) (k : Nat) : Bool :=
  let point := k * n.denominator
  (n.low < point || (n.closed && n.low == point)) &&
    (point < n.high || (n.closed && point == n.high))

/-- The integer of the interval that is nearest to the value, among the two around it. -/
def nearest? (n : Neighbourhood) : Option Nat :=
  let floor := n.value / n.denominator
  let rest := n.value % n.denominator
  let upward := n.denominator < 2 * rest || (n.denominator == 2 * rest && floor % 2 == 1)
  match n.admits floor && floor != 0, n.admits (floor + 1) with
  | true, true => some (if upward then floor + 1 else floor)
  | true, false => some floor
  | false, true => some (floor + 1)
  | false, false => none

/-- The power of ten of the value's first digit. -/
def leading (n : Neighbourhood) : Int :=
  let whole := n.value / n.denominator
  if whole ≠ 0 then (Nat.toDigits 10 whole).length - 1
  else
    let inverse := (n.denominator + n.value - 1) / n.value
    Int.negOfNat (Nat.toDigits 10 (inverse - 1)).length

end Neighbourhood

/-- Drops trailing zeros, at most `fuel` of them. -/
def trimZeros : (fuel n : Nat) → Nat
  | 0, n => n
  | fuel + 1, n => if n % 10 = 0 then trimZeros fuel (n / 10) else n

/-- Searches the grids of `count`, `count + 1`, … digits for a decimal that reads back. -/
def search (n : Neighbourhood) (leading : Int) : (fuel count : Nat) → Digits
  | 0, _ => ⟨1, leading⟩
  | fuel + 1, count =>
    match (n.inUnits (leading - (count - 1 : Int))).nearest? with
    | some k =>
      if k = Nat.pow 10 count then ⟨1, leading + 1⟩ else ⟨trimZeros count k, leading⟩
    | none => search n leading fuel (count + 1)

/-- The shortest digits of a positive number; seventeen always suffice. -/
def shortest (mantissa : Nat) (exponent : Int) : Digits :=
  let n := Neighbourhood.of mantissa exponent
  search n n.leading 17 1

/-- How digits are laid out: the powers of ten of the first digit that are written without an
exponent, and the least number of digits of an exponent. -/
structure Layout where
  smallest : Int
  largest : Int
  exponentWidth : Nat

namespace Layout

/-- The digits of a natural number, padded with zeros in front. -/
def padded (width n : Nat) : List Char :=
  let digits := Nat.toDigits 10 n
  List.replicate (width - digits.length) '0' ++ digits

/-- Writes digits; a number without an exponent keeps a digit on both sides of its point. -/
def write (layout : Layout) (d : Digits) : List Char :=
  let digits := Nat.toDigits 10 d.digits
  if layout.smallest ≤ d.leading && d.leading ≤ layout.largest then
    if d.leading < 0 then
      '0' :: '.' :: List.replicate ((-d.leading).toNat - 1) '0' ++ digits
    else
      let before := d.leading.toNat + 1
      let whole := digits.take before
      let after := digits.drop before
      whole ++ List.replicate (before - whole.length) '0' ++
        '.' :: (if after.isEmpty then ['0'] else after)
  else
    let mark := if d.leading < 0 then '-' else '+'
    digits.take 1 ++ (if digits.length = 1 then [] else '.' :: digits.drop 1) ++
      'e' :: mark :: padded layout.exponentWidth d.leading.natAbs

/-- Writes a number of any kind. -/
def writeNumber (layout : Layout) : Binary64 → List Char
  | .nan => "nan".toList
  | .infinity negative => (if negative then "-inf" else "inf").toList
  | .finite negative mantissa exponent =>
    let magnitude :=
      if mantissa = 0 then ['0', '.', '0'] else layout.write (shortest mantissa exponent)
    if negative then '-' :: magnitude else magnitude

end Layout

end ElementWrap.Decimal
