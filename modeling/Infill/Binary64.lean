import Infill.Text.Basic

/-!
# Binary floating-point numbers

The finite non-negative numbers of 64-bit binary floating point, in exact arithmetic: rounding a
fraction to the nearest of them, products, quotients, and the shortest decimal that reads back.
-/

namespace Infill

/-- The number `significand * 2 ^ exponent`.  A significand has at most 53 bits; it has fewer only
if the exponent is the least one, -1074. -/
structure Binary64 where
  significand : Nat
  exponent : Int
deriving DecidableEq, Repr

namespace Binary64

/-- The bits of a significand. -/
def precision : Nat := 53

/-- The least exponent. -/
def leastExponent : Int := -1074

/-- The greatest exponent. -/
def greatestExponent : Int := 971

/-- Zero. -/
def zero : Binary64 := { significand := 0, exponent := leastExponent }

/-- The whole number nearest to a fraction, the even one of two. -/
def nearest (num den : Nat) : Nat :=
  let q := num / den
  let r := num % den
  if 2 * r < den ∨ (2 * r = den ∧ q % 2 = 0) then q else q + 1

/-- The fraction `num / den` divided by a power of two, as numerator and denominator. -/
def scaled (num den : Nat) (exponent : Int) : Nat × Nat :=
  if 0 ≤ exponent then (num, den * Nat.pow 2 exponent.toNat)
  else (num * Nat.pow 2 (-exponent).toNat, den)

/-- The exponent with which a positive fraction gets a significand of full length. -/
def exponentOf (num den : Nat) : Int :=
  let guess : Int := (num.log2 : Int) - den.log2 - precision + 1
  let (n, d) := scaled num den guess
  let fitting := if n < d * Nat.pow 2 (precision - 1) then guess - 1 else guess
  max leastExponent fitting

/-- The number nearest to the fraction `num / den`, of two the one with even significand; `none`
if it is too great. -/
def ofRatio? (num den : Nat) : Option Binary64 :=
  if num = 0 then some zero
  else
    let exponent := exponentOf num den
    let (n, d) := scaled num den exponent
    let rounded := nearest n d
    let result : Binary64 :=
      if rounded = Nat.pow 2 precision then
        { significand := rounded / 2, exponent := exponent + 1 }
      else { significand := rounded, exponent }
    if greatestExponent < result.exponent then none else some result

/-- The number as numerator and denominator. -/
def ratio (x : Binary64) : Nat × Nat := scaled x.significand 1 (-x.exponent)

/-- The number nearest to a product. -/
def mul? (x y : Binary64) : Option Binary64 :=
  ofRatio? (x.ratio.1 * y.ratio.1) (x.ratio.2 * y.ratio.2)

/-- The number nearest to a quotient. -/
def div? (x y : Binary64) : Option Binary64 :=
  ofRatio? (x.ratio.1 * y.ratio.2) (x.ratio.2 * y.ratio.1)

/-- The number nearest to a whole number. -/
def ofNat? (n : Nat) : Option Binary64 := ofRatio? n 1

/-- A decimal number: a whole number times a power of ten. -/
structure Decimal where
  digits : Nat
  exponent : Int
deriving DecidableEq, Repr

/-- The decimal as numerator and denominator. -/
def Decimal.ratio (d : Decimal) : Nat × Nat :=
  if 0 ≤ d.exponent then (d.digits * Nat.pow 10 d.exponent.toNat, 1)
  else (d.digits, Nat.pow 10 (-d.exponent).toNat)

/-- Whether a decimal is read as the number. -/
def readsBack (x : Binary64) (d : Decimal) : Bool :=
  ofRatio? d.ratio.1 d.ratio.2 = some x

/-- The number of digits in front of the decimal point of a positive fraction, zero or less if it
is below one. -/
def magnitude (num den : Nat) : Int :=
  if den ≤ num then (Text.decimal (num / den)).length
  else 1 - (Text.decimal ((den + num - 1) / num - 1)).length

/-- The distance between a decimal and a fraction, times both denominators. -/
def distance (num den : Nat) (d : Decimal) : Nat :=
  let (n, m) := d.ratio
  (n * den - num * m) + (num * m - n * den)

/-- The decimal with the given number of digits, if there is one, that reads back as the number:
of two the nearer, and of two that are equally near the one with even digits. -/
def withDigits? (x : Binary64) (count : Nat) : Option Decimal :=
  let (num, den) := x.ratio
  let exponent := magnitude num den - count
  let digits :=
    if 0 ≤ exponent then num / (den * Nat.pow 10 exponent.toNat)
    else num * Nat.pow 10 (-exponent).toNat / den
  let below : Decimal := { digits, exponent }
  let above : Decimal := { digits := digits + 1, exponent }
  let belowFirst :=
    distance num den below < distance num den above ||
      (distance num den below == distance num den above && digits % 2 == 0)
  let candidates := if belowFirst then [below, above] else [above, below]
  candidates.find? x.readsBack

/-- The shortest decimal that reads back as the number.  Seventeen digits are always enough. -/
def shortest (x : Binary64) : Decimal :=
  ((List.range 17).findSome? fun n => x.withDigits? (n + 1)).getD { digits := 0, exponent := 0 }

end Binary64

end Infill
