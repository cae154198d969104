import PersistentId.Decimal.Basic

/-!
# PersistentId.Decimal.Binary

Binary numbers of 53 digits, and the one that is nearest to a decimal.

Design points:

* A quotient is rounded once, to the even one of two neighbours where it lies in the
  middle. Its exponent is chosen first, so that rounding is rounding to an integer.
* Very small numbers have fewer digits, and what is too large is infinite.
* The result is a function of the value alone, not of the way it is written, so two
  decimals can be compared by it.
-/

namespace PersistentId

/-- A binary number that is not negative: `mantissa * 2 ^ exponent`, with 53 digits unless
the exponent is the least one. -/
inductive Binary
  | finite (mantissa : Nat) (exponent : Int)
  | infinite
  deriving DecidableEq, Repr

namespace Binary

/-- The number of binary digits. -/
def precision : Nat := 53

/-- The least exponent. -/
def least : Int := -1074

/-- The greatest exponent. -/
def greatest : Int := 971

/-- Zero. -/
def zero : Binary := finite 0 least

/-- The integer nearest to a quotient, the even one of two. -/
def roundQuotient (num den : Nat) : Nat :=
  let q := num / den
  let r := num % den
  if den < 2 * r ∨ (den = 2 * r ∧ q % 2 = 1) then q + 1 else q

/-- The greatest power of two that is no greater than a quotient. -/
def magnitude (num den : Nat) : Int :=
  let e : Int := (num.log2 : Int) - den.log2
  if den * Decimal.raised 2 e ≤ num * Decimal.lowered 2 e then e else e - 1

/-- The nearest binary number to a quotient. -/
def nearest (num den : Nat) : Binary :=
  if num = 0 then zero
  else
    let exponent := max (magnitude num den - (precision - 1)) least
    let mantissa :=
      roundQuotient (num * Decimal.lowered 2 exponent) (den * Decimal.raised 2 exponent)
    let (mantissa, exponent) :=
      -- Rounding up can take a digit more.
      if mantissa = Nat.pow 2 precision then (Nat.pow 2 (precision - 1), exponent + 1)
      else (mantissa, exponent)
    if greatest < exponent then infinite else finite mantissa exponent

/-- The nearest binary number to `digits * 10 ^ exponent`. -/
def ofScaled (digits : Nat) (exponent : Int) : Binary :=
  nearest (digits * Decimal.raised 10 exponent) (Decimal.lowered 10 exponent)

/-- How far from the point the digits of a number cannot matter any more. -/
def horizon : Int := 400

/-- The nearest binary number to a decimal without its sign. -/
def ofDecimal (d : Decimal) : Binary :=
  if d.digits = 0 then zero
  else if horizon < d.exponent then infinite
  else if d.exponent + (d.digits.log2 + 1) < -horizon then zero
  else ofScaled d.digits d.exponent

/-- The number as a quotient. -/
def quotient (mantissa : Nat) (exponent : Int) : Nat × Nat :=
  (mantissa * Decimal.raised 2 exponent, Decimal.lowered 2 exponent)

/-- The number as an integer, if it is one. -/
def integer? : Binary → Option Nat
  | infinite => none
  | finite mantissa exponent =>
    let (num, den) := quotient mantissa exponent
    if num % den = 0 then some (num / den) else none

end Binary

end PersistentId
