import PersistentId.Text.Numeral
import PersistentId.Text.Split

/-!
# PersistentId.Decimal

Numbers that are written with a point or an exponent.

A decimal is its digits without the point, and the power of ten that puts the point back.
Nothing is lost, however many digits there are.
-/

namespace PersistentId

/-- The number `digits * 10 ^ exponent`, or its negative. -/
structure Decimal where
  negative : Bool
  digits : Nat
  exponent : Int
  deriving DecidableEq, Repr

namespace Decimal

/-- The value of the digits of an exponent. -/
def exponentOf : List Char → Int
  | '-' :: digits => -Text.natOfDigits digits
  | '+' :: digits => Text.natOfDigits digits
  | digits => Text.natOfDigits digits

/-- The number that is written without a sign. -/
def ofUnsigned (negative : Bool) (s : List Char) : Decimal :=
  let (mantissa, exponent) := Text.cut 'e' (s.map Char.toLower)
  let (front, back) := Text.cut '.' mantissa
  ⟨negative, Text.natOfDigits (front ++ back), exponentOf exponent - back.length⟩

/-- The number that is written. -/
def ofChars : List Char → Decimal
  | '-' :: s => ofUnsigned true s
  | s => ofUnsigned false s

/-- The factor that a power of ten above the point brings. -/
def raised (base : Nat) (exponent : Int) : Nat := base.pow exponent.toNat

/-- The divisor that a power of ten below the point brings. -/
def lowered (base : Nat) (exponent : Int) : Nat := base.pow (-exponent).toNat

end Decimal

end PersistentId
