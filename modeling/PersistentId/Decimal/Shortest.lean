import PersistentId.Decimal.Binary

/-!
# PersistentId.Decimal.Shortest

The shortest text of a binary number.

Design points:

* Of the decimals that read back as the number, the ones with the fewest digits are looked
  for, and of these the nearest is taken. Seventeen digits are always enough.
* For every number of digits there are two candidates: the decimal below the number and
  the one above it. Whether one of them reads back is asked of `Binary.ofScaled` itself.
* The point stands between the digits, or close to them, or the number takes an exponent.
-/

namespace PersistentId

namespace Binary

/-- The greatest power of ten that is no greater than a quotient, which is not zero. -/
def decimalMagnitude (num den : Nat) : Int :=
  (Nat.toDigits 10 (num * Nat.pow 10 horizon.toNat / den)).length - 1 - horizon

/-- The multiple of `10 ^ exponent` that reads back as a number and is next to it, the
nearer one of two and the even one of two that are equally near. -/
def candidate? (mantissa : Nat) (exponent place : Int) : Option Nat :=
  let (num, den) := quotient mantissa exponent
  let num := num * Decimal.lowered 10 place
  let den := den * Decimal.raised 10 place
  let low := num / den
  let readsBack (digits : Nat) : Bool := ofScaled digits place = finite mantissa exponent
  match readsBack low, readsBack (low + 1) with
  | true, true => some (roundQuotient num den)
  | true, false => some low
  | false, true => some (low + 1)
  | false, false => none

/-- The digits and the exponent of the shortest decimal that reads back, trying as many
digits as given, one more each time. -/
def shortestFrom (mantissa : Nat) (exponent first : Int) : Nat → Nat → Nat × Int
  | 0, _ => (0, 0)
  | tries + 1, count =>
    let place := first - count
    match candidate? mantissa exponent place with
    | some digits => (digits, place)
    | none => shortestFrom mantissa exponent first tries (count + 1)

/-- The digits and the exponent of the shortest decimal that reads back. -/
def shortest (mantissa : Nat) (exponent : Int) : Nat × Int :=
  let (num, den) := quotient mantissa exponent
  shortestFrom mantissa exponent (decimalMagnitude num den) 17 0

/-- The layout of digits whose point stands behind `point` of them. -/
def layout (digits : List Char) (point : Int) : List Char :=
  let zeros (n : Int) : List Char := List.replicate n.toNat '0'
  if -4 < point ∧ point ≤ 16 then
    if point ≤ 0 then '0' :: '.' :: (zeros (-point) ++ digits)
    else if digits.length ≤ point.toNat then
      digits ++ zeros (point - digits.length) ++ ['.', '0']
    else digits.take point.toNat ++ '.' :: digits.drop point.toNat
  else
    let exponent := point - 1
    let places := Nat.toDigits 10 exponent.natAbs
    digits.take 1 ++ (if digits.length = 1 then [] else '.' :: digits.drop 1) ++
      ['e', if exponent < 0 then '-' else '+'] ++
      List.replicate (2 - places.length) '0' ++ places

/-- The text of a number without its sign. -/
def text : Binary → List Char
  | infinite => "inf".toList
  | finite mantissa exponent =>
    if mantissa = 0 then "0.0".toList
    else
      let (digits, place) := shortest mantissa exponent
      let written := Nat.toDigits 10 digits
      -- Zeros at the end add nothing, but the point is counted with them.
      let bare := (written.reverse.dropWhile (· = '0')).reverse
      layout bare (place + written.length)

end Binary

/-- The text of the binary number nearest to a decimal. -/
def Decimal.shortestText (d : Decimal) : List Char :=
  (if d.negative then ['-'] else []) ++ (Binary.ofDecimal d).text

end PersistentId
