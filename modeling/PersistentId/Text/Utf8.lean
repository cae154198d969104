/-!
# PersistentId.Text.Utf8

The octets of characters.

Reading one character (`decode?`) accepts exactly what writing it (`encode`) produces:
octets that are not the form of any character, or a longer form than needed, are refused.

Reading a whole text never fails (`decodeAll`). Where no character starts, a replacement
character stands for as many octets as could have started one, and for one at least.
-/

namespace PersistentId

namespace Utf8

/-- The octets of a character. -/
def encode (c : Char) : List Nat :=
  let n := c.toNat
  if n < 0x80 then [n]
  else if n < 0x800 then [0xC0 + n / 64, 0x80 + n % 64]
  else if n < 0x10000 then [0xE0 + n / 4096, 0x80 + n / 64 % 64, 0x80 + n % 64]
  else [0xF0 + n / 262144, 0x80 + n / 4096 % 64, 0x80 + n / 64 % 64, 0x80 + n % 64]

/-- The code point that octets would spell if they were the form of a character. -/
def payload : List Nat → Nat
  | [a] => a
  | [a, b] => a % 32 * 64 + b % 64
  | [a, b, c] => a % 16 * 4096 + b % 64 * 64 + c % 64
  | [a, b, c, d] => a % 8 * 262144 + b % 64 * 4096 + c % 64 * 64 + d % 64
  | _ => 0

/-- The character of which the octets are the form. -/
def decode? (octets : List Nat) : Option Char :=
  let c := Char.ofNat (payload octets)
  if encode c = octets then some c else none

/-- Whether every character of a text takes a single octet. -/
def isAscii (s : List Char) : Bool := s.all fun c => c.toNat < 0x80

/-- How many octets the form of a character has, by its first one. -/
def width (first : Nat) : Nat :=
  if first < 0x80 then 1 else if first < 0xE0 then 2 else if first < 0xF0 then 3 else 4

/-- Whether an octet can stand second behind a given first one. Some first octets leave
less room than others: a longer form than needed, half of a surrogate pair and a number
beyond the last character are ruled out here. -/
def mayFollow (first second : Nat) : Bool :=
  let low := if first = 0xE0 then 0xA0 else if first = 0xF0 then 0x90 else 0x80
  let high := if first = 0xED then 0x9F else if first = 0xF4 then 0x8F else 0xBF
  0xC2 ≤ first && first ≤ 0xF4 && low ≤ second && second ≤ high

/-- The octets behind a first one that belong to its form, as far as they go. -/
def continuation (first : Nat) : List Nat → List Nat
  | [] => []
  | second :: rest =>
    if mayFollow first second then
      second :: (rest.take (width first - 2)).takeWhile fun n => 0x80 ≤ n && n ≤ 0xBF
    else []

/-- The character that stands for octets which are the form of none. -/
def replacement : Char := Char.ofNat 0xFFFD

/-- The text that octets spell. -/
def decodeAll : List Nat → List Char
  | [] => []
  | first :: rest =>
    let more := continuation first rest
    (decode? (first :: more)).getD replacement :: decodeAll (rest.drop more.length)
  termination_by octets => octets.length
  decreasing_by simp only [List.length_drop, List.length_cons]; omega

theorem toNat_lt (c : Char) : c.toNat < 0x110000 := by
  rcases c.valid with h | h
  · exact Nat.lt_trans h (by decide)
  · exact h.2

end Utf8

end PersistentId
