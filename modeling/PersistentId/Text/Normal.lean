import PersistentId.Text.CombiningTable
import PersistentId.Text.CompatibilityTable
import PersistentId.Text.DecompositionTable

/-!
# PersistentId.Text.Normal

One spelling for texts that look the same (Unicode 14).

Design points:

* Characters are taken apart as far as possible, marks are put into the order of their
  classes, and then everything is put together again.
* A text is taken apart by a `Splitting`. The canonical one keeps what a text says; the
  compatible one also drops differences of style.
* Syllables of Hangul are taken apart and put together by calculation.
-/

namespace PersistentId

namespace Text

/-! ### Taking apart -/

/-- What characters are taken apart into, one step at a time. -/
abbrev Splitting := Nat → Option (List Nat)

/-- The letters of a syllable of Hangul: 19 first letters, 21 vowels, and 27 last letters or
none. -/
def hangulParts? (n : Nat) : Option (List Nat) :=
  if 0xAC00 ≤ n ∧ n < 0xAC00 + 19 * 588 then
    let i := n - 0xAC00
    let last := if i % 28 = 0 then [] else [0x11A7 + i % 28]
    some ((0x1100 + i / 588) :: (0x1161 + i % 588 / 28) :: last)
  else none

/-- Characters that are another writing of other characters. -/
def canonical : Splitting := fun n => (hangulParts? n).or (canonicalParts.image? n)

/-- Characters that are another writing of other characters, or stand for them. -/
def compatible : Splitting := fun n => (canonical n).or (compatibleParts.image? n)

/-- No character takes more steps than this. -/
def deepestSplit : Nat := 4

/-- A code point, taken apart in a number of steps. -/
def splitCode (split : Splitting) : Nat → Nat → List Nat
  | 0, n => [n]
  | steps + 1, n =>
    match split n with
    | none => [n]
    | some parts => parts.flatMap (splitCode split steps)

/-! ### Order -/

/-- Puts a mark in front of marks of its own and of higher classes. -/
def placeMark (n : Nat) : List Nat → List Nat
  | [] => [n]
  | m :: rest =>
    if 0 < combiningClass m ∧ combiningClass m < combiningClass n then m :: placeMark n rest
    else n :: m :: rest

/-- The marks behind each character in the order of their classes. -/
def orderMarks : List Nat → List Nat
  | [] => []
  | n :: rest => placeMark n (orderMarks rest)

/-! ### Putting together -/

/-- The syllable of Hangul that two letters, or a syllable and a last letter, make. -/
def hangulPair? (a b : Nat) : Option Nat :=
  if 0x1100 ≤ a ∧ a < 0x1113 ∧ 0x1161 ≤ b ∧ b < 0x1176 then
    some (0xAC00 + (a - 0x1100) * 588 + (b - 0x1161) * 28)
  else if 0xAC00 ≤ a ∧ a < 0xAC00 + 19 * 588 ∧ (a - 0xAC00) % 28 = 0 ∧ 0x11A8 ≤ b ∧ b < 0x11C3 then
    some (a + (b - 0x11A7))
  else none

/-- The character that two others make. -/
def pair? (a b : Nat) : Option Nat :=
  (hangulPair? a b).or
    ((canonicalParts.find? fun r => r.image = [a, b] && !uncomposed.covers r.first).map (·.first))

/-- Puts what follows a character together with it. Marks that did not go into it are kept, the
nearest first; they keep marks of lower classes, and all other characters, from going into
it. -/
def composeOnto (base : Nat) (kept : List Nat) : List Nat → List Nat
  | [] => base :: kept.reverse
  | n :: rest =>
    let isBlocked := kept.head?.any fun k => combiningClass n ≤ combiningClass k
    match if isBlocked then none else pair? base n with
    | some whole => composeOnto whole kept rest
    | none =>
      if combiningClass n = 0 then base :: kept.reverse ++ composeOnto n [] rest
      else composeOnto base (n :: kept) rest

/-- Characters put together as far as possible. Marks in front of everything else stay. -/
def compose : List Nat → List Nat
  | [] => []
  | n :: rest => if combiningClass n = 0 then composeOnto n [] rest else n :: compose rest

/-! ### Texts -/

/-- A text taken apart, brought into order, and put together again. -/
def normalize (split : Splitting) (s : List Char) : List Char :=
  let parts := s.flatMap fun c => splitCode split deepestSplit c.toNat
  (compose (orderMarks parts)).map Char.ofNat

end Text

end PersistentId
