/-!
# PersistentId.Text.Ranges

Sets of characters, given as ranges of code points. The tables of character
properties are written this way.
-/

namespace PersistentId

/-- A set of characters: the first and the last code point of each range. -/
abbrev CharRanges := List (Nat × Nat)

/-- Whether a code point is in one of the ranges. -/
def CharRanges.covers (rs : CharRanges) (n : Nat) : Bool := rs.any fun r => r.1 ≤ n && n ≤ r.2

/-- Whether a character is in one of the ranges. -/
def CharRanges.holds (rs : CharRanges) (c : Char) : Bool := rs.covers c.toNat

end PersistentId
