/-!
# PersistentId.Text.LoneUnit

Halves of surrogate pairs that stand alone.

Such a half is no character, but a document can hold one between others. It is kept as the
character of the last plane, which is for private use, whose last four hexadecimal digits
are the same.
-/

namespace PersistentId

namespace Text

/-- Where the last plane begins. -/
def lastPlane : Nat := 0x100000

/-- The 16-bit units that are halves of surrogate pairs. -/
def isHalf (u : Nat) : Bool := 0xD800 ≤ u && u ≤ 0xDFFF

/-- The character that stands for half a surrogate pair. -/
def ofLoneUnit (u : Nat) : Char := Char.ofNat (lastPlane + u)

/-- The half of a surrogate pair a character stands for, if it does. -/
def loneUnit? (c : Char) : Option Nat :=
  if isHalf (c.toNat - lastPlane) && lastPlane ≤ c.toNat then some (c.toNat - lastPlane) else none

end Text

end PersistentId
