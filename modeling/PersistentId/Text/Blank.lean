import PersistentId.Text.Ranges

/-!
# PersistentId.Text.Blank

The blanks of all scripts.
-/

namespace PersistentId

namespace Text

/-- The code points of blanks, line ends among them. -/
def blanks : CharRanges :=
  [ (0x9, 0xD), (0x20, 0x20), (0x85, 0x85), (0xA0, 0xA0), (0x1680, 0x1680), (0x2000, 0x200A),
    (0x2028, 0x2029), (0x202F, 0x202F), (0x205F, 0x205F), (0x3000, 0x3000) ]

/-- A blank of some script. -/
def isBlank (c : Char) : Bool := blanks.holds c

/-- A text without the characters of a kind at its ends. -/
def trim (p : Char → Bool) (s : List Char) : List Char :=
  ((s.dropWhile p).reverse.dropWhile p).reverse

end Text

end PersistentId
