import PersistentId.Text.Folding
import PersistentId.Text.Normal

/-!
# PersistentId.Text.Simplified

Text without differences of case, style and width, for comparing names (Unicode 14).
-/

namespace PersistentId

namespace Text

/-- A text in which characters stand for themselves and in one case. -/
def simplify (s : List Char) : List Char :=
  normalize compatible ((normalize compatible s).flatMap foldChar)

/-- Whether a character is the only form of itself. -/
def isSimple (c : Char) : Bool := simplify [c] == [c]

end Text

end PersistentId
