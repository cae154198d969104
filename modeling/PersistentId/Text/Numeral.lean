/-!
# PersistentId.Text.Numeral

Numbers in ASCII digits.
-/

namespace PersistentId

namespace Text

/-- The number that decimal digits spell. -/
def natOfDigits (s : List Char) : Nat := s.foldl (fun n c => n * 10 + (c.toNat - 48)) 0

/-- The value of a hexadecimal digit, in either case. -/
def hexValue? (c : Char) : Option Nat :=
  if c.isDigit then some (c.toNat - 48)
  else if 'a' ≤ c ∧ c ≤ 'f' then some (c.toNat - 87)
  else if 'A' ≤ c ∧ c ≤ 'F' then some (c.toNat - 55)
  else none

@[simp] theorem natOfDigits_nil : natOfDigits [] = 0 := rfl

theorem natOfDigits_append_singleton (s : List Char) (c : Char) :
    natOfDigits (s ++ [c]) = natOfDigits s * 10 + (c.toNat - 48) := by
  simp [natOfDigits]

end Text

end PersistentId
