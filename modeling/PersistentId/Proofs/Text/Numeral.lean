import Mathlib
import PersistentId.Text.Numeral

/-!
# PersistentId.Proofs.Text.Numeral

**A whole number has one decimal spelling.**

The spelling is a rule about texts here, and no function that prints (`IsDecimal`): the digits have
the magnitude of the number for their value, no zero stands in front of them that could be left
out, and a minus sign stands there exactly if the number is negative. One text keeps the rule, and
it is the one that is printed (`isDecimal_iff`).

The digits are taken off from the right, one by one: the last digit is the remainder by ten, and
those in front of it spell the quotient.
-/

namespace PersistentId

namespace Text

/-! ### Digits of a natural number -/

/-- The digits of a number, without a zero that could be left out. -/
structure IsNumeral (n : Nat) (digits : List Char) : Prop where
  isDigit : ∀ c ∈ digits, c.isDigit
  value : natOfDigits digits = n
  ne_nil : digits ≠ []
  no_spare_zero : digits.head? = some '0' → digits = ['0']

/-- A digit has a value below ten, and is the digit of its value. -/
theorem digitChar_of_isDigit {c : Char} (h : c.isDigit) :
    c.toNat - 48 < 10 ∧ Nat.digitChar (c.toNat - 48) = c := by
  have hbounds : 48 ≤ c.toNat ∧ c.toNat ≤ 57 := by
    simpa [Char.isDigit, UInt32.le_iff_toNat_le] using h
  have hlt : c.toNat - 48 < 10 := by omega
  refine ⟨hlt, Char.toNat_inj.1 ?_⟩
  rw [Nat.toNat_digitChar_of_lt_ten hlt]
  omega

/-- What stands in front of the last digit is a numeral of its own that does not begin with a zero:
the last digit would be one too many behind it. -/
theorem IsNumeral.front {n : Nat} {front : List Char} {c : Char} (h : IsNumeral n (front ++ [c]))
    (hfront : front ≠ []) :
    IsNumeral (natOfDigits front) front ∧ front.head? ≠ some '0' := by
  have hzero : front.head? ≠ some '0' := by
    intro hhead
    have hall := h.no_spare_zero (by rw [List.head?_append_of_ne_nil _ hfront, hhead])
    rcases List.append_eq_singleton_iff.1 hall with ⟨hnil, -⟩ | ⟨-, hlast⟩
    · exact hfront hnil
    · exact absurd hlast (List.cons_ne_nil _ _)
  exact ⟨⟨fun d hd => h.isDigit d (List.mem_append_left _ hd), rfl, hfront,
    fun hhead => absurd hhead hzero⟩, hzero⟩

/-- The digits that spell a number are the ones that are printed. -/
theorem eq_toDigits_of_isNumeral {n : Nat} {digits : List Char} (h : IsNumeral n digits) :
    digits = Nat.toDigits 10 n := by
  induction digits using List.reverseRecOn generalizing n with
  | nil => exact absurd rfl h.ne_nil
  | append_singleton front c ih =>
      obtain ⟨hlt, hc⟩ := digitChar_of_isDigit (h.isDigit c (by simp))
      have hvalue : natOfDigits front * 10 + (c.toNat - 48) = n :=
        (natOfDigits_append_singleton front c).symm.trans h.value
      have hlast : Nat.toDigits 10 (c.toNat - 48) = [c] := by
        rw [Nat.toDigits_of_lt_base hlt, hc]
      by_cases hfront : front = []
      · subst hfront
        rw [List.nil_append, ← hlast, ← hvalue, natOfDigits_nil, Nat.zero_mul, Nat.zero_add]
      · obtain ⟨hnumeral, hzero⟩ := h.front hfront
        have hprinted : front = Nat.toDigits 10 (natOfDigits front) := ih hnumeral
        have hpos : 0 < natOfDigits front := by
          rw [Nat.pos_iff_ne_zero]
          intro hnone
          rw [hnone] at hprinted
          exact hzero (by rw [hprinted]; rfl)
        calc front ++ [c]
            = Nat.toDigits 10 (natOfDigits front) ++ Nat.toDigits 10 (c.toNat - 48) := by
              rw [← hprinted, hlast]
          _ = Nat.toDigits 10 (10 * natOfDigits front + (c.toNat - 48)) :=
              Nat.toDigits_append_toDigits (by decide) hpos hlt
          _ = Nat.toDigits 10 n := by rw [Nat.mul_comm, hvalue]

/-- Printed digits begin with a zero for the number zero only. -/
theorem head?_toDigits (n : Nat) (h : (Nat.toDigits 10 n).head? = some '0') : n = 0 := by
  induction n using Nat.strongRecOn with
  | ind n ih =>
      by_cases hlt : n < 10
      · rw [Nat.toDigits_of_lt_base hlt, List.head?_cons, Option.some_inj] at h
        exact Nat.digitChar_eq_zero.1 h
      · rw [Nat.toDigits_of_base_le (by decide) (Nat.not_lt.1 hlt),
          List.head?_append_of_ne_nil _ Nat.toDigits_ne_nil] at h
        have hquotient := ih (n / 10) (by omega) h
        omega

/-- The printed digits have the number for their value. -/
theorem natOfDigits_toDigits (n : Nat) : natOfDigits (Nat.toDigits 10 n) = n := by
  have hread := Nat.ofDigitChars_ten_toDigits (n := n)
  rw [Nat.ofDigitChars_eq_foldl] at hread
  simpa only [natOfDigits, Nat.mul_comm, Char.reduceToNat] using hread

theorem isNumeral_toDigits (n : Nat) : IsNumeral n (Nat.toDigits 10 n) where
  isDigit _ hc := Nat.isDigit_of_mem_toDigits (by decide) (by decide) hc
  value := natOfDigits_toDigits n
  ne_nil := Nat.toDigits_ne_nil
  no_spare_zero hhead := by rw [head?_toDigits n hhead]; rfl

theorem isNumeral_iff {n : Nat} {digits : List Char} :
    IsNumeral n digits ↔ digits = Nat.toDigits 10 n :=
  ⟨eq_toDigits_of_isNumeral, fun h => h ▸ isNumeral_toDigits n⟩

/-! ### Whole numbers -/

/-- The decimal spelling of a whole number: the digits of its magnitude, behind a minus sign where
it is negative. -/
def IsDecimal (n : Int) (s : String) : Prop :=
  ∃ digits, IsNumeral n.natAbs digits ∧ s.toList = if n < 0 then '-' :: digits else digits

/-- There is one spelling, and numbers are printed in it. -/
theorem isDecimal_iff {n : Int} {s : String} : IsDecimal n s ↔ s = toString n := by
  have hprinted : (toString n).toList =
      if n < 0 then '-' :: Nat.toDigits 10 n.natAbs else Nat.toDigits 10 n.natAbs := by
    rw [Int.toString_eq_repr, Int.repr_eq_if]
    by_cases hn : n < 0
    · rw [if_neg (Int.not_le.2 hn), if_pos hn, String.toList_append, Nat.toList_repr,
        show (-n).toNat = n.natAbs by omega]
      rfl
    · rw [if_pos (Int.not_lt.1 hn), if_neg hn, Nat.toList_repr,
        show n.toNat = n.natAbs by omega]
  simp only [IsDecimal, isNumeral_iff, exists_eq_left]
  rw [← hprinted, String.toList_inj]

end Text

end PersistentId
