import PersistentId.Text.Numeral

/-!
# PersistentId.Json.Grammar

Which texts are JSON, said apart from any reader.

Design points:

* Each part of a document is a predicate on the characters that it takes up.
* Blanks may stand around every value and around the name of a field.
* The grammar is the one of the standard: it has no words for numbers that are none, and no comma
  behind the last element.
-/

namespace PersistentId

namespace Json

namespace Grammar

/-- Blanks, or nothing. -/
def Blanks (s : List Char) : Prop := ∀ c ∈ s, c ∈ [' ', '\t', '\n', '\r']

/-! ### Numbers -/

/-- One digit or more. -/
def Digits (s : List Char) : Prop := s ≠ [] ∧ ∀ c ∈ s, c.isDigit = true

/-- The digits in front of a point. No zero stands in front of other digits. -/
def Whole (s : List Char) : Prop := s = ['0'] ∨ Digits s ∧ s.head? ≠ some '0'

/-- A point with digits behind it, or nothing. -/
def Fraction (s : List Char) : Prop := s = [] ∨ ∃ digits, Digits digits ∧ s = '.' :: digits

/-- An exponent, or nothing. -/
def Exponent (s : List Char) : Prop :=
  s = [] ∨ ∃ e ∈ ['e', 'E'], ∃ sign ∈ [[], ['+'], ['-']], ∃ digits, Digits digits ∧
    s = e :: (sign ++ digits)

/-- A number. -/
inductive Number : List Char → Prop
  | intro {sign whole fraction exponent : List Char} : sign ∈ [[], ['-']] → Whole whole →
    Fraction fraction → Exponent exponent → Number (sign ++ whole ++ fraction ++ exponent)

/-! ### Texts -/

/-- The letters that make an escape of their own. -/
def letters : List Char := ['"', '\\', '/', 'b', 'f', 'n', 'r', 't']

/-- What stands between the quotes of a text. -/
inductive Inside : List Char → Prop
  | nil : Inside []
  | plain {c : Char} {s : List Char} : 0x20 ≤ c.toNat → c ≠ '"' → c ≠ '\\' → Inside s →
    Inside (c :: s)
  | letter {c : Char} {s : List Char} : c ∈ letters → Inside s → Inside ('\\' :: c :: s)
  | unit {digits s : List Char} : digits.length = 4 →
    (∀ d ∈ digits, (Text.hexValue? d).isSome = true) → Inside s →
    Inside ('\\' :: 'u' :: (digits ++ s))

/-- A text. -/
inductive Quoted : List Char → Prop
  | intro {s : List Char} : Inside s → Quoted ('"' :: (s ++ ['"']))

/-! ### Values -/

/-- The words that are values. -/
def words : List (List Char) := ["null".toList, "true".toList, "false".toList]

mutual

/-- A value. -/
inductive Value : List Char → Prop
  | word {s : List Char} : s ∈ words → Value s
  | number {s : List Char} : Number s → Value s
  | text {s : List Char} : Quoted s → Value s
  | emptyList {s : List Char} : Blanks s → Value ('[' :: (s ++ [']']))
  | list {s : List Char} : Elements s → Value ('[' :: (s ++ [']']))
  | emptyObject {s : List Char} : Blanks s → Value ('\x7b' :: (s ++ ['\x7d']))
  | object {s : List Char} : Fields s → Value ('\x7b' :: (s ++ ['\x7d']))

/-- A value with blanks around it. -/
inductive Padded : List Char → Prop
  | intro {before s after : List Char} : Blanks before → Value s → Blanks after →
    Padded (before ++ s ++ after)

/-- The elements of a list, with commas between them. -/
inductive Elements : List Char → Prop
  | last {s : List Char} : Padded s → Elements s
  | more {s rest : List Char} : Padded s → Elements rest → Elements (s ++ ',' :: rest)

/-- The fields of an object, with commas between them. -/
inductive Fields : List Char → Prop
  | last {s : List Char} : Field s → Fields s
  | more {s rest : List Char} : Field s → Fields rest → Fields (s ++ ',' :: rest)

/-- A name and its value. -/
inductive Field : List Char → Prop
  | intro {before name after value : List Char} : Blanks before → Quoted name → Blanks after →
    Padded value → Field (before ++ name ++ after ++ ':' :: value)

end

end Grammar

/-- Whether a text is a JSON document. -/
def IsDocument (document : String) : Prop := Grammar.Padded document.toList

end Json

end PersistentId
