import PersistentId.Decimal.Binary

/-!
# PersistentId.Json.Basic

JSON values and their written form.

Design points:

* An object is a list of fields in the order in which they are written.
* A number that is written with a point or an exponent is kept as it was written
  (`Number.decimal`), so that it passes through unchanged. Integers have no bound.
* The written form is pure ASCII: every character outside the printable ASCII
  range is escaped, one beyond the basic plane as a pair of surrogates. Fields and
  elements are separated by a comma and a blank, a name and its value by a colon
  and a blank.
-/

namespace PersistentId

/-- A JSON number. -/
inductive Number
  | integer (n : Int)
  /-- A number with a point or an exponent, as it was written. -/
  | decimal (lexeme : String)
  deriving DecidableEq, Repr

/-- The written form of a number. -/
def Number.chars : Number → List Char
  | .integer n => (toString n).toList
  | .decimal lexeme => lexeme.toList

namespace Number

/-- The value of a decimal that is not negative: the nearest binary number. The word for no
number has none. -/
def binary? (lexeme : String) : Option Binary :=
  match lexeme with
  | "NaN" => none
  | "Infinity" | "-Infinity" => some .infinite
  | _ => some (.ofDecimal (.ofChars lexeme.toList))

/-- Whether a decimal is negative. -/
def isNegative (lexeme : String) : Bool := lexeme.toList.head? = some '-'

/-- Whether a decimal is read as zero. -/
def isZero (lexeme : String) : Bool := binary? lexeme = some .zero

end Number

/-- A JSON value. -/
inductive Json
  | null
  | bool (b : Bool)
  | number (n : Number)
  | text (s : String)
  | list (elements : List Json)
  | object (fields : List (String × Json))
  deriving Repr

instance : Inhabited Json := ⟨.null⟩

namespace Json

/-- An integer as a JSON value. -/
abbrev int (n : Int) : Json := .number (.integer n)

/-! ### Escapes -/

/-- The hexadecimal digit of a number below sixteen, in lower case. -/
def hexDigit (n : Nat) : Char := if n < 10 then Char.ofNat (48 + n) else Char.ofNat (87 + n)

/-- The escape of one 16-bit unit. -/
def unitEscape (u : Nat) : List Char :=
  ['\\', 'u', hexDigit (u / 4096 % 16), hexDigit (u / 256 % 16), hexDigit (u / 16 % 16),
    hexDigit (u % 16)]

/-- The letter of a character that has an escape of its own. -/
def escapeLetter? : Char → Option Char
  | '"' => some '"'
  | '\\' => some '\\'
  | '\n' => some 'n'
  | '\r' => some 'r'
  | '\t' => some 't'
  | '\x08' => some 'b'
  | '\x0c' => some 'f'
  | _ => none

/-- The written form of one character inside a text. -/
def escape (c : Char) : List Char :=
  match escapeLetter? c with
  | some letter => ['\\', letter]
  | none =>
    if 0x20 ≤ c.toNat ∧ c.toNat < 0x7F then [c]
    else if c.toNat < 0x10000 then unitEscape c.toNat
    else
      unitEscape (0xD800 + (c.toNat - 0x10000) / 0x400) ++
        unitEscape (0xDC00 + (c.toNat - 0x10000) % 0x400)

/-- The written form of a text. -/
def quoted (s : String) : List Char := '"' :: s.toList.flatMap escape ++ ['"']

/-! ### Values -/

mutual

/-- The written form of a value. -/
def chars : Json → List Char
  | null => ['n', 'u', 'l', 'l']
  | bool true => ['t', 'r', 'u', 'e']
  | bool false => ['f', 'a', 'l', 's', 'e']
  | number n => n.chars
  | text s => quoted s
  | list [] => ['[', ']']
  | list (x :: xs) => '[' :: (x.chars ++ moreElements xs ++ [']'])
  | object [] => ['{', '}']
  | object ((name, x) :: fs) =>
    '{' :: (quoted name ++ [':', ' '] ++ x.chars ++ moreFields fs ++ ['}'])

/-- The written form of the elements that follow another one. -/
def moreElements : List Json → List Char
  | [] => []
  | x :: xs => ',' :: ' ' :: (x.chars ++ moreElements xs)

/-- The written form of the fields that follow another one. -/
def moreFields : List (String × Json) → List Char
  | [] => []
  | (name, x) :: fs => ',' :: ' ' :: (quoted name ++ [':', ' '] ++ x.chars ++ moreFields fs)

end

/-- The written form of a value, as text. -/
def render (j : Json) : String := String.ofList j.chars

/-! ### Access -/

/-- The value of a field. -/
def field? (j : Json) (name : String) : Option Json :=
  match j with
  | object fields => (fields.find? fun f => f.1 == name).map (·.2)
  | _ => none

/-- The fields with one of them set: in place where the name is there already, at
the end where it is new. -/
def setField (name : String) (value : Json) : List (String × Json) → List (String × Json)
  | [] => [(name, value)]
  | f :: fs => if f.1 == name then (name, value) :: fs else f :: setField name value fs

/-- How messages name the kind of a value. -/
def kindName : Json → String
  | null => "NoneType"
  | bool _ => "bool"
  | number (.integer _) => "int"
  | number (.decimal _) => "float"
  | text _ => "str"
  | list _ => "list"
  | object _ => "dict"

/-- Whether a value counts as something: no null, no zero, nothing empty. -/
def isSomething : Json → Bool
  | .null => false
  | .bool b => b
  | .number (.integer n) => n != 0
  | .number (.decimal lexeme) => !Number.isZero lexeme
  | .text s => !s.isEmpty
  | .list elements => !elements.isEmpty
  | .object fields => !fields.isEmpty

end Json

end PersistentId
