import PersistentId.Json.Basic
import PersistentId.Settings.Problem

/-!
# PersistentId.Settings.Conversion

Reading the value of a setting from what was given for it.

Design points:

* Integers and booleans are read leniently: from text, from each other, and from numbers
  without a fraction.
* Text is never made out of anything else.
* Blanks around an integer do not count, blanks around a boolean do.
-/

namespace PersistentId

namespace Conversion

/-! ### Numbers -/

/-- The integers of a machine word are below this, and not below its negative. -/
def wordBound : Int := 0x8000000000000000

/-- An integer that a machine word can hold, from a decimal. -/
def integerOf (lexeme : String) : Except ProblemKind Int :=
  match Number.binary? lexeme with
  | none | some .infinite => .error .infiniteNumber
  | some b =>
    match b.integer? with
    | none => .error .fractionalNumber
    | some n =>
      let n : Int := if Number.isNegative lexeme then -n else n
      if -wordBound < n ∧ n < wordBound then .ok n else .error .hugeInteger

/-! ### Text -/

/-- The text without zeros at its beginning, unless they are all there is; underscores among
them do not matter. Apart from zeros it begins with another digit or with a minus sign. -/
def dropLeadingZeros? (s : List Char) : Option (List Char) :=
  let zeros := s.takeWhile fun c => c == '0' || c == '_'
  if zeros.head? == some '_' then none
  else
    match zeros.getLast?, s.drop zeros.length with
    | some last, [] => some [last]
    | some last, '.' :: places => some (last :: '.' :: places)
    | _, '-' :: rest => some ('-' :: rest)
    | _, c :: rest => if Char.isDigit c then some (c :: rest) else none
    | none, [] => none

/-- The text without a point and zeros at its end. -/
def dropPlaces (s : List Char) : List Char :=
  let (front, zeros) := Text.cut '.' s
  if zeros.all (· == '0') && !zeros.isEmpty then front else s

/-- The text without single underscores inside it. -/
def dropUnderscores (s : List Char) : List Char :=
  if (Text.pieces '_' s).all (!·.isEmpty) then s.filter (· != '_') else s

/-- The sign of a number and what follows it. A plus sign is not followed by a minus sign. -/
def cutSign? (s : List Char) : Option (List Char × List Char) :=
  match s with
  | '+' :: '-' :: _ => none
  | '+' :: rest => some ([], rest)
  | '-' :: rest => some (['-'], rest)
  | s => some ([], s)

/-- What is left of the text of an integer once everything that adds nothing to it is
dropped: blanks around it, a plus sign, zeros in front, underscores between digits, and a
fraction of zeros. A minus sign counts in front of the zeros or behind them. -/
def bareInteger? (s : List Char) : Option (List Char) := do
  let (sign, rest) ← cutSign? (Text.trim Text.isBlank s)
  pure (dropUnderscores (dropPlaces (sign ++ (← dropLeadingZeros? rest))))

/-- A number of more digits than this is no integer. -/
def longestInteger : Nat := 4300

/-- The number that digits spell. A zero in front stands alone. -/
def natural (s : List Char) : Except ProblemKind Nat :=
  if s.isEmpty || !s.all Char.isDigit || (s.head? == some '0' && 1 < s.length) then
    .error .malformedInteger
  else if longestInteger < s.length then .error .hugeInteger
  else .ok (Text.natOfDigits s)

/-- The integer a text spells. -/
def integerOfText (s : String) : Except ProblemKind Int :=
  match bareInteger? s.toList with
  | some ('-' :: digits) => (natural digits).map fun n => -Int.ofNat n
  | some digits => (natural digits).map Int.ofNat
  | none => .error .malformedInteger

/-- The words for yes and no. -/
def booleanWords : List (String × Bool) :=
  [ ("0", false), ("off", false), ("f", false), ("false", false), ("n", false), ("no", false),
    ("1", true), ("on", true), ("t", true), ("true", true), ("y", true), ("yes", true) ]

/-- The boolean a text spells, in any case. -/
def booleanOfText? (s : String) : Option Bool :=
  (booleanWords.find? fun w => w.1.toList == s.toList.map Char.toLower).map (·.2)

/-! ### Values -/

/-- An integer. -/
def integer : Json → Except ProblemKind Int
  | .number (.integer n) => .ok n
  | .number (.decimal lexeme) => integerOf lexeme
  | .bool b => .ok (if b then 1 else 0)
  | .text s => integerOfText s
  | _ => .error .notInteger

/-- A boolean from an integer. One that no machine word can hold is not even looked at. -/
def booleanOfInteger (n : Int) : Except ProblemKind Bool :=
  if n = 0 then .ok false
  else if n = 1 then .ok true
  else if -wordBound ≤ n ∧ n < wordBound then .error .malformedBoolean
  else .error .notBoolean

/-- A boolean. -/
def boolean : Json → Except ProblemKind Bool
  | .bool b => .ok b
  | .number (.integer n) => booleanOfInteger n
  | .number (.decimal lexeme) =>
    match integerOf lexeme with
    | .ok n => booleanOfInteger n
    | .error _ => .error .notBoolean
  | .text s =>
    match booleanOfText? s with
    | some b => .ok b
    | none => .error .malformedBoolean
  | _ => .error .notBoolean

/-- A text. -/
def text : Json → Except ProblemKind String
  | .text s => .ok s
  | _ => .error .notText

/-- A text that may be missing. -/
def optionalText : Json → Except ProblemKind (Option String)
  | .null => .ok none
  | j => (text j).map some

/-- The address of a database, in canonical spelling. It has to name a host and to have
one of the known schemes. -/
def databaseUrl : Json → Except ProblemKind String
  | .text s =>
    match DatabaseUrl.read s with
    | .error fault => .error (.malformedAddress fault)
    | .ok url =>
      if !DatabaseUrl.schemes.contains url.scheme then .error .foreignScheme
      else if !url.hasHost then .error (.malformedAddress .emptyHost)
      else .ok url.text
  | _ => .error .notAddress

end Conversion

end PersistentId
