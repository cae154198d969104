import PersistentId.Json.Basic
import PersistentId.Text.LoneUnit
import PersistentId.Text.Numeral

/-!
# PersistentId.Json.Reader

Reading a JSON document.

Design points:

* Reading goes from left to right and stops at the first fault. Each function takes
  the characters that are left and gives what it read together with the characters
  left behind it.
* A fault names its place by the number of characters that are *left* there, so no
  function counts positions. `Fault.position` turns that into a position once the
  whole document is at hand.
* Where a name occurs twice in an object, the field keeps its first place and takes
  the last value.
* Beside numbers, the three words `NaN`, `Infinity` and `-Infinity` are read as
  decimals.
* Values can be nested as deep as a reader admits (`readWithin`), and integers have a
  bounded number of digits.
* Half a surrogate pair that stands alone is kept (`Text.ofLoneUnit`).
-/

namespace PersistentId

namespace Json

/-! ### Faults -/

/-- What a document can have wrong at some place. -/
inductive Reason
  | byteOrderMark
  | valueExpected
  | nameExpected
  | colonExpected
  | commaExpected
  | unterminatedText
  | controlCharacter
  | unknownEscape
  | malformedUnit
  | extraData
  /-- A list is nested too deep. -/
  | deepList
  /-- An object is nested too deep. -/
  | deepObject
  /-- An integer has too many digits. -/
  | longInteger (digits : Nat)
  deriving DecidableEq, Repr

/-- An integer has no more digits than this. -/
def longestInteger : Nat := 4300

/-- How a reason is described. -/
def Reason.text : Reason → String
  | byteOrderMark => "Unexpected UTF-8 BOM (decode using utf-8-sig)"
  | valueExpected => "Expecting value"
  | nameExpected => "Expecting property name enclosed in double quotes"
  | colonExpected => "Expecting ':' delimiter"
  | commaExpected => "Expecting ',' delimiter"
  | unterminatedText => "Unterminated string starting at"
  | controlCharacter => "Invalid control character at"
  | unknownEscape => "Invalid \\escape"
  | malformedUnit => "Invalid \\uXXXX escape"
  | extraData => "Extra data"
  | deepList => deep "array"
  | deepObject => deep "object"
  | longInteger digits =>
    "Exceeds the limit (" ++ toString longestInteger ++
      " digits) for integer string conversion: value has " ++ toString digits ++
      " digits; use sys.set_int_max_str_digits() to increase the limit"
where
  deep (kind : String) : String :=
    "maximum recursion depth exceeded while decoding a JSON " ++ kind ++ " from a unicode string"

/-- Whether the place belongs to the description. Limits are not a matter of places. -/
def Reason.isLocal : Reason → Bool
  | deepList | deepObject | longInteger _ => false
  | _ => true

/-- Why a document cannot be read. -/
structure Fault where
  reason : Reason
  /-- How many characters of the document are left at the place of the fault. -/
  remaining : Nat
  deriving DecidableEq, Repr

/-- The number of characters in front of the fault. -/
def Fault.position (f : Fault) (document : List Char) : Nat := document.length - f.remaining

/-- The full description of a fault. Lines and columns count from one. -/
def Fault.message (f : Fault) (document : List Char) : String :=
  let position := f.position document
  let before := document.take position
  let line := before.count '\n' + 1
  let column := (before.reverse.takeWhile (· != '\n')).length + 1
  if f.reason.isLocal then
    f.reason.text ++ ": line " ++ toString line ++ " column " ++ toString column ++
      " (char " ++ toString position ++ ")"
  else f.reason.text

/-- The blanks that may stand between the parts of a document. -/
def isBlank (c : Char) : Bool := c == ' ' || c == '\t' || c == '\n' || c == '\r'

/-- The characters behind leading blanks. -/
def skipBlanks (s : List Char) : List Char := s.dropWhile isBlank

/-! ### Texts -/

/-- The 16-bit unit that four hexadecimal digits spell. -/
def unit? : List Char → Option Nat
  | [a, b, c, d] => do
    let a ← Text.hexValue? a
    let b ← Text.hexValue? b
    let c ← Text.hexValue? c
    let d ← Text.hexValue? d
    return ((a * 16 + b) * 16 + c) * 16 + d
  | _ => none

/-- The first half of a surrogate pair. -/
def isHighUnit (u : Nat) : Bool := 0xD800 ≤ u && u ≤ 0xDBFF

/-- The second half of a surrogate pair. -/
def isLowUnit (u : Nat) : Bool := 0xDC00 ≤ u && u ≤ 0xDFFF

/-- The character of one unit that has no partner. -/
def ofUnit (u : Nat) : Char :=
  if Text.isHalf u then Text.ofLoneUnit u else Char.ofNat u

/-- The character of a surrogate pair. -/
def ofPair (high low : Nat) : Char :=
  Char.ofNat (0x10000 + (high - 0xD800) * 0x400 + (low - 0xDC00))

/-- The digits of the escape that follows, if there is room for one: something has to
stand behind its four digits. -/
def nextEscape? : List Char → Option (List Char)
  | '\\' :: 'u' :: t => if t.length < 5 then none else some t
  | _ => none

/-- Reads the units of an escape behind its letter. Something has to follow the four
digits. A second escape is taken along where the two are a surrogate pair. -/
def scanUnits (s : List Char) : Except Fault (Char × List Char) :=
  match unit? (s.take 4) with
  | none => .error ⟨.malformedUnit, s.length + 1⟩
  | some u =>
    if s.length < 5 then .error ⟨.malformedUnit, s.length + 1⟩
    else if isHighUnit u then
      match nextEscape? (s.drop 4) with
      | none => .ok (ofUnit u, s.drop 4)
      | some t =>
        match unit? (t.take 4) with
        | none => .error ⟨.malformedUnit, t.length + 1⟩
        | some v =>
          -- A second unit that makes no pair is left to be read on its own.
          if isLowUnit v then .ok (ofPair u v, t.drop 4) else .ok (ofUnit u, s.drop 4)
    else .ok (ofUnit u, s.drop 4)

/-- The character an escape letter stands for. -/
def ofEscapeLetter? : Char → Option Char
  | '"' => some '"'
  | '\\' => some '\\'
  | '/' => some '/'
  | 'b' => some '\x08'
  | 'f' => some '\x0c'
  | 'n' => some '\n'
  | 'r' => some '\r'
  | 't' => some '\t'
  | _ => none

/-- Reads an escape behind its backslash. `opening` is the place of the text's first
quote. -/
def scanEscape (opening : Nat) : List Char → Except Fault (Char × List Char)
  | [] => .error ⟨.unterminatedText, opening⟩
  | letter :: s =>
    if letter = 'u' then scanUnits s
    else
      match ofEscapeLetter? letter with
      | some c => .ok (c, s)
      | none => .error ⟨.unknownEscape, s.length + 2⟩

theorem nextEscape?_length {s t : List Char} (h : nextEscape? s = some t) :
    t.length ≤ s.length := by
  unfold nextEscape? at h
  split at h
  · split at h
    · exact nomatch h
    · cases h
      simp only [List.length_cons]
      omega
  · exact nomatch h

theorem scanUnits_rest {s r : List Char} {c : Char} (h : scanUnits s = .ok (c, r)) :
    r.length ≤ s.length := by
  have hdrop : (s.drop 4).length ≤ s.length := by simp
  unfold scanUnits at h
  split at h
  · exact nomatch h
  · split at h
    · exact nomatch h
    · split at h
      · split at h
        · exact (Prod.mk.inj (Except.ok.inj h)).2 ▸ hdrop
        · rename_i t ht
          have := nextEscape?_length ht
          split at h
          · exact nomatch h
          · split at h
            · rw [← (Prod.mk.inj (Except.ok.inj h)).2, List.length_drop]
              omega
            · exact (Prod.mk.inj (Except.ok.inj h)).2 ▸ hdrop
      · exact (Prod.mk.inj (Except.ok.inj h)).2 ▸ hdrop

theorem scanEscape_rest {opening : Nat} {s r : List Char} {c : Char}
    (h : scanEscape opening s = .ok (c, r)) : r.length < s.length := by
  cases s with
  | nil => exact nomatch h
  | cons letter s =>
    simp only [scanEscape] at h
    split at h
    · exact Nat.lt_succ_of_le (scanUnits_rest h)
    · split at h
      · rw [← (Prod.mk.inj (Except.ok.inj h)).2]
        exact Nat.lt_succ_self _
      · exact nomatch h

/-- Reads a text behind its first quote, which stands where `opening` characters are
left. -/
def scanText (opening : Nat) (s : List Char) : Except Fault (List Char × List Char) :=
  match s with
  | [] => .error ⟨.unterminatedText, opening⟩
  | c :: rest =>
    if c = '"' then .ok ([], rest)
    else if c = '\\' then
      match h : scanEscape opening rest with
      | .error fault => .error fault
      | .ok (d, after) =>
        have : after.length < rest.length + 1 :=
          Nat.lt_succ_of_lt (scanEscape_rest h)
        (scanText opening after).map fun (ds, r) => (d :: ds, r)
    else if c.toNat < 0x20 then .error ⟨.controlCharacter, rest.length + 1⟩
    else (scanText opening rest).map fun (ds, r) => (c :: ds, r)
  termination_by s.length

/-! ### Numbers and words -/

/-- Splits off the digits in front. -/
def digits (s : List Char) : List Char × List Char :=
  (s.takeWhile Char.isDigit, s.dropWhile Char.isDigit)

/-- Splits off a minus sign in front. -/
def minus : List Char → List Char × List Char
  | '-' :: s => (['-'], s)
  | s => ([], s)

/-- Splits off the digits in front of the point: a zero stands alone. -/
def wholePart : List Char → List Char × List Char
  | '0' :: s => (['0'], s)
  | s => digits s

/-- Splits off a point with digits behind it, or nothing. -/
def fraction (s : List Char) : List Char × List Char :=
  match s with
  | '.' :: t => if (digits t).1 = [] then ([], s) else ('.' :: (digits t).1, (digits t).2)
  | _ => ([], s)

/-- Splits off an exponent, or nothing. -/
def exponent (s : List Char) : List Char × List Char :=
  match s with
  | e :: t =>
    if e = 'e' ∨ e = 'E' then
      match t with
      | sign :: u =>
        if sign = '+' ∨ sign = '-' then
          if (digits u).1 = [] then ([], s) else (e :: sign :: (digits u).1, (digits u).2)
        else if (digits t).1 = [] then ([], s) else (e :: (digits t).1, (digits t).2)
      | [] => ([], s)
    else ([], s)
  | [] => ([], s)

/-- Reads a number. -/
def scanNumber (s : List Char) : Except Fault (Number × List Char) :=
  let (sign, afterSign) := minus s
  let (whole, afterWhole) := wholePart afterSign
  let (frac, afterFrac) := fraction afterWhole
  let (exp, rest) := exponent afterFrac
  if whole = [] then .error ⟨.valueExpected, s.length⟩
  else if frac = [] ∧ exp = [] then
    if longestInteger < whole.length then .error ⟨.longInteger whole.length, s.length⟩
    else
      let n : Int := Text.natOfDigits whole
      .ok (.integer (if sign = [] then n else -n), rest)
  else
    .ok (.decimal (String.ofList (sign ++ whole ++ frac ++ exp)), rest)

/-- The words that are values, with the value of each. -/
def words : List (List Char × Json) :=
  [ ("null".toList, .null), ("true".toList, .bool true), ("false".toList, .bool false),
    ("NaN".toList, .number (.decimal "NaN")), ("Infinity".toList, .number (.decimal "Infinity")),
    ("-Infinity".toList, .number (.decimal "-Infinity")) ]

/-- Reads a word or a number. -/
def scanAtom (s : List Char) : Except Fault (Json × List Char) :=
  match words.find? fun w => w.1.isPrefixOf s with
  | some w => .ok (w.2, s.drop w.1.length)
  | none => (scanNumber s).map fun (n, r) => (.number n, r)

/-! ### Values -/

mutual

/-- Reads a value. The first argument bounds the length of what is read; the length of the
document is enough. The second one is how deep values may be nested. -/
def scanValue : Nat → Nat → List Char → Except Fault (Json × List Char)
  | 0, _, s => .error ⟨.valueExpected, s.length⟩
  | n + 1, depth, s =>
    match s with
    | '"' :: r => (scanText s.length r).map fun (cs, r) => (.text (String.ofList cs), r)
    | '[' :: r =>
      match depth with
      | 0 => .error ⟨.deepList, s.length⟩
      | depth + 1 =>
        match skipBlanks r with
        | ']' :: r => .ok (.list [], r)
        | r => (scanElements n depth r).map fun (xs, r) => (.list xs, r)
    | '\x7b' :: r =>
      match depth with
      | 0 => .error ⟨.deepObject, s.length⟩
      | depth + 1 =>
        match skipBlanks r with
        | '\x7d' :: r => .ok (.object [], r)
        | r => (scanFields n depth [] r).map fun (fs, r) => (.object fs, r)
    | s => scanAtom s

/-- Reads the elements of a list up to its closing bracket. -/
def scanElements : Nat → Nat → List Char → Except Fault (List Json × List Char)
  | 0, _, s => .error ⟨.valueExpected, s.length⟩
  | n + 1, depth, s => do
    let (x, r) ← scanValue n depth s
    match skipBlanks r with
    | ']' :: r => return ([x], r)
    | ',' :: r =>
      let (xs, r) ← scanElements n depth (skipBlanks r)
      return (x :: xs, r)
    | r => throw ⟨.commaExpected, r.length⟩

/-- Reads the fields of an object up to its closing brace, behind the fields that were
read before. -/
def scanFields : Nat → Nat → List (String × Json) → List Char →
    Except Fault (List (String × Json) × List Char)
  | 0, _, _, s => .error ⟨.nameExpected, s.length⟩
  | n + 1, depth, fields, s =>
    match s with
    | '"' :: r => do
      let (name, r) ← scanText s.length r
      match skipBlanks r with
      | ':' :: r =>
        let (x, r) ← scanValue n depth (skipBlanks r)
        let fields := setField (String.ofList name) x fields
        match skipBlanks r with
        | '\x7d' :: r => return (fields, r)
        | ',' :: r => scanFields n depth fields (skipBlanks r)
        | r => throw ⟨.commaExpected, r.length⟩
      | r => throw ⟨.colonExpected, r.length⟩
    | s => .error ⟨.nameExpected, s.length⟩

end

/-- Reads a whole document whose values are nested no deeper than given. -/
def readWithin (depth : Nat) (document : List Char) : Except Fault Json :=
  if document.head? = some '\uFEFF' then .error ⟨.byteOrderMark, document.length⟩
  else
    match scanValue (2 * document.length + 1) depth (skipBlanks document) with
    | .error fault => .error fault
    | .ok (value, rest) =>
      match skipBlanks rest with
      | [] => .ok value
      | rest => .error ⟨.extraData, rest.length⟩

/-- Reads a whole document. It cannot be nested deeper than it is long. -/
def readChars (document : List Char) : Except Fault Json :=
  readWithin document.length document

/-- Reads a whole document from text. -/
def read (document : String) : Except Fault Json := readChars document.toList

end Json

end PersistentId
