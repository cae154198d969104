import PersistentId.Logging.Value

/-!
# PersistentId.Logging.Format

The formats of log lines.

A format is written in one of three styles. In each of them it is a text with fields in it,
and it has to have one at least: `%(name)s`, `{name}` or `$name`.
-/

namespace PersistentId

namespace Logging

/-- The style of a format, by the mark of its fields. -/
inductive Style
  | percent
  | brace
  | dollar
  deriving DecidableEq, Repr

/-- The style of a mark. -/
def Style.ofMark? : String → Option Style
  | "%" => some percent
  | "\x7b" => some brace
  | "$" => some dollar
  | _ => none

/-- Whether nothing follows but perhaps a line end. -/
def isEnd (s : List Char) : Bool := s.isEmpty || s == ['\n']

/-- The text behind some characters of a kind, if there is one at least. -/
def some? (p : Char → Bool) (s : List Char) : Option (List Char) :=
  if (s.head?.map p).getD false then some (s.dropWhile p) else none

/-- The text behind one character of a kind, or the whole text. -/
def skipOne (p : Char → Bool) (s : List Char) : List Char :=
  if (s.head?.map p).getD false then s.drop 1 else s

/-! ### Percent signs -/

/-- The text behind a width or a precision, or the whole text. -/
def skipCount : List Char → List Char
  | '*' :: s => s
  | s => s.dropWhile Text.isDecimalDigit

/-- The text behind a precision with its point, or the whole text. -/
def skipPrecision : List Char → List Char
  | '.' :: s => if (skipCount s).length < s.length then skipCount s else '.' :: s
  | s => s

/-- Whether a field stands in front, behind its percent sign. -/
def isPercentField : List Char → Bool
  | '(' :: s =>
    match some? isWordChar s with
    | some (')' :: s) =>
      let s := skipPrecision (skipCount (s.dropWhile "#0+ -".toList.contains))
      (s.head?.map fun c => "diouxefgcrsa%".toList.contains c.toLower).getD false
    | _ => false
  | _ => false

/-- Whether a text holds a field in the style of percent signs. -/
def hasPercentField : List Char → Bool
  | [] => false
  | c :: rest => (c = '%' && isPercentField rest) || hasPercentField rest

/-! ### Braces -/

/-- A field between braces: its name, its conversion, and how it is laid out. -/
structure BraceField where
  name : List Char
  conversion : Option Char
  layout : List Char

/-- The layout in front of the brace that closes a field, and what follows the brace. Pairs
of braces may stand inside. -/
def braceLayout? (depth : Nat) : List Char → Option (List Char × List Char)
  | [] => none
  | c :: rest =>
    if c = '\x7d' ∧ depth = 0 then some ([], rest)
    else
      let depth := if c = '\x7b' then depth + 1 else if c = '\x7d' then depth - 1 else depth
      (braceLayout? depth rest).map fun (layout, rest) => (c :: layout, rest)

/-- The name of a field and what follows it, from the character on that ends it. Anything
can stand between brackets; `inBrackets` tells whether the text begins there. -/
def braceName? (inBrackets : Bool) : List Char → Option (List Char × List Char)
  | [] => none
  | c :: rest =>
    let longer (inBrackets : Bool) : Option (List Char × List Char) :=
      (braceName? inBrackets rest).map fun (name, rest) => (c :: name, rest)
    if inBrackets then longer (c ≠ ']')
    else if c = '\x7b' then none
    else if c = '\x7d' ∨ c = ':' ∨ c = '!' then some ([], c :: rest)
    else longer (c = '[')

/-- The field behind an opening brace, and what follows it. -/
def braceField? (s : List Char) : Option (BraceField × List Char) :=
  match braceName? false s with
  | some (name, '\x7d' :: rest) => some (⟨name, none, []⟩, rest)
  | some (name, ':' :: rest) =>
    (braceLayout? 0 rest).map fun (layout, rest) => (⟨name, none, layout⟩, rest)
  | some (name, '!' :: c :: '\x7d' :: rest) => some (⟨name, some c, []⟩, rest)
  | some (name, '!' :: c :: ':' :: rest) =>
    (braceLayout? 0 rest).map fun (layout, rest) => (⟨name, some c, layout⟩, rest)
  | _ => none

/-- The fields of a text between braces, where the text is well-formed. A doubled brace is
text. The number bounds the length of the text. -/
def braceFields? : Nat → List Char → Option (List BraceField)
  | _, [] => some []
  | 0, _ => none
  | n + 1, c :: rest =>
    if c = '\x7b' then
      match rest with
      | '\x7b' :: rest => braceFields? n rest
      | _ => do
        let (field, rest) ← braceField? rest
        let fields ← braceFields? n rest
        return field :: fields
    else if c = '\x7d' then
      match rest with
      | '\x7d' :: rest => braceFields? n rest
      | _ => none
    else braceFields? n rest

/-- Whether a text is a list of the parts that can follow the name of a field: names behind
points, and anything in brackets. The number bounds the length of the text. -/
def isFieldPath : Nat → List Char → Bool
  | 0, s => isEnd s
  | n + 1, s =>
    isEnd s ||
      match s with
      | '.' :: s => ((some? isWordChar s).map (isFieldPath n)).getD false
      | '[' :: s =>
        match some? (· ≠ ']') s with
        | some (']' :: s) => isFieldPath n s
        | _ => false
      | _ => false

/-- Whether a field has a name of the right form. -/
def isFieldName (s : List Char) : Bool :=
  ((some? isWordChar s).map (isFieldPath s.length)).getD false

/-- The characters that align a field. -/
def isAlignment (c : Char) : Bool := "<=>^".toList.contains c

/-- The text behind an alignment, which may have a filling in front, or the whole text. -/
def skipAlignment : List Char → List Char
  | c :: d :: s =>
    if isAlignment d && c ≠ '\n' then s else if isAlignment c then d :: s else c :: d :: s
  | s => skipOne isAlignment s

/-- The text behind digits or a name in braces, if one of them stands in front. -/
def braceCount? : List Char → Option (List Char)
  | '\x7b' :: s =>
    match some? isWordChar s with
    | some ('\x7d' :: s) => some s
    | _ => none
  | s => some? Text.isDecimalDigit s

/-- Whether a layout has the right form. -/
def isLayout (s : List Char) : Bool :=
  let s := skipOne (· = '0') (skipOne (· = '#') (skipOne "+ -".toList.contains (skipAlignment s)))
  let s := skipOne ",_".toList.contains ((braceCount? s).getD s)
  let s := match s with
    | '.' :: rest => (braceCount? rest).getD s
    | s => s
  isEnd (skipOne (fun c => "bcdefgnosx%".toList.contains c.toLower) s)

/-- Whether a field has the right form. -/
def BraceField.isValid (f : BraceField) : Bool :=
  (f.name.isEmpty || isFieldName f.name) &&
    (f.conversion.map "rsa".toList.contains).getD true && (f.layout.isEmpty || isLayout f.layout)

/-- Whether a text is a format in the style of braces. -/
def isBraceFormat (s : List Char) : Bool :=
  match braceFields? s.length s with
  | some fields => fields.all (·.isValid) && fields.any fun f => !f.name.isEmpty
  | none => false

/-! ### Dollar signs -/

/-- The text behind a name of letters, digits and underscores that begins with no digit. -/
def plainName? (s : List Char) : Option (List Char) :=
  if (s.head?.map Char.isDigit).getD false then none
  else some? (fun c => c.isAlphanum || c = '_') s

/-- How many fields a text in the style of dollar signs has, where every dollar sign is
doubled or begins a field. The number bounds the length of the text. -/
def dollarFields? : Nat → List Char → Option Nat
  | _, [] => some 0
  | 0, _ => none
  | n + 1, c :: rest =>
    if c ≠ '$' then dollarFields? n rest
    else
      match rest with
      | '$' :: rest => dollarFields? n rest
      | '\x7b' :: s =>
        match plainName? s with
        | some ('\x7d' :: s) => (dollarFields? n s).map (· + 1)
        | _ => none
      | s =>
        match plainName? s with
        | some s => (dollarFields? n s).map (· + 1)
        | none => none

/-- Whether a text is a format in a style. -/
def Style.accepts : Style → List Char → Bool
  | percent, s => hasPercentField s
  | brace, s => isBraceFormat s
  | dollar, s => 0 < (dollarFields? s.length s).getD 0

end Logging

end PersistentId
