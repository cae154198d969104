import PersistentId.Text.LoneUnit
import PersistentId.Text.Printable

/-!
# PersistentId.Text.Quoted

A text shown between quotes, so that its ends and its invisible characters can be
seen.

The quotes are single ones, and double ones where the text holds a single quote but
no double one. The quote in use and the backslash are preceded by a backslash; a
character that cannot be shown is written as its code point in hexadecimal.

Octets are shown the same way behind the letter `b`. Of them only those of printable
ASCII characters are shown as such.
-/

namespace PersistentId

namespace Text

/-- The `width` last hexadecimal digits of a number. -/
def hexDigits : Nat → Nat → List Char
  | 0, _ => []
  | width + 1, n => hexDigits width (n / 16) ++ [Nat.digitChar (n % 16)]

/-- The form of one character between quotes of a given kind. -/
def quotedChar (quote c : Char) : List Char :=
  if c = quote ∨ c = '\\' then ['\\', c]
  else if c = '\n' then ['\\', 'n']
  else if c = '\r' then ['\\', 'r']
  else if c = '\t' then ['\\', 't']
  else if isPrintable c then [c]
  else if c.toNat < 0x100 then '\\' :: 'x' :: hexDigits 2 c.toNat
  else if c.toNat < 0x10000 then '\\' :: 'u' :: hexDigits 4 c.toNat
  else
    match loneUnit? c with
    | some u => '\\' :: 'u' :: hexDigits 4 u
    | none => '\\' :: 'U' :: hexDigits 8 c.toNat

/-- The kind of quotes a text is shown between. -/
def quoteFor (s : List Char) : Char :=
  if s.contains '\'' && !s.contains '"' then '"' else '\''

/-- A text between quotes. -/
def quoted (s : String) : String :=
  let quote := quoteFor s.toList
  String.ofList (quote :: (s.toList.flatMap (quotedChar quote) ++ [quote]))

/-- The form of one octet between quotes of a given kind. -/
def quotedOctet (quote octet : Char) : List Char :=
  if octet.toNat < 0x80 then quotedChar quote octet
  else '\\' :: 'x' :: hexDigits 2 octet.toNat

/-- Octets between quotes. An octet is given as the character of its number. -/
def quotedOctets (octets : List Char) : List Char :=
  let quote := quoteFor octets
  'b' :: quote :: (octets.flatMap (quotedOctet quote) ++ [quote])

end Text

end PersistentId
