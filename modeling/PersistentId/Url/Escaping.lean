import PersistentId.Text.Percent

/-!
# PersistentId.Url.Escaping

Bringing a part of a URL into its canonical spelling.

Design points:

* An `Escaping` says which ASCII characters a part may hold as they are. Every other
  character becomes its escapes.
* An escape that is there already is kept, with upper-case digits, unless it stands for
  a character that may stand as it is; such an escape is undone.
* Some characters mean something else when escaped: their escapes are never undone.
* A percent sign that begins no escape is escaped itself.
-/

namespace PersistentId

/-- The spelling rules of one part of a URL. -/
structure Escaping where
  /-- The ASCII characters that may stand as they are. -/
  plain : Char → Bool
  /-- The plain characters whose escapes are kept. -/
  guarded : Char → Bool
  /-- Whether a blank is written as a plus sign. -/
  plusForBlank : Bool

namespace Escaping

/-- Letters, digits and the marks that never need an escape. -/
def isUnreserved (c : Char) : Bool :=
  (c.toNat < 0x80 && c.isAlphanum) || c == '-' || c == '.' || c == '_' || c == '~'

/-- What every part may hold: unreserved characters and most delimiters. -/
def isCommon (c : Char) : Bool := isUnreserved c || "!$'()*,".toList.contains c

/-- User names and passwords. -/
def login : Escaping where
  plain c := isCommon c || "+&=;".toList.contains c
  guarded _ := false
  plusForBlank := false

/-- Paths. A slash is told apart from its escape. -/
def path : Escaping where
  plain c := isCommon c || "+&=;@:/".toList.contains c
  guarded c := c == '/' || c == '+'
  plusForBlank := false

/-- Queries. The delimiters of fields are told apart from their escapes. -/
def query : Escaping where
  plain c := isCommon c || "?/:@=+&;".toList.contains c
  guarded c := "=+&;".toList.contains c
  plusForBlank := true

/-- Fragments. -/
def fragment : Escaping where
  plain c := isCommon c || "+&=;?/:@".toList.contains c
  guarded _ := false
  plusForBlank := false

/-- The spelling of a character that is no escape. -/
def ofChar (e : Escaping) (c : Char) : List Char :=
  if e.plusForBlank && c == ' ' then ['+']
  else if c.toNat < 0x80 && e.plain c then [c]
  else Percent.escape c

/-- The spelling of an octet that was escaped. -/
def ofOctet (e : Escaping) (n : Nat) : List Char :=
  let c := Char.ofNat n
  if n < 0x80 && e.plain c && !e.guarded c then [c] else Percent.escapeOctet n

/-- The canonical spelling of a part. -/
def canonical (e : Escaping) (s : List Char) : List Char :=
  match s with
  | [] => []
  | c :: rest =>
    match h : Percent.octet? (c :: rest) with
    | some (n, after) =>
      have : after.length < rest.length + 1 := Percent.octet?_shorter h
      e.ofOctet n ++ canonical e after
    | none => e.ofChar c ++ canonical e rest
  termination_by s.length

end Escaping

end PersistentId
