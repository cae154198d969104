import PersistentId.Text.LowercaseTable

/-!
# PersistentId.Text.Lowercase

Text in lower case.

Design points:

* Every character has a lower-case form of its own (`lowerChar`), which for one
  letter, `İ`, takes two characters.
* The capital sigma alone depends on its surroundings: at the end of a word it
  becomes `ς`, elsewhere `σ`. A word ends where no letter follows, and it must have
  a letter in front of the sigma.
-/

namespace PersistentId

namespace Text

/-- The lower-case form of a character, wherever it stands. -/
def lowerChar (c : Char) : List Char :=
  if c.toNat < 0x80 then [c.toLower]
  else if c = '\u0130' then ['i', '\u0307']
  else
    match caseRuns.find? fun r =>
        r.first ≤ c.toNat && c.toNat ≤ r.last && (c.toNat - r.first) % r.step == 0 with
    | some r => [Char.ofNat (c.toNat + r.shift).toNat]
    | none => [c]

/-- Whether the nearest character that matters to a word is a letter. -/
def meetsLetter (s : List Char) : Bool :=
  match s.dropWhile caseIgnorable.holds with
  | [] => false
  | c :: _ => cased.holds c

/-- The lower-case form of a text of which the characters in `before`, nearest first,
stand in front. -/
def lowerFrom (before : List Char) : List Char → List Char
  | [] => []
  | c :: rest =>
    let here :=
      if c = 'Σ' then
        if meetsLetter before && !meetsLetter rest then ['ς'] else ['σ']
      else lowerChar c
    here ++ lowerFrom (c :: before) rest

/-- A text in lower case. -/
def lowercase (s : String) : String := String.ofList (lowerFrom [] s.toList)

end Text

end PersistentId
