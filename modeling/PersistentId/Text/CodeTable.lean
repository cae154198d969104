import PersistentId.Text.Numeral
import PersistentId.Text.Ranges

/-!
# PersistentId.Text.CodeTable

Tables of code points, written as text.

Design points:

* Entries are separated by blanks and line ends. Code points are written in hexadecimal.
* In a set, an entry is one code point or a range: `AA 41-5A`.
* In a map, an entry says what one code point stands for, `C0=41+300`, or what a range
  stands for, code point by code point: `41-5A=61`.
-/

namespace PersistentId

namespace Text

/-- The entries of a table. -/
def entries (s : String) : List (List Char) :=
  let step (state : List (List Char) × List Char) (c : Char) : List (List Char) × List Char :=
    let (done, entry) := state
    if c != ' ' && c != '\n' then (done, c :: entry)
    else if entry.isEmpty then (done, [])
    else (entry.reverse :: done, [])
  let (done, entry) := s.toList.foldl step ([], [])
  (if entry.isEmpty then done else entry.reverse :: done).reverse

/-- The number that hexadecimal digits spell. -/
def natOfHex (s : List Char) : Nat := s.foldl (fun n c => n * 16 + (hexValue? c).getD 0) 0

/-- The pieces of an entry in front of and behind a mark; the second is the first again where
the mark does not occur. -/
def halves (mark : Char) (s : List Char) : List Char × List Char :=
  let front := s.takeWhile (· != mark)
  (front, if front.length < s.length then s.drop (front.length + 1) else front)

/-- The code points of an entry of a set. -/
def rangeOfEntry (s : List Char) : Nat × Nat :=
  let (first, last) := halves '-' s
  (natOfHex first, natOfHex last)

end Text

/-- The set that a table spells. -/
def CharRanges.ofText (s : String) : CharRanges := (Text.entries s).map Text.rangeOfEntry

/-- A run of code points and what they stand for. -/
structure CodeRun where
  first : Nat
  last : Nat
  /-- What the first one stands for. In a longer run this is one code point, and it moves along
  with the run. -/
  image : List Nat
  deriving DecidableEq, Repr

/-- What code points stand for. -/
abbrev CodeMap := List CodeRun

/-- The numbers between plus signs. -/
def Text.natsOfHex (s : List Char) : List Nat :=
  let step (c : Char) (state : List Nat × List Char) : List Nat × List Char :=
    if c = '+' then (natOfHex state.2 :: state.1, []) else (state.1, c :: state.2)
  let (rest, first) := s.foldr step ([], [])
  natOfHex first :: rest

/-- The run that an entry of a map spells. -/
def CodeRun.ofEntry (s : List Char) : CodeRun :=
  let (codes, image) := Text.halves '=' s
  let (first, last) := Text.rangeOfEntry codes
  ⟨first, last, Text.natsOfHex image⟩

/-- The map that a table spells. -/
def CodeMap.ofText (s : String) : CodeMap := (Text.entries s).map CodeRun.ofEntry

/-- What a code point stands for, if it is in the map. -/
def CodeMap.image? (m : CodeMap) (n : Nat) : Option (List Nat) :=
  (m.find? fun r => r.first ≤ n && n ≤ r.last).map fun r => r.image.map (· + (n - r.first))

end PersistentId
