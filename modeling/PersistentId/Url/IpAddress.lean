import PersistentId.Text.Numeral
import PersistentId.Text.Split

/-!
# PersistentId.Url.IpAddress

Addresses of the internet protocol, as they stand in the host of a URL.

Design points:

* Version 4 is read in its strict form: four decimal numbers up to 255, without
  leading zeros.
* Version 6 is read as eight groups of sixteen bits. Two colons in a row stand for one
  or more zero groups, once at most; the last two groups may be written as an address
  of version 4.
* Writing leaves out the first of the longest runs of two or more zero groups.
-/

namespace PersistentId

namespace IpAddress

/-- One number of an address of version 4. -/
def octet? (s : List Char) : Option Nat :=
  if s.isEmpty || 3 < s.length || !s.all Char.isDigit then none
  else if 1 < s.length && s.head? == some '0' then none
  else
    let n := Text.natOfDigits s
    if n ≤ 255 then some n else none

/-- The four numbers of an address of version 4. -/
def four? (s : List Char) : Option (List Nat) :=
  let ps := Text.pieces '.' s
  if ps.length = 4 then ps.mapM octet? else none

/-- One group of an address of version 6. -/
def group? (s : List Char) : Option Nat :=
  if s.isEmpty || 4 < s.length then none
  else (s.mapM Text.hexValue?).map fun ds => ds.foldl (fun n d => n * 16 + d) 0

/-- The groups that pieces spell. Only the last piece can be an address of version 4. -/
def groups? : List (List Char) → Option (List Nat)
  | [] => some []
  | [p] =>
    if p.contains '.' then
      match four? p with
      | some [a, b, c, d] => some [a * 256 + b, c * 256 + d]
      | _ => none
    else (group? p).map ([·])
  | p :: ps => do
    let g ← group? p
    let gs ← groups? ps
    return g :: gs

/-- The groups of one side of the two colons. -/
def side? (s : List Char) : Option (List Nat) :=
  if s.isEmpty then some [] else groups? (Text.pieces ':' s)

/-- Splits at the first two colons in a row. -/
def splitGap? : List Char → Option (List Char × List Char)
  | ':' :: ':' :: rest => some ([], rest)
  | c :: rest => (splitGap? rest).map fun (front, back) => (c :: front, back)
  | [] => none

/-- The eight groups of an address of version 6. -/
def six? (s : List Char) : Option (List Nat) :=
  match splitGap? s with
  | none => do
    let gs ← groups? (Text.pieces ':' s)
    if gs.length = 8 then some gs else none
  | some (front, back) => do
    if front.contains '.' then none
    let f ← side? front
    let b ← side? back
    if f.length + b.length ≤ 7 then
      some (f ++ List.replicate (8 - (f.length + b.length)) 0 ++ b)
    else none

/-- How many groups in front are zero. -/
def zeroRun (gs : List Nat) : Nat := (gs.takeWhile (· == 0)).length

/-- The length of the longest run of zero groups. -/
def longestRun : List Nat → Nat
  | [] => 0
  | g :: gs => max (zeroRun (g :: gs)) (longestRun gs)

/-- A group in lower-case digits, without leading zeros. -/
def groupChars (n : Nat) : List Char := Nat.toDigits 16 n

/-- Groups with colons between them. -/
def joinGroups (gs : List Nat) : List Char := [':'].intercalate (gs.map groupChars)

/-- The groups in front of the first run of a given length, and those behind it. -/
def splitRun (length : Nat) : List Nat → List Nat × List Nat
  | [] => ([], [])
  | g :: gs =>
    if zeroRun (g :: gs) = length then ([], (g :: gs).drop length)
    else
      let (front, back) := splitRun length gs
      (g :: front, back)

/-- An address of version 6 in its short form. -/
def sixChars (gs : List Nat) : List Char :=
  let run := longestRun gs
  if run < 2 then joinGroups gs
  else
    let (front, back) := splitRun run gs
    joinGroups front ++ [':', ':'] ++ joinGroups back

end IpAddress

end PersistentId
