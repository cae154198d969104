import PersistentId.Text.Split
import PersistentId.Text.Utf8

/-!
# PersistentId.Url.Punycode

The ASCII form of host names outside ASCII.

Design points:

* The ASCII characters of a label come first, then a hyphen. Every other character is
  **inserted** into what is there already, by ascending code point and from left to right.
* All possible insertions can be walked through in order: through the places of the text for
  one code point, then for the next one. An insertion is written as its distance on this walk
  from the insertion before it.
* A distance is written in digits whose weight depends on the distances before it (`biasOf`),
  so that similar distances take few digits.
-/

namespace PersistentId

namespace Punycode

/-! ### Distances -/

/-- A digit: letters first, then decimal digits. -/
def digit (n : Nat) : Char := Char.ofNat (if n < 26 then 97 + n else 22 + n)

/-- The least value of a digit that is not the last one, at a place that counts in steps
of 36. -/
def threshold (place bias : Nat) : Nat := max 1 (min 26 (place - bias))

theorem threshold_bounds (place bias : Nat) :
    1 ≤ threshold place bias ∧ threshold place bias ≤ 26 := by
  constructor
  · exact Nat.le_max_left _ _
  · exact Nat.max_le.2 ⟨by decide, Nat.min_le_left _ _⟩

/-- The digits of a distance. -/
def digits (bias place n : Nat) : List Char :=
  let least := threshold place bias
  if n < least then [digit n]
  else
    digit (least + (n - least) % (36 - least)) ::
      digits bias (place + 36) ((n - least) / (36 - least))
  termination_by n
  decreasing_by
    obtain ⟨hpos, -⟩ := threshold_bounds place bias
    have hdiv := Nat.div_le_self (n - threshold place bias) (36 - threshold place bias)
    omega

/-- The bias that suits distances of a given size. -/
def biasOf (n : Nat) : Nat :=
  if 455 < n then 36 + biasOf (n / 35) else 36 * n / (n + 38)
  termination_by n
  decreasing_by omega

/-- The bias behind a distance, where `written` characters are there. The first distance is
as large as the first code point, so little is made of it. -/
def adapt (distance written : Nat) (isFirst : Bool) : Nat :=
  let even := distance / (if isFirst then 700 else 2)
  biasOf (even + even / written)

/-! ### Insertions -/

/-- The insertion of one character. -/
structure Insertion where
  code : Nat
  /-- How many of the characters that are there already stand in front of it. -/
  index : Nat
  /-- How many characters are there already. -/
  written : Nat
  deriving DecidableEq, Repr

/-- The insertions of one code point into a label. Of the characters there already, `index`
were passed, and there are `written` in all. -/
def insertionsOf (code index written : Nat) : List Char → List Insertion
  | [] => []
  | c :: rest =>
    if c.toNat < code then insertionsOf code (index + 1) written rest
    else if c.toNat = code then
      ⟨code, index, written⟩ :: insertionsOf code (index + 1) (written + 1) rest
    else insertionsOf code index written rest

/-- The code points of a label that lie outside ASCII, ascending, each once. -/
def extended (label : List Char) : List Nat :=
  (((label.map Char.toNat).filter (0x80 ≤ ·)).mergeSort fun m n => decide (m ≤ n)).eraseDups

/-- The insertions that lead from the ASCII characters of a label to all of it. -/
def insertions (label : List Char) : List Insertion :=
  (extended label).flatMap fun code =>
    insertionsOf code 0 (label.countP fun c => c.toNat < code) label

/-- The digits of insertions, where the walk stands at a place of a code point. -/
def walk (bias code index : Nat) (isFirst : Bool) : List Insertion → List Char
  | [] => []
  | x :: rest =>
    let distance := (x.code - code) * (x.written + 1) + x.index - index
    digits bias 36 distance ++
      walk (adapt distance (x.written + 1) isFirst) x.code (x.index + 1) false rest

/-! ### Labels -/

/-- The ASCII form of a label, without the mark in front. -/
def encode (label : List Char) : List Char :=
  let basic := label.filter fun c => c.toNat < 0x80
  (if basic.isEmpty then [] else basic ++ ['-']) ++ walk 72 0x80 0 true (insertions label)

/-- What the ASCII form of a label begins with. -/
def mark : List Char := ['x', 'n', '-', '-']

/-- The ASCII form of a label of a host name. -/
def label (s : List Char) : List Char :=
  if Utf8.isAscii s then s else mark ++ encode s

/-! ### Reading -/

/-- The value of a digit, in either case. -/
def digitValue? (c : Char) : Option Nat :=
  let n := c.toLower.toNat
  if 97 ≤ n ∧ n < 123 then some (n - 97) else if 48 ≤ n ∧ n < 58 then some (n - 22) else none

/-- The distance whose digits stand in front, each of them counted `weight` times, and what
follows them. -/
def distance? (bias place weight : Nat) : List Char → Option (Nat × List Char)
  | [] => none
  | c :: rest => do
    let d ← digitValue? c
    let least := threshold place bias
    if d < least then some (d * weight, rest)
    else
      let (n, rest) ← distance? bias (place + 36) (weight * (36 - least)) rest
      some (d * weight + n, rest)

theorem distance?_length {bias place weight n : Nat} {s rest : List Char}
    (h : distance? bias place weight s = some (n, rest)) : rest.length < s.length := by
  induction s generalizing place weight n with
  | nil => exact nomatch h
  | cons c s ih =>
    simp only [distance?, Option.bind_eq_bind, Option.bind_eq_some_iff] at h
    obtain ⟨d, -, h⟩ := h
    split at h
    · cases h; simp
    · obtain ⟨⟨m, r⟩, hm, h⟩ := Option.bind_eq_some_iff.1 h
      cases h
      exact Nat.lt_succ_of_lt (ih hm)

/-- The characters that the insertions written in `s` make of those that are there already,
where the walk stands at a place of a code point. -/
def insertAll (bias code index : Nat) (isFirst : Bool) (there s : List Char) :
    Option (List Char) :=
  if s.isEmpty then some there
  else
    match h : distance? bias 36 1 s with
    | none => none
    | some (distance, rest) =>
      have := distance?_length h
      let places := there.length + 1
      let code := code + (index + distance) / places
      let index := (index + distance) % places
      let c := Char.ofNat code
      if c.toNat = code then
        insertAll (adapt distance places isFirst) code (index + 1) false
          (there.take index ++ c :: there.drop index) rest
      else none
  termination_by s.length

/-- The label that an ASCII form, without the mark in front, stands for. -/
def decode? (s : List Char) : Option (List Char) :=
  let (basic, rest) := (Text.cutLast? '-' s).getD ([], s)
  insertAll 72 0x80 0 true basic rest

end Punycode

end PersistentId
