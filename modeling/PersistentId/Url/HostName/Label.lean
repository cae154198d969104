import PersistentId.Text.Direction
import PersistentId.Text.Script
import PersistentId.Url.HostName.Mapping

/-!
# PersistentId.Url.HostName.Label

The labels between the full stops of a host name.

Design points:

* A label is made of letters, digits and marks in their simple form, and of hyphens inside it.
* Some characters are good only in some surroundings (`suits`).
* A label with letters of a script that is written from right to left must not be mixed with
  other letters, so that it cannot be shown in a misleading order (`hasOrder`).
-/

namespace PersistentId

namespace HostName

/-! ### Characters -/

/-- Characters of labels besides letters in their simple form: the hyphen is one of them. -/
def further : CharRanges := .ofText "2D DF 3C2 6FD-6FE F0B 3007"

/-- Letters and marks of which no label is made: old vowels and consonants, fillers,
and marks that only vary the character in front of them. -/
def excluded : CharRanges := .ofText "
  34F 640 7FA 1100-11FF 17B4-17B5 180B-180D 180F 20D0-20DC 20E1 20E5-20F0 302E-302F 3031-3035 303B
  A960-A97C D7B0-D7C6 D7CB-D7FB FE00-FE0F 1D165-1D169 1D16D-1D172 1D17B-1D182 1D185-1D18B
  1D1AA-1D1AD 1D242-1D244 E0100-E01EF"

/-- Whether a label may hold a character, whatever stands around it. -/
def isFree (c : Char) : Bool :=
  further.holds c || (Text.letters.holds c && !excluded.holds c && Text.isSimple c)

/-- A digit of Arabic numbers. -/
def isArabicDigit (c : Char) : Bool := 0x660 ≤ c.toNat && c.toNat ≤ 0x669

/-- A digit of eastern Arabic numbers. -/
def isEasternDigit (c : Char) : Bool := 0x6F0 ≤ c.toNat && c.toNat ≤ 0x6F9

/-- Whether the nearest letter, passing over what does not keep letters from joining, is of a
kind. -/
def meets (p : Char → Bool) (s : List Char) : Bool :=
  (s.dropWhile Text.isTransparent).head?.any p

/-- Whether a character has a mark in front of it that leaves out a vowel. -/
def followsVirama (before : List Char) : Bool :=
  before.head?.any fun c => Text.combiningClass c.toNat == 9

/-- Whether letters join across a place. -/
def joinsAcross (before after : List Char) : Bool :=
  meets (fun c => Text.joinsNext.holds c || Text.joinsBoth.holds c) before &&
    meets (fun c => Text.joinsPrevious.holds c || Text.joinsBoth.holds c) after

/-- Whether a joiner, or a character that keeps letters from joining, stands where it makes a
difference. The characters in front come nearest first. -/
def joins (before : List Char) (c : Char) (after : List Char) : Bool :=
  followsVirama before || (c = '\u200C' && joinsAcross before after)

/-- Whether a character that a label may hold in some surroundings has them. The characters in
front come nearest first. -/
def suits (before : List Char) (c : Char) (after : List Char) : Bool :=
  let all := before ++ after
  match c with
  | '\u200C' | '\u200D' => joins before c after
  | '·' => before.head? == some 'l' && after.head? == some 'l'
  | '͵' => after.head?.any Text.greek.holds
  | '׳' | '״' => before.head?.any Text.hebrew.holds
  | '・' => all.any Text.japanese.holds
  | c =>
    if isArabicDigit c then !all.any isEasternDigit
    else if isEasternDigit c then !all.any isArabicDigit
    else false

/-- Whether every character of a label may stand where it stands. -/
def hasGoodCharacters (before : List Char) : List Char → Bool
  | [] => true
  | c :: after => (isFree c || suits before c after) && hasGoodCharacters (c :: before) after

/-! ### Direction -/

/-- Whether a label has to be checked for the order of its letters. -/
def isMixed (s : List Char) : Bool :=
  s.any fun c =>
    match Text.direction c with
    | .rightToLeft | .arabicLetter | .arabicNumber => true
    | _ => false

/-- The direction of the last character, marks apart. -/
def lastDirection? (directions : List Text.Direction) : Option Text.Direction :=
  (directions.reverse.dropWhile (· == .nonspacing)).head?

/-- Whether a label can be shown in one order only: it begins with a letter, holds no letter of
the other direction, has digits of one kind, and ends in a letter or a digit. -/
def hasOrder (s : List Char) : Bool :=
  let ds := s.map Text.direction
  match ds.head? with
  | some .rightToLeft | some .arabicLetter =>
    let last := lastDirection? ds
    !ds.contains .leftToRight && !(ds.contains .arabicNumber && ds.contains .europeanNumber) &&
      last != some .neutral
  | some .leftToRight =>
    let last := lastDirection? ds
    ds.all (fun d => d != .rightToLeft && d != .arabicLetter && d != .arabicNumber) &&
      (last == some .leftToRight || last == some .europeanNumber)
  | _ => false

/-! ### Labels -/

/-- No hyphen at the ends of a label, and not two where a mark of the written form ends. -/
def hasGoodHyphens (s : List Char) : Bool :=
  s.head? != some '-' && s.getLast? != some '-' && (s.drop 2).take 2 != ['-', '-']

/-- Whether a text is a label. -/
def isLabel (s : List Char) : Bool :=
  !s.isEmpty && Text.normalize Text.canonical s == s && hasGoodHyphens s &&
    !s.head?.any Text.isMark && hasGoodCharacters [] s && (!isMixed s || hasOrder s)

end HostName

end PersistentId
