import PersistentId.Url.HostName.Label
import PersistentId.Url.HostName.Older

/-!
# PersistentId.Url.HostName

Host names in ASCII.

Design points:

* A name that is in ASCII takes lower case and is not looked at any further.
* Any other name is brought into its spelling, and every label of it is checked. A label
  outside ASCII takes its written form (`Punycode`).
* Where that fails, the older rules decide, which refuse less.
* A browser refuses less, too, but follows the newer spelling (`browserForm?`).
-/

namespace PersistentId

namespace HostName

/-- A name of more characters is not looked at. -/
def longestInput : Nat := 1024

/-- The text that the written form of a label stands for. -/
def unwritten? (s : List Char) : Option (List Char) :=
  let rest := s.drop Punycode.mark.length
  if rest.isEmpty || rest.getLast? = some '-' then none else Punycode.decode? rest

/-- The ASCII form of a label. -/
def label? (s : List Char) : Option (List Char) :=
  if Utf8.isAscii s then
    let isSound :=
      if Punycode.mark.isPrefixOf s then (unwritten? s).any isLabel else isLabel s
    if isSound then Older.fitting? s else none
  else if isLabel s then Older.fitting? (Punycode.label s)
  else none

/-- The ASCII form of a name. -/
def newer? (s : List Char) : Option (List Char) := do
  if longestInput < s.length then none
  let s ← spell? s
  if 254 < s.length then none
  let labels := Text.pieces '.' s
  let (labels, ending) :=
    if labels.getLast? = some [] then (labels.dropLast, [[]]) else (labels, [])
  if labels.isEmpty then none
  let name := ['.'].intercalate ((← labels.mapM label?) ++ ending)
  if 253 + ending.length < name.length then none else pure name

/-- The ASCII form of a name. -/
def ascii? (s : List Char) : Option (List Char) :=
  if Utf8.isAscii s then some (s.map Char.toLower) else (newer? s).or (Older.hostName? s)

/-- Whether an authority can be read in one way only: it holds no invisible characters, and none
that stands for one of the delimiters of an address. -/
def isSound (authority : List Char) : Bool :=
  Utf8.isAscii authority ||
    (!authority.any Text.formats.holds &&
      let plain := authority.filter fun c => !"@:#?".toList.contains c
      !(Text.normalize Text.compatible plain).any fun c => "/?#@:".toList.contains c)

/-! ### Browsers -/

/-- Whether every joiner of a label stands where it makes a difference. The characters in front
come nearest first. -/
def joinersSuit (before : List Char) : List Char → Bool
  | [] => true
  | c :: after =>
    ((c != '\u200C' && c != '\u200D') || joins before c after) && joinersSuit (c :: before) after

/-- Whether a browser takes a label: any visible characters in their spelling, with joiners and
directions as in `isLabel`. -/
def isBrowserLabel (isMixedName : Bool) (s : List Char) : Bool :=
  !s.head?.any Text.isMark && joinersSuit [] s && (!isMixedName || hasOrder s)

/-- The text that a label of a browser stands for. -/
def browserText? (s : List Char) : Option (List Char) :=
  if Punycode.mark.isPrefixOf s then
    (unwritten? s).bind fun text =>
      if spell? text = some text && !Utf8.isAscii text then some text else none
  else some s

/-- The ASCII form that a browser gives to a name. -/
def browserForm? (s : List Char) : Option (List Char) := do
  let s ← spell? s
  let labels := Text.pieces '.' s
  let texts ← labels.mapM browserText?
  let isMixedName := texts.any isMixed
  if texts.all fun t => t.isEmpty || isBrowserLabel isMixedName t then
    pure (['.'].intercalate (labels.map Punycode.label))
  else none

end HostName

end PersistentId
