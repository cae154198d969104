import PersistentId.Text.Printable
import PersistentId.Text.Simplified

/-!
# PersistentId.Url.HostName.Mapping

The spelling of a host name: what its characters stand for (Unicode 17).

Design points:

* Host names do not tell case, style and width of letters apart. Four letters and joiners are
  kept although they have a simpler form: they mean something else.
* A character without any meaning of its own disappears.
* Full stops of any kind separate labels. A character that merely contains one is refused, and
  so is everything that cannot be shown.
-/

namespace PersistentId

namespace HostName

/-- Characters that disappear. -/
def ignored : CharRanges := .ofText "
  AD 34F 115F-1160 17B4-17B5 180B-180F 200B 2060-2064 206A-206F 3164 FE00-FE0F FEFF FFA0
  1BCA0-1BCA3 1D173-1D17A E0100-E01EF"

/-- Characters that are kept although they have a simpler form. -/
def kept : CharRanges := .ofText "DF 3C2 200C-200D"

/-- Characters that separate labels as well as a full stop. -/
def stops : CharRanges := .ofText "3002 FF0E FF61"

/-- Visible characters that only describe others, and stand for nothing. -/
def layouts : CharRanges := .ofText "2FF0-2FFB FFFC-FFFD"

/-- Characters that stand for others since later versions than the rest of the tables. -/
def newer : CodeMap := .ofText "
  1C89=1C8A A7CB=264 A7CC=A7CD A7CE=A7CF A7D2=A7D3 A7D4=A7D5 A7DA=A7DB A7DC=19B A7F1=73
  10D50-10D65=10D70 16EA0-16EB8=16EBB 1CCD6-1CCEF=61 1CCF0-1CCF9=30 1E030-1E038=430
  1E039-1E03B=43A 1E03C-1E046=43E 1E047=44B 1E048-1E049=44D 1E04A=A689 1E04B=4D9 1E04C=456
  1E04D=458 1E04E=4E9 1E04F=4AF 1E050=4CF 1E051-1E059=430 1E05A-1E05B=43A 1E05C-1E05D=43E
  1E05E=441 1E05F-1E064=443 1E065-1E066=44A 1E067=491 1E068=456 1E069=455 1E06A=45F 1E06B=4AB
  1E06C=A651 1E06D=4B1"

/-- What a character stands for in a host name; nothing where it is refused. -/
def image? (c : Char) : Option (List Char) :=
  if c.toNat < 0x80 then some [c.toLower]
  else if ignored.holds c then some []
  else if kept.holds c then some [c]
  else if c = '\u1E9E' then some ['ß']
  else if stops.holds c then some ['.']
  else
    match newer.image? c.toNat with
    | some codes => some (codes.map Char.ofNat)
    | none =>
      let simple := Text.simplify [c]
      let hasStop := simple.any fun d => d = '.' || d = '。'
      if Text.unprintable.holds c || layouts.holds c || hasStop then none else some simple

/-- The spelling of a host name, unless one of its characters is refused. -/
def spell? (s : List Char) : Option (List Char) :=
  (s.mapM image?).map fun images => Text.normalize Text.canonical images.flatten

end HostName

end PersistentId
