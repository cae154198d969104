import PersistentId.Text.Simplified
import PersistentId.Text.Split
import PersistentId.Url.Punycode

/-!
# PersistentId.Url.HostName.Older

The older rules for host names, which know the characters of Unicode 3.2.

Design points:

* Characters in ASCII are not looked at, as long as a label has no others.
* Signs are as good as letters. What is unknown is left as it is.
-/

namespace PersistentId

namespace HostName

namespace Older

/-- Characters that disappear. -/
def dropped : CharRanges := .ofText "AD 34F 1806 180B-180D 200B-200D 2060 FE00-FE0F FEFF"

/-- Characters with a simpler form of which the rules do not know. -/
def unknown : CharRanges := .ofText "
  10FC 13A0-13F5 13F8-13FD 1B06 1B08 1B0A 1B0C 1B0E 1B12 1B3B 1B3D 1B40-1B41 1B43 1C80-1C88
  1D2C-1D2E 1D30-1D3A 1D3C-1D4D 1D4F-1D6A 1D78 1D9B-1DBF 2090-209C 213B-213C 2150-2152 2189
  2C7C-2C7D 2D6F 321D-321E 3244-3247 3250 327C-327E 32CC-32CF 32FF 3377-337A 33DE-33DF 33FF
  A69C-A69D A770 A7F2-A7F4 A7F8-A7F9 AB5C-AB5F AB69 AB70-ABBF FA2E-FA2F FA6B-FA6D FA70-FAD9
  FE10-FE19 FE47-FE48 10781-10785 10787-107B0 107B2-107BA 1109A 1109C 110AB 1112E-1112F
  1134B-1134C 114BB-114BC 114BE 115BA-115BB 11938 1D4C1 1D6A4-1D6A5 1D7CA-1D7CB 1EE00-1EE03
  1EE05-1EE1F 1EE21-1EE22 1EE24 1EE27 1EE29-1EE32 1EE34-1EE37 1EE39 1EE3B 1EE42 1EE47 1EE49 1EE4B
  1EE4D-1EE4F 1EE51-1EE52 1EE54 1EE57 1EE59 1EE5B 1EE5D 1EE5F 1EE61-1EE62 1EE64 1EE67-1EE6A
  1EE6C-1EE72 1EE74-1EE77 1EE79-1EE7C 1EE7E 1EE80-1EE89 1EE8B-1EE9B 1EEA1-1EEA3 1EEA5-1EEA9
  1EEAB-1EEBB 1F100-1F10A 1F110-1F12E 1F130-1F14F 1F16A-1F16C 1F190 1F200-1F202 1F210-1F23B
  1F240-1F248 1F250-1F251 1FBF0-1FBF9"

/-- Blanks, controls, formats, and characters without a meaning for all. -/
def prohibited : CharRanges := .ofText "
  80-A0 340-341 6DD 70F 1680 180E 2000-200F 2028-202F 205F-2063 206A-206F 2FF0-2FFB 3000 E000-F8FF
  FDD0-FDEF FEFF FFF9-FFFF 1D173-1D17A 1FFFE-1FFFF 2FFFE-2FFFF 3FFFE-3FFFF 4FFFE-4FFFF 5FFFE-5FFFF
  6FFFE-6FFFF 7FFFE-7FFFF 8FFFE-8FFFF 9FFFE-9FFFF AFFFE-AFFFF BFFFE-BFFFF CFFFE-CFFFF DFFFE-DFFFF
  E0001 E0020-E007F EFFFE-10FFFF"

/-- Letters that are written from right to left. -/
def rightToLeft : CharRanges := .ofText "
  5BE 5C0 5C3 5D0-5EA 5F0-5F4 61B 61F 621-63A 640-64A 66D-66F 671-6D5 6DD 6E5-6E6 6FA-6FE 700-70D
  710 712-72C 780-7A5 7B1 200F FB1D FB1F-FB28 FB2A-FB36 FB38-FB3C FB3E FB40-FB41 FB43-FB44
  FB46-FBB1 FBD3-FD3D FD50-FD8F FD92-FDC7 FDF0-FDFC FE70-FE74 FE76-FEFC"

/-- Letters that are written from left to right. -/
def leftToRight : CharRanges := .ofText "
  41-5A 61-7A AA B5 BA C0-D6 D8-F6 F8-220 222-233 250-2AD 2B0-2B8 2BB-2C1 2D0-2D1 2E0-2E4 2EE 37A
  386 388-38A 38C 38E-3A1 3A3-3CE 3D0-3F5 400-482 48A-4CE 4D0-4F5 4F8-4F9 500-50F 531-556 559-55F
  561-587 589 903 905-939 93D-940 949-94C 950 958-961 964-970 982-983 985-98C 98F-990 993-9A8
  9AA-9B0 9B2 9B6-9B9 9BE-9C0 9C7-9C8 9CB-9CC 9D7 9DC-9DD 9DF-9E1 9E6-9F1 9F4-9FA A05-A0A A0F-A10
  A13-A28 A2A-A30 A32-A33 A35-A36 A38-A39 A3E-A40 A59-A5C A5E A66-A6F A72-A74 A83 A85-A8B A8D
  A8F-A91 A93-AA8 AAA-AB0 AB2-AB3 AB5-AB9 ABD-AC0 AC9 ACB-ACC AD0 AE0 AE6-AEF B02-B03 B05-B0C
  B0F-B10 B13-B28 B2A-B30 B32-B33 B36-B39 B3D-B3E B40 B47-B48 B4B-B4C B57 B5C-B5D B5F-B61 B66-B70
  B83 B85-B8A B8E-B90 B92-B95 B99-B9A B9C B9E-B9F BA3-BA4 BA8-BAA BAE-BB5 BB7-BB9 BBE-BBF BC1-BC2
  BC6-BC8 BCA-BCC BD7 BE7-BF2 C01-C03 C05-C0C C0E-C10 C12-C28 C2A-C33 C35-C39 C41-C44 C60-C61
  C66-C6F C82-C83 C85-C8C C8E-C90 C92-CA8 CAA-CB3 CB5-CB9 CBE CC0-CC4 CC7-CC8 CCA-CCB CD5-CD6 CDE
  CE0-CE1 CE6-CEF D02-D03 D05-D0C D0E-D10 D12-D28 D2A-D39 D3E-D40 D46-D48 D4A-D4C D57 D60-D61
  D66-D6F D82-D83 D85-D96 D9A-DB1 DB3-DBB DBD DC0-DC6 DCF-DD1 DD8-DDF DF2-DF4 E01-E30 E32-E33
  E40-E46 E4F-E5B E81-E82 E84 E87-E88 E8A E8D E94-E97 E99-E9F EA1-EA3 EA5 EA7 EAA-EAB EAD-EB0
  EB2-EB3 EBD EC0-EC4 EC6 ED0-ED9 EDC-EDD F00-F17 F1A-F34 F36 F38 F3E-F47 F49-F6A F7F F85 F88-F8B
  FBE-FC5 FC7-FCC FCF 1000-1021 1023-1027 1029-102A 102C 1031 1038 1040-1057 10A0-10C5 10D0-10F8
  10FB 1100-1159 115F-11A2 11A8-11F9 1200-1206 1208-1246 1248 124A-124D 1250-1256 1258 125A-125D
  1260-1286 1288 128A-128D 1290-12AE 12B0 12B2-12B5 12B8-12BE 12C0 12C2-12C5 12C8-12CE 12D0-12D6
  12D8-12EE 12F0-130E 1310 1312-1315 1318-131E 1320-1346 1348-135A 1361-137C 13A0-13F4 1401-1676
  1681-169A 16A0-16F0 1700-170C 170E-1711 1720-1731 1735-1736 1740-1751 1760-176C 176E-1770
  1780-17B6 17BE-17C5 17C7-17C8 17D4-17DA 17DC 17E0-17E9 1810-1819 1820-1877 1880-18A8 1E00-1E9B
  1EA0-1EF9 1F00-1F15 1F18-1F1D 1F20-1F45 1F48-1F4D 1F50-1F57 1F59 1F5B 1F5D 1F5F-1F7D 1F80-1FB4
  1FB6-1FBC 1FBE 1FC2-1FC4 1FC6-1FCC 1FD0-1FD3 1FD6-1FDB 1FE0-1FEC 1FF2-1FF4 1FF6-1FFC 200E 2071
  207F 2102 2107 210A-2113 2115 2119-211D 2124 2126 2128 212A-212D 212F-2131 2133-2139 213D-213F
  2145-2149 2160-2183 2336-237A 2395 249C-24E9 3005-3007 3021-3029 3031-3035 3038-303C 3041-3096
  309D-309F 30A1-30FA 30FC-30FF 3105-312C 3131-318E 3190-31B7 31F0-321C 3220-3243 3260-327B
  327F-32B0 32C0-32CB 32D0-32FE 3300-3376 337B-33DD 33E0-33FE 3400-4DB5 4E00-9FA5 A000-A48C
  AC00-D7A3 E000-FA2D FA30-FA6A FB00-FB06 FB13-FB17 FF21-FF3A FF41-FF5A FF66-FFBE FFC2-FFC7
  FFCA-FFCF FFD2-FFD7 FFDA-FFDC 10300-1031E 10320-10323 10330-1034A 10400-10425 10428-1044D
  1D000-1D0F5 1D100-1D126 1D12A-1D166 1D16A-1D172 1D183-1D184 1D18C-1D1A9 1D1AE-1D1DD 1D400-1D454
  1D456-1D49C 1D49E-1D49F 1D4A2 1D4A5-1D4A6 1D4A9-1D4AC 1D4AE-1D4B9 1D4BB 1D4BD-1D4C0 1D4C2-1D4C3
  1D4C5-1D505 1D507-1D50A 1D50D-1D514 1D516-1D51C 1D51E-1D539 1D53B-1D53E 1D540-1D544 1D546
  1D54A-1D550 1D552-1D6A3 1D6A8-1D7C9 20000-2A6D6 2F800-2FA1D F0000-FFFFD 100000-10FFFD"

/-- Ideographs that the rules take for other ones than are meant today. -/
def amended : CodeMap := .ofText "2F868=2136A 2F874=5F33 2F91F=43AB 2F95F=7AAE 2F9BF=4D57"

/-- What characters are taken apart into. -/
def splitting : Text.Splitting := fun n =>
  if unknown.covers n then none else (amended.image? n).or (Text.compatible n)

/-- What a character stands for. -/
def image (c : Char) : List Char :=
  if dropped.holds c then []
  else if unknown.holds c || (amended.image? c.toNat).isSome then Text.lowerChar c
  else Text.simplify [c]

/-- Whether letters of both directions, or the ends of a label, are at odds. -/
def isDisordered (s : List Char) : Bool :=
  s.any rightToLeft.holds &&
    (s.any leftToRight.holds || !s.head?.any rightToLeft.holds || !s.getLast?.any rightToLeft.holds)

/-- The spelling of a label, unless it is refused. -/
def spell? (s : List Char) : Option (List Char) :=
  let s := Text.normalize splitting (s.flatMap image)
  if s.any prohibited.holds || isDisordered s then none else some s

/-- A text that is as long as a label may be. -/
def fitting? (s : List Char) : Option (List Char) :=
  if s.isEmpty || 63 < s.length then none else some s

/-- The ASCII form of a label. -/
def ascii? (s : List Char) : Option (List Char) :=
  if Utf8.isAscii s then fitting? s
  else
    (spell? s).bind fun s =>
      if Utf8.isAscii s then fitting? s
      else if Punycode.mark.isPrefixOf s then none
      else fitting? (Punycode.label s)

/-- Characters that separate labels. -/
def isStop (c : Char) : Bool := c == '.' || c == '。' || c == '．' || c == '｡'

/-- The ASCII form of a host name. One full stop at its end is kept. -/
def hostName? (s : List Char) : Option (List Char) :=
  let labels := Text.pieces '.' (s.map fun c => if isStop c then '.' else c)
  let (labels, ending) :=
    if labels.getLast? = some [] then (labels.dropLast, ['.']) else (labels, [])
  (labels.mapM ascii?).map fun labels => ['.'].intercalate labels ++ ending

end Older

end HostName

end PersistentId
