import PersistentId.Text.Category

/-!
# PersistentId.Text.Script

Some of the scripts, and how the letters of a script join the letters around them
(Unicode 17).
-/

namespace PersistentId

namespace Text

/-- Greek characters. -/
def greek : CharRanges := .ofText "
  370-373 375-377 37A-37D 37F 384 386 388-38A 38C 38E-3A1 3A3-3E1 3F0-3FF 1D26-1D2A 1D5D-1D61
  1D66-1D6A 1DBF 1F00-1F15 1F18-1F1D 1F20-1F45 1F48-1F4D 1F50-1F57 1F59 1F5B 1F5D 1F5F-1F7D
  1F80-1FB4 1FB6-1FC4 1FC6-1FD3 1FD6-1FDB 1FDD-1FEF 1FF2-1FF4 1FF6-1FFE 2126 AB65 10140-1018E
  101A0 1D200-1D245"

/-- Hebrew characters. -/
def hebrew : CharRanges := .ofText "
  591-5C7 5D0-5EA 5EF-5F4 FB1D-FB36 FB38-FB3C FB3E FB40-FB41 FB43-FB44 FB46-FB4F"

/-- Chinese characters and both kinds of kana. -/
def japanese : CharRanges := .ofText "
  2E80-2E99 2E9B-2EF3 2F00-2FD5 3005 3007 3021-3029 3038-303B 3041-3096 309D-309F 30A1-30FA
  30FD-30FF 31F0-31FF 32D0-32FE 3300-3357 3400-4DBF 4E00-9FFF F900-FA6D FA70-FAD9 FF66-FF6F
  FF71-FF9D 16FE2-16FE3 16FF0-16FF6 1AFF0-1AFF3 1AFF5-1AFFB 1AFFD-1AFFE 1B000-1B122 1B132
  1B150-1B152 1B155 1B164-1B167 1F200 20000-2A6DF 2A700-2B81D 2B820-2CEAD 2CEB0-2EBE0 2EBF0-2EE5D
  2F800-2FA1D 30000-3134A 31350-33479"

/-- Letters that join the letters on both sides of them. -/
def joinsBoth : CharRanges := .ofText "
  620 626 628 62A-62E 633-63F 641-647 649-64A 66E-66F 678-687 69A-6BF 6C1-6C2 6CC 6CE 6D0-6D1
  6FA-6FC 6FF 712-714 71A-71D 71F-727 729 72B 72D-72E 74E-758 75C-76A 76D-770 772 775-777 77A-77F
  7CA-7EA 841-845 848 84A-853 855 860 862-865 868 886 889-88D 88F 8A0-8A9 8AF-8B0 8B3-8B8 8BA-8C8
  1807 1820-1878 1887-18A8 18AA A840-A871 10AC0-10AC4 10AD3-10AD6 10AD8-10ADC 10ADE-10AE0
  10AEB-10AEE 10B80 10B82 10B86-10B88 10B8A-10B8B 10B8D 10B90 10BAD-10BAE 10D01-10D21 10D23
  10EC3-10EC4 10EC6-10EC7 10F30-10F32 10F34-10F44 10F51-10F53 10F70-10F73 10F76-10F81 10FB0
  10FB2-10FB3 10FB8 10FBB-10FBC 10FBE-10FBF 10FC1 10FC4 10FCA 1E900-1E943"

/-- Letters that join only the letter behind them. -/
def joinsNext : CharRanges := .ofText "
  A872 10ACD 10AD7 10D00 10FCB"

/-- Letters that join only the letter in front of them. -/
def joinsPrevious : CharRanges := .ofText "
  622-625 627 629 62F-632 648 671-673 675-677 688-699 6C0 6C3-6CB 6CD 6CF 6D2-6D3 6D5 6EE-6EF 710
  715-719 71E 728 72A 72C 72F 74D 759-75B 76B-76C 771 773-774 778-779 840 846-847 849 854 856-858
  867 869-86A 870-882 88E 8AA-8AC 8AE 8B1-8B2 8B9 10AC5 10AC7 10AC9-10ACA 10ACE-10AD2 10ADD 10AE1
  10AE4 10AEF 10B81 10B83-10B85 10B89 10B8C 10B8E-10B8F 10B91 10BA9-10BAC 10D22 10EC2 10F33 10F54
  10F74-10F75 10FB4-10FB6 10FB9-10FBA 10FBD 10FC2-10FC3 10FC9"

/-- Characters that do not stand between two letters that join, apart from marks. -/
def transparent : CharRanges := .ofText "
  AD 61C 70F CBF CC6 200B 200E-200F 202A-202E 2060-2064 206A-206F FEFF FFF9-FFFB 11A07-11A08 11C3F
  13430-13438 1BCA0-1BCA3 1D173-1D17A 1E94B E0001 E0020-E007F"

/-- Whether a character does not keep its neighbours from joining. -/
def isTransparent (c : Char) : Bool := nonspacing.holds c || transparent.holds c

end Text

end PersistentId
