import PersistentId.Text.Quoted

/-!
# PersistentId.ResourceType

The kinds of repository object a handle can stand for, `ResourceType`. Stored records carry
the **code** of a kind, messages and metrics its **label**. Codes and labels
both tell the kinds apart (`code_injective`, `ofLabel?_label`).
-/

namespace PersistentId

/-- A kind of repository object. -/
inductive ResourceType
  | bitstream
  | bundle
  | item
  | collection
  | community
  | site
  | group
  | eperson
  deriving DecidableEq, Repr

namespace ResourceType

/-- Every kind, by ascending code. -/
def all : List ResourceType :=
  [bitstream, bundle, item, collection, community, site, group, eperson]

/-- The number a stored record carries for the kind. -/
def code : ResourceType → Int
  | bitstream => 0
  | bundle => 1
  | item => 2
  | collection => 3
  | community => 4
  | site => 5
  | group => 6
  | eperson => 7

/-- The word messages and metrics use for the kind. -/
def label : ResourceType → String
  | bitstream => "BITSTREAM"
  | bundle => "BUNDLE"
  | item => "ITEM"
  | collection => "COLLECTION"
  | community => "COMMUNITY"
  | site => "SITE"
  | group => "GROUP"
  | eperson => "EPERSON"

/-- The kind with a given code, if there is one. -/
def ofCode? (n : Int) : Option ResourceType := all.find? (fun t => t.code == n)

/-- The kind with a given label, if there is one. Labels are case-sensitive. -/
def ofLabel? (s : String) : Option ResourceType := all.find? (fun t => t.label == s)

theorem code_injective {t u : ResourceType} (h : t.code = u.code) : t = u := by
  cases t <;> cases u <;> first | rfl | exact absurd h (by decide)

@[simp] theorem ofLabel?_label (t : ResourceType) : ofLabel? t.label = some t := by
  cases t <;> decide

/-- The message for a value that is no code, from the way the value is written. -/
def unknownCode (shown : String) : String := shown ++ " is not a valid ResourceType"

/-- The message for a word that is no label. -/
def unknownLabel (s : String) : String := Text.quoted s

end ResourceType

end PersistentId
