import PersistentId.Schema.Ddl
import PersistentId.Text.Quoted

/-!
# PersistentId.Schema.Tables

The tables the store works on, as `HandleRecord` and `Item` declare them and the statements of
`PersistentId.Store.Statement` expect them. Ids come from the two sequences and are always
supplied by the statement.
-/

namespace PersistentId

namespace Schema

/-- The sequence from which the ids of handle records are drawn. -/
def handleSequence : String := "handle_seq"

/-- The sequence from which the ids of items are drawn. -/
def itemSequence : String := "item_seq"

/-- Both sequences, by name. -/
def sequences : List String := [handleSequence, itemSequence]

/-- The table of handle records, `HandleRecord`. -/
def handleTable : Table where
  name := "handle"
  columns :=
    [ ⟨"handle_id", .integer, false, none⟩,
      ⟨"handle", .text 256, false, none⟩,
      ⟨"resource_type_id", .smallInteger, true, none⟩,
      ⟨"resource_id", .integer, true, none⟩ ]
  key := ["handle_id"]

/-- The table of items, `Item`. -/
def itemTable : Table where
  name := "item"
  columns :=
    [ ⟨"item_id", .integer, false, none⟩,
      ⟨"last_modified", .timestamp, false, none⟩ ]
  key := ["item_id"]

/-- No two records share a handle. -/
def handleIndex : Index := ⟨"idx_handle_handle", "handle", ["handle"], true⟩

/-- Records are looked up by their object. -/
def resourceIndex : Index :=
  ⟨"idx_handle_resource", "handle", ["resource_type_id", "resource_id"], false⟩

/-- Every table with its indexes, these by name. -/
def tables : List (Table × List Index) :=
  [(handleTable, [handleIndex, resourceIndex]), (itemTable, [])]

/-- What creates the sequences, and every table with its indexes. -/
def changes : List SchemaChange :=
  sequences.map .createSequence ++
    tables.flatMap fun t => .createTable t.1 :: t.2.map .createIndex

/-- The statements that create a table and its indexes. -/
def definitions (t : Table × List Index) : List String :=
  t.1.sql .standalone :: t.2.map Index.sql

/-- The statements that create the table of a given name, if there is one. -/
def definitionsOf? (name : String) : Option (List String) :=
  (tables.find? fun t => t.1.name == name).map definitions

/-- The message for a name that no table has. -/
def unknownTable (name : String) : String := Text.quoted name

end Schema

end PersistentId
