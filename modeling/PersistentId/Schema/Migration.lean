import PersistentId.Schema.Tables

/-!
# PersistentId.Schema.Migration

The revision that brings an empty database to the schema the store needs (`upgrade`), and back
(`downgrade`).
-/

namespace PersistentId

/-- Which way a revision is run. -/
inductive Direction
  | upgrade
  | downgrade
  deriving DecidableEq, Repr

namespace Migration

/-- The name of the revision. -/
def revision : String := "4f2c9d71a0b3"

/-- The revision it builds on: none. -/
def previous : Option String := none

/-- The table of items, which supplies missing ids from its sequence. -/
def itemTable : Table where
  name := "item"
  columns :=
    [ ⟨"item_id", .integer, false, some Schema.itemSequence⟩,
      ⟨"last_modified", .timestamp, false, none⟩ ]
  key := ["item_id"]

/-- The table of handle records. Statements draw its ids from the sequence of handles. -/
def handleTable : Table where
  name := "handle"
  columns :=
    [ ⟨"handle_id", .serial, false, none⟩,
      ⟨"handle", .text 256, false, none⟩,
      ⟨"resource_type_id", .smallInteger, true, none⟩,
      ⟨"resource_id", .integer, true, none⟩ ]
  key := ["handle_id"]

/-- What the revision does in one direction. -/
def changes : Direction → List SchemaChange
  | .upgrade =>
    [ .createSequence Schema.handleSequence,
      .createSequence Schema.itemSequence,
      .createTable itemTable,
      .createTable handleTable,
      .createIndex Schema.handleIndex,
      .createIndex Schema.resourceIndex ]
  | .downgrade =>
    [ .dropTable handleTable.name,
      .dropTable itemTable.name,
      .dropSequence Schema.itemSequence,
      .dropSequence Schema.handleSequence ]

/-- The script that runs the revision in several directions, one after another. -/
def script (run : List Direction) : String := SchemaChange.script (run.flatMap changes)

end Migration

end PersistentId
