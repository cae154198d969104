import PersistentId.Schema.Insertion
import PersistentId.Schema.Migration

/-!
# PersistentId.Schema.Catalog

What a database knows about its tables, and what statements make of it.

Design points:

* Tables, indexes and sequences share one set of names. What exists cannot be created
  again, and what does not exist cannot be dropped.
* A table brings relations of its own: an index for its key, and a sequence for every
  column that supplies its own integers. They go with the table, as do its other indexes.
* A sequence stays as long as a column draws its values from it, be it one that the column
  names or one of its own.
-/

namespace PersistentId

/-- A sequence, and the table it goes with, if any. -/
structure SequenceEntry where
  name : String
  owner : Option String
  deriving DecidableEq, Repr

/-- What a database knows about its tables. -/
structure Catalog where
  tables : List Table
  indexes : List Index
  sequences : List SequenceEntry
  deriving DecidableEq, Repr

/-- The index that keeps the key of a table unique. -/
def Table.keyIndex (t : Table) : Index := ⟨t.name ++ "_pkey", t.name, t.key, true⟩

/-- The sequences of the columns that supply their own integers. -/
def Table.ownSequences (t : Table) : List SequenceEntry :=
  (t.columns.filter fun c => c.type == .serial).map fun c =>
    ⟨t.name ++ "_" ++ c.name ++ "_seq", some t.name⟩

/-- Whether some column of a table draws its values from a sequence. -/
def Table.draws (t : Table) (sequence : String) : Bool :=
  t.columns.any (·.source == some sequence) || t.ownSequences.any (·.name == sequence)

namespace Catalog

/-- The catalog of a new database. -/
def empty : Catalog := ⟨[], [], []⟩

/-- Every name in use. -/
def names (c : Catalog) : List String :=
  c.tables.map (·.name) ++ c.indexes.map (·.name) ++ c.sequences.map (·.name)

/-- Whether a name can be given to something new. -/
def isFree (c : Catalog) (name : String) : Bool := !c.names.contains name

/-- Whether a table draws its values from a sequence. -/
def isUsed (c : Catalog) (sequence : String) : Bool := c.tables.any (·.draws sequence)

/-- Whether another table draws its values from a sequence that goes with a given table. -/
def isShared (c : Catalog) (table : String) : Bool :=
  c.sequences.any fun s =>
    s.owner == some table && c.tables.any fun t => t.name != table && t.draws s.name

/-- The catalog behind a statement, unless the statement is refused. -/
def execute (c : Catalog) : SchemaChange → Option Catalog
  | .createSequence name =>
    if c.isFree name then some { c with sequences := c.sequences ++ [⟨name, none⟩] } else none
  | .createTable t =>
    let fresh := t.name :: t.keyIndex.name :: t.ownSequences.map (·.name)
    let sources := t.columns.filterMap (·.source)
    if fresh.all c.isFree && sources.all fun s => c.sequences.any (·.name == s) then
      some
        { tables := c.tables ++ [t]
          indexes := c.indexes ++ [t.keyIndex]
          sequences := c.sequences ++ t.ownSequences }
    else none
  | .createIndex i =>
    let hasColumns (t : Table) := i.columns.all fun name => t.columns.any (·.name == name)
    if c.isFree i.name && c.tables.any fun t => t.name == i.table && hasColumns t then
      some { c with indexes := c.indexes ++ [i] }
    else none
  | .dropTable name =>
    if c.tables.any (·.name == name) && !c.isShared name then
      some
        { tables := c.tables.filter (·.name != name)
          indexes := c.indexes.filter (·.table != name)
          sequences := c.sequences.filter (·.owner != some name) }
    else none
  | .dropSequence name =>
    if c.sequences.any (·.name == name) && !c.isUsed name then
      some { c with sequences := c.sequences.filter (·.name != name) }
    else none

/-- The catalog behind a script, unless one of its statements is refused. -/
def run (c : Catalog) (changes : List SchemaChange) : Option Catalog := changes.foldlM execute c

/-- A table of the catalog with its indexes, where it holds some rows. -/
def stored? (c : Catalog) (name : String) (rows : List (List Cell)) : Option StoredTable :=
  (c.tables.find? (·.name == name)).map fun t => ⟨t, c.indexes.filter (·.table == name), rows⟩

/-- A script in two parts. -/
theorem run_append (c : Catalog) (xs ys : List SchemaChange) :
    c.run (xs ++ ys) = (c.run xs).bind fun d => d.run ys := by
  simp [run, List.foldlM_append]

/-- The catalog of the current schema. -/
def current : Catalog where
  tables := [Migration.itemTable, Migration.handleTable]
  indexes :=
    [ Migration.itemTable.keyIndex, Migration.handleTable.keyIndex, Schema.handleIndex,
      Schema.resourceIndex ]
  sequences :=
    [ ⟨Schema.handleSequence, none⟩, ⟨Schema.itemSequence, none⟩,
      ⟨"handle_handle_id_seq", some "handle"⟩ ]

/-- The revision brings an empty database to the current schema. -/
theorem run_upgrade : empty.run (Migration.changes .upgrade) = some current := by
  decide +kernel

/-- The revision brings the current schema back to an empty database. -/
theorem run_downgrade : current.run (Migration.changes .downgrade) = some empty := by
  decide +kernel

end Catalog

end PersistentId
