/-!
# PersistentId.Schema.Ddl

Tables, indexes and sequences, and the statements that create and drop them.

The same table can be written in two layouts: as a statement of its own, set off by
line breaks and indented by tabs, or as a part of a script.
-/

namespace PersistentId

/-- The type of a column. -/
inductive ColumnType
  | integer
  | smallInteger
  /-- Text of a bounded length. -/
  | text (length : Nat)
  | timestamp
  /-- An integer that a sequence of the column's own supplies where it is missing. -/
  | serial
  deriving DecidableEq, Repr

/-- How a statement names a type. -/
def ColumnType.sql : ColumnType → String
  | integer => "INTEGER"
  | smallInteger => "SMALLINT"
  | text length => "VARCHAR(" ++ toString length ++ ")"
  | timestamp => "TIMESTAMP WITH TIME ZONE"
  | serial => "SERIAL"

/-- A column of a table. -/
structure Column where
  name : String
  type : ColumnType
  nullable : Bool
  /-- The sequence that supplies a value where none is given. -/
  source : Option String
  deriving DecidableEq, Repr

/-- The definition of a column. -/
def Column.sql (c : Column) : String :=
  c.name ++ " " ++ c.type.sql ++
    (match c.source with
     | some sequence => " DEFAULT nextval('" ++ sequence ++ "')"
     | none => "") ++
    (if c.nullable then "" else " NOT NULL")

/-- A table. -/
structure Table where
  name : String
  columns : List Column
  /-- The columns whose values tell the rows apart. -/
  key : List String
  deriving DecidableEq, Repr

/-- An index on a table. -/
structure Index where
  name : String
  table : String
  columns : List String
  unique : Bool
  deriving DecidableEq, Repr

/-- How the parts of a table's definition are set off. -/
structure Layout where
  before : String
  indent : String
  after : String

/-- A table as a statement of its own. -/
def Layout.standalone : Layout := ⟨"\n", "\t", "\n\n"⟩

/-- A table as a part of a script. -/
def Layout.script : Layout := ⟨"", "    ", ""⟩

/-- The statement that creates a table. -/
def Table.sql (layout : Layout) (t : Table) : String :=
  let lines := t.columns.map Column.sql ++ ["PRIMARY KEY (" ++ ", ".intercalate t.key ++ ")"]
  layout.before ++ "CREATE TABLE " ++ t.name ++ " (\n" ++
    ", \n".intercalate (lines.map (layout.indent ++ ·)) ++ "\n)" ++ layout.after

/-- The statement that creates an index. -/
def Index.sql (i : Index) : String :=
  (if i.unique then "CREATE UNIQUE INDEX " else "CREATE INDEX ") ++ i.name ++ " ON " ++ i.table ++
    " (" ++ ", ".intercalate i.columns ++ ")"

/-- A statement that changes the schema. -/
inductive SchemaChange
  | createSequence (name : String)
  | createTable (t : Table)
  | createIndex (i : Index)
  | dropTable (name : String)
  | dropSequence (name : String)
  deriving DecidableEq, Repr

/-- The statement as a part of a script, without what ends it. -/
def SchemaChange.sql : SchemaChange → String
  | createSequence name => "CREATE SEQUENCE " ++ name
  | createTable t => t.sql .script
  | createIndex i => i.sql
  | dropTable name => "DROP TABLE " ++ name
  | dropSequence name => "DROP SEQUENCE " ++ name

/-- A script of statements: each ends with a semicolon and an empty line. -/
def SchemaChange.script (changes : List SchemaChange) : String :=
  String.join (changes.map fun c => c.sql ++ ";\n\n")

end PersistentId
