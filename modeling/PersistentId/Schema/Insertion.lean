import PersistentId.Schema.Tables

/-!
# PersistentId.Schema.Insertion

What a table makes of a new row. For the table of handle records this is what `RecordTable`
makes of a record (`RecordTable.insert?_stored`).

Design points:

* A statement names some of the columns, each once. A column it leaves out takes a value from
  the sequence behind it, or null where there is none.
* A text that is too long for its column is cut, if only blanks are lost.
* A row is refused if a column that needs a value has none, if a value does not fit its
  column, or if a key or a unique index holds the same values already. Nulls in an index
  differ from everything, each other included.
-/

namespace PersistentId

/-- A value in a row. -/
inductive Cell
  | null
  | number (n : Int)
  | text (s : String)
  deriving DecidableEq, Repr

/-- Whether a value fits a type. Null fits every type. -/
def Cell.fits : Cell → ColumnType → Bool
  | .null, _ => true
  | .number n, .integer => -0x80000000 ≤ n && n < 0x80000000
  | .number n, .serial => -0x80000000 ≤ n && n < 0x80000000
  | .number n, .smallInteger => -0x8000 ≤ n && n < 0x8000
  | .text s, .text length => s.length ≤ length
  | .text _, .timestamp => true
  | _, _ => false

/-- A value as a column stores it. -/
def Cell.cut : Cell → ColumnType → Cell
  | .text s, .text length =>
    if (s.toList.drop length).all (· == ' ') then .text (String.ofList (s.toList.take length))
    else .text s
  | value, _ => value

/-- A table with its indexes and its rows. A row has one value for each column. -/
structure StoredTable where
  table : Table
  indexes : List Index
  rows : List (List Cell)
  deriving DecidableEq, Repr

/-- Whether a column has a value of its own where a statement gives none. -/
def Column.hasSupply (c : Column) : Bool := c.type == .serial || c.source.isSome

/-- The value of a column in a new row, where `supply` is the next value of the sequence
behind the column. -/
def Column.fill (c : Column) (supply : Int) (given : List (String × Cell)) : Cell :=
  match given.find? fun g => g.1 == c.name with
  | some g => g.2
  | none => if c.hasSupply then .number supply else .null

namespace StoredTable

/-- The values of some columns in a row. -/
def valuesOf (t : StoredTable) (columns : List String) (row : List Cell) : List Cell :=
  ((t.table.columns.zip row).filter fun p => columns.contains p.1.name).map (·.2)

/-- The groups of columns whose values no two rows share. -/
def uniqueColumns (t : StoredTable) : List (List String) :=
  t.table.key :: (t.indexes.filter (·.unique)).map (·.columns)

/-- Whether a row has the same values as one that is there. -/
def clashes (t : StoredTable) (row : List Cell) (columns : List String) : Bool :=
  let values := t.valuesOf columns row
  !values.contains .null && t.rows.any fun r => t.valuesOf columns r == values

/-- Whether the values of a row may stand in their columns. -/
def isSound (t : StoredTable) (row : List Cell) : Bool :=
  (t.table.columns.zip row).all fun p =>
    p.2.fits p.1.type && (p.2 != .null || (p.1.nullable && !t.table.key.contains p.1.name))

/-- A new row, where a statement gives values for some of the columns. -/
def newRow (t : StoredTable) (supply : Int) (given : List (String × Cell)) : List Cell :=
  t.table.columns.map fun c => (c.fill supply given).cut c.type

/-- Whether a statement names columns of the table, each once. -/
def isAddressed (t : StoredTable) (given : List (String × Cell)) : Bool :=
  given.all (fun g => t.table.columns.any (·.name == g.1)) && decide (given.map (·.1)).Nodup

/-- The table with a new row, unless the row is refused. -/
def insert? (t : StoredTable) (supply : Int) (given : List (String × Cell)) :
    Option StoredTable :=
  let row := t.newRow supply given
  if t.isAddressed given && t.isSound row && !t.uniqueColumns.any (t.clashes row) then
    some { t with rows := t.rows ++ [row] }
  else none

end StoredTable

end PersistentId
