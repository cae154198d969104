import Mathlib
import PersistentId.Proofs.Schema.Supply
import PersistentId.Store.Database

/-!
# PersistentId.Proofs.Schema.Refinement

**The table of records is the declared table.**

`RecordTable` has the widths and the constraints of the table of handle records in its type.
`StoredTable` reads them off a declaration: off the types of the columns, the key and the unique
indexes. Each record is a row of the declared table (`Record.cells`), and `RecordTable.insert?`
takes a record exactly where the declared table takes the statement that inserts it.

The statement names all four columns, so the table that the revision makes takes the same ones.
-/

namespace PersistentId

/-- A number that may be missing, as a value in a row. -/
def Cell.ofNumber? : Option Int → Cell
  | none => .null
  | some n => .number n

namespace Record

/-- The row of a record: a value for each column. -/
def cells (r : Record) : List Cell :=
  [.number r.id, .text r.handle, .ofNumber? r.type, .ofNumber? r.resource]

/-- What the statement that inserts a record gives for each column. -/
def given (r : Record) : List (String × Cell) :=
  (Schema.handleTable.columns.map (·.name)).zip r.cells

end Record

namespace RecordTable

/-- The declared table, with the rows of a table of records. -/
def stored (t : RecordTable) : StoredTable := (Schema.supplied (t.rows.map Record.cells)).plain

/-- Creating the declared table makes it. -/
theorem declared?_stored (t : RecordTable) :
    Schema.declared? (t.rows.map Record.cells) = some t.stored :=
  Schema.declared?_eq _

theorem columns_stored (t : RecordTable) :
    t.stored.table.columns = Schema.handleTable.columns := rfl

/-! ### The new row -/

theorem isAddressed_given (t : RecordTable) (r : Record) :
    t.stored.isAddressed r.given = true := by
  have hnames : r.given.map (·.1) = t.stored.table.columns.map (·.name) := rfl
  have hdistinct : (t.stored.table.columns.map (·.name)).Nodup := by
    show ["handle_id", "handle", "resource_type_id", "resource_id"].Nodup
    decide
  refine Bool.and_eq_true_iff.2 ⟨List.all_eq_true.2 fun g hg => ?_, ?_⟩
  · have hname : g.1 ∈ t.stored.table.columns.map (·.name) := hnames ▸ List.mem_map_of_mem hg
    simpa [List.any_eq_true] using hname
  · rw [hnames]
    exact decide_eq_true hdistinct

/-- A record is cut as the columns cut its values. -/
theorem newRow_given (t : RecordTable) (r : Record) (next : Int) :
    t.stored.newRow next r.given = r.cut.cells := by
  have hnumber (n : Option Int) (type : ColumnType) :
      (Cell.ofNumber? n).cut type = .ofNumber? n := by
    cases n <;> rfl
  have hrow : t.stored.newRow next r.given =
      [.number r.id, (Cell.text r.handle).cut (.text Record.handleLength),
        (Cell.ofNumber? r.type).cut .smallInteger, (Cell.ofNumber? r.resource).cut .integer] := rfl
  rw [hrow, hnumber, hnumber]
  cases hblank : (r.handle.toList.drop Record.handleLength).all (· == ' ') with
  | true =>
      simp only [Record.cut, Cell.cut, hblank, if_true]
      rfl
  | false =>
      simp only [Record.cut, Cell.cut, hblank, Bool.false_eq_true, if_false]
      rfl

/-! ### What is refused -/

/-- The columns take the values of a record exactly if it fits. -/
theorem isSound_cells (t : RecordTable) (r : Record) :
    t.stored.isSound r.cells = true ↔ r.Fits := by
  have hinteger (n : Int) : (Cell.number n).fits .integer = true ↔ IsInteger n := by
    simp [Cell.fits, IsInteger]
  have hsmall (n : Int) : (Cell.number n).fits .smallInteger = true ↔ IsSmallInteger n := by
    simp [Cell.fits, IsSmallInteger]
  have hoption {p : Int → Prop} {type : ColumnType}
      (h : ∀ n, (Cell.number n).fits type = true ↔ p n) (n : Option Int) :
      (Cell.ofNumber? n).fits type = true ↔ ∀ x ∈ n, p x := by
    cases n with
    | none => simp [Cell.ofNumber?, Cell.fits]
    | some n => simp [Cell.ofNumber?, h]
  have htext : (Cell.text r.handle).fits (.text 256) = true ↔
      r.handle.length ≤ Record.handleLength := decide_eq_true_iff
  have hkey : t.stored.table.key = ["handle_id"] := rfl
  unfold StoredTable.isSound
  rw [columns_stored, hkey]
  simp [Schema.handleTable, Record.cells, Record.Fits, hinteger, htext, hoption hsmall,
    hoption hinteger]

/-- The value of one column that is unique is refused exactly if a row has it already. -/
theorem clashes_cells {column : String} (value : Record → Cell) {t : RecordTable} {r : Record}
    (hvalues : ∀ x : Record, t.stored.valuesOf [column] x.cells = [value x])
    (hvalue : value r ≠ .null) :
    t.stored.clashes r.cells [column] = false ↔ ∀ x ∈ t.rows, value r ≠ value x := by
  have hrows : t.stored.rows = t.rows.map Record.cells := rfl
  simp [StoredTable.clashes, hvalues, hrows, hvalue.symm, eq_comm (a := value r)]

/-- The key and the unique indexes refuse a record exactly if it shares its id or its handle. -/
theorem any_clashes_cells (t : RecordTable) (r : Record) :
    t.stored.uniqueColumns.any (t.stored.clashes r.cells) = false ↔
      ∀ x ∈ t.rows, r.Compatible x := by
  have hid : t.stored.clashes r.cells ["handle_id"] = false ↔
      ∀ x ∈ t.rows, Cell.number r.id ≠ .number x.id :=
    clashes_cells (fun x => .number x.id) (fun x => by
      simp [StoredTable.valuesOf, columns_stored, Schema.handleTable, Record.cells]) (by simp)
  have hhandle : t.stored.clashes r.cells ["handle"] = false ↔
      ∀ x ∈ t.rows, Cell.text r.handle ≠ .text x.handle :=
    clashes_cells (fun x => .text x.handle) (fun x => by
      simp [StoredTable.valuesOf, columns_stored, Schema.handleTable, Record.cells]) (by simp)
  have hunique : t.stored.uniqueColumns = [["handle_id"], ["handle_id"], ["handle"]] := rfl
  rw [hunique]
  simp only [List.any_cons, List.any_nil, Bool.or_false, Bool.or_eq_false_iff, hid, hhandle, ne_eq,
    Cell.number.injEq, Cell.text.injEq, and_self_left]
  exact ⟨fun h x hx => ⟨h.1 x hx, h.2 x hx⟩,
    fun h => ⟨fun x hx => (h x hx).1, fun x hx => (h x hx).2⟩⟩

/-! ### The same rows -/

/-- **A record is inserted as a row of the declared table.** Either both tables take it, and then
the declared table has the rows of the table of records again, or both refuse it. -/
theorem insert?_stored (t : RecordTable) (r : Record) (next : Int) :
    t.stored.insert? next r.given = (t.insert? r.cut).map stored := by
  simp only [StoredTable.insert?, newRow_given, isAddressed_given, Bool.true_and]
  cases h : t.insert? r.cut with
  | some u =>
      obtain ⟨hfits, hfree, hrows⟩ := insert?_eq_some.1 h
      have hstored : u.stored = { t.stored with rows := t.stored.rows ++ [r.cut.cells] } := by
        rw [stored, hrows, List.map_append]
        rfl
      rw [(isSound_cells t _).2 hfits, (any_clashes_cells t _).2 hfree, Option.map_some, hstored]
      rfl
  | none =>
      rw [if_neg, Option.map_none]
      intro hok
      obtain ⟨hsound, hfree⟩ := Bool.and_eq_true_iff.1 hok
      exact insert?_eq_none.1 h
        ⟨(isSound_cells t _).1 hsound, (any_clashes_cells t _).1 (by simpa using hfree)⟩

/-- The table that the revision makes takes the same records, and stores the same rows. -/
theorem insert?_migrated (t : RecordTable) (r : Record) (next : Int) :
    ((Schema.supplied (t.rows.map Record.cells)).insert? next r.given).map (·.rows) =
      (t.insert? r.cut).map fun u => u.rows.map Record.cells := by
  have hnamed : ∀ c ∈ Migration.handleTable.columns, c.hasSupply = true →
      c.name ∈ r.given.map (·.1) := fun c hc hsupply => by
    rw [(Schema.hasSupply_iff hc).1 hsupply]
    exact List.mem_cons_self
  rw [← StoredTable.rows_insert?_plain hnamed next next]
  show (t.stored.insert? next r.given).map (·.rows) = _
  rw [insert?_stored, Option.map_map]
  rfl

end RecordTable

/-- So `insert` adds a row to the database exactly where the declared table takes it. -/
theorem Database.insertRecord_stored {db : Database} (h : db.reachable = true) (r : Record)
    (next : Int) :
    (db.insertRecord r).toOption.map (·.session.records.stored) =
      db.session.records.stored.insert? next r.given := by
  rw [RecordTable.insert?_stored, insertRecord, change_of_reachable h]
  cases db.session.records.insert? r.cut <;> rfl

end PersistentId
