import Mathlib
import PersistentId.Schema.Catalog

/-!
# PersistentId.Proofs.Schema.Supply

**The migrated table agrees with the schema where an id is given**, and supplies one of its own
where none is.

The revision's `upgrade` makes the ids of handle records a column with a supply, and the schema,
`HandleRecord`, does not. All
else is the same in both: the schema is the migrated table without its supply. So both tables are
compared through what a supply does in any table: it does not show in a statement that names the
column, and it stands for a value in one that does not.
-/

namespace PersistentId

/-! ### Columns without their supply -/

/-- The type of a column that leaves its values to statements. -/
def ColumnType.plain : ColumnType → ColumnType
  | .serial => .integer
  | type => type

/-- The column, leaving its values to statements. -/
def Column.plain (c : Column) : Column := { c with type := c.type.plain, source := none }

@[simp] theorem Column.name_plain (c : Column) : c.plain.name = c.name := rfl
@[simp] theorem Column.nullable_plain (c : Column) : c.plain.nullable = c.nullable := rfl
@[simp] theorem Column.type_plain (c : Column) : c.plain.type = c.type.plain := rfl

@[simp] theorem Cell.fits_plain (value : Cell) (type : ColumnType) :
    value.fits type.plain = value.fits type := by
  cases type <;> cases value <;> rfl

@[simp] theorem Cell.cut_plain (value : Cell) (type : ColumnType) :
    value.cut type.plain = value.cut type := by
  cases type <;> cases value <;> rfl

/-- A column that a statement names does not look at its supply. -/
theorem Column.fill_of_given {c : Column} {given : List (String × Cell)}
    (h : c.name ∈ given.map (·.1)) (next next' : Int) :
    c.plain.fill next' given = c.fill next given := by
  obtain ⟨g, hg, hname⟩ := List.mem_map.1 h
  cases hfind : given.find? fun g => g.1 == c.name with
  | none => exact absurd (beq_iff_eq.2 hname) (List.find?_eq_none.1 hfind g hg)
  | some found => simp only [fill, name_plain, hfind]

/-- Nor does a column without one. -/
theorem Column.fill_of_no_supply {c : Column} (h : c.hasSupply = false)
    (given : List (String × Cell)) (next next' : Int) :
    c.plain.fill next' given = c.fill next given := by
  have hplain : c.plain.hasSupply = false := by
    simp only [hasSupply, Bool.or_eq_false_iff] at h ⊢
    refine ⟨?_, rfl⟩
    cases htype : c.type <;> simp_all [plain, ColumnType.plain]
  simp only [fill, name_plain, h, hplain, Bool.false_eq_true, if_false]

/-- A column that a statement leaves out takes its supply. -/
theorem Column.fill_of_left_out {c : Column} {given : List (String × Cell)}
    (hsupply : c.hasSupply = true) (h : c.name ∉ given.map (·.1)) (next : Int) :
    c.fill next given = .number next := by
  have hfind : given.find? (fun g => g.1 == c.name) = none :=
    List.find?_eq_none.2 fun g hg hname =>
      h (List.mem_map.2 ⟨g, hg, beq_iff_eq.1 hname⟩)
  simp only [fill, hfind, hsupply, if_true]

namespace StoredTable

/-! ### Tables without their supply -/

/-- The table with every column leaving its values to statements. -/
def plain (t : StoredTable) : StoredTable :=
  { t with table := { t.table with columns := t.table.columns.map Column.plain } }

variable {t : StoredTable} {given : List (String × Cell)}

theorem valuesOf_plain (t : StoredTable) (columns : List String) (row : List Cell) :
    t.plain.valuesOf columns row = t.valuesOf columns row := by
  simp only [valuesOf, plain, List.zip_map_left, List.filter_map, List.map_map]
  rfl

theorem clashes_plain (t : StoredTable) (row : List Cell) :
    t.plain.clashes row = t.clashes row := by
  funext columns
  simp only [clashes, valuesOf_plain]
  rfl

theorem isSound_plain (t : StoredTable) (row : List Cell) :
    t.plain.isSound row = t.isSound row := by
  simp only [isSound, plain, List.zip_map_left, List.all_map]
  congr 1
  funext p
  simp only [Function.comp_apply, Prod.map_fst, Prod.map_snd, Column.type_plain, Cell.fits_plain,
    Column.name_plain, Column.nullable_plain, id]

@[simp] theorem uniqueColumns_plain (t : StoredTable) :
    t.plain.uniqueColumns = t.uniqueColumns := rfl

theorem isAddressed_plain (t : StoredTable) (given : List (String × Cell)) :
    t.plain.isAddressed given = t.isAddressed given := by
  simp only [isAddressed, plain, List.any_map]
  rfl

/-- A supply does not show in a row whose columns with a supply are all named. -/
theorem newRow_plain (h : ∀ c ∈ t.table.columns, c.hasSupply = true → c.name ∈ given.map (·.1))
    (next next' : Int) : t.plain.newRow next' given = t.newRow next given := by
  simp only [newRow, plain, List.map_map]
  refine List.map_congr_left fun c hc => ?_
  have hfill : c.plain.fill next' given = c.fill next given := by
    cases hsupply : c.hasSupply with
    | true => exact Column.fill_of_given (h c hc hsupply) next next'
    | false => exact Column.fill_of_no_supply hsupply given next next'
  simp [hfill]

/-- So such a statement is accepted with and without the supply, and stores the same. -/
theorem rows_insert?_plain
    (h : ∀ c ∈ t.table.columns, c.hasSupply = true → c.name ∈ given.map (·.1)) (next next' : Int) :
    (t.plain.insert? next' given).map (·.rows) = (t.insert? next given).map (·.rows) := by
  simp only [insert?, newRow_plain h next next', isAddressed_plain, isSound_plain, clashes_plain,
    uniqueColumns_plain, apply_ite (Option.map _), Option.map_some, Option.map_none]
  rfl

/-! ### Columns that are left out -/

/-- Leaving out a column with a supply is naming it with the next value of its supply. -/
theorem insert?_supplied {c : Column} (hc : c ∈ t.table.columns) (hsupply : c.hasSupply = true)
    (hnames : (t.table.columns.map (·.name)).Nodup) (h : c.name ∉ given.map (·.1)) (next : Int) :
    t.insert? next given = t.insert? next ((c.name, .number next) :: given) := by
  have hrow : t.newRow next given = t.newRow next ((c.name, .number next) :: given) := by
    refine List.map_congr_left fun d hd => congrArg (Cell.cut · d.type) ?_
    by_cases hname : c.name = d.name
    · obtain rfl : c = d := List.inj_on_of_nodup_map hnames hc hd hname
      rw [Column.fill_of_left_out hsupply h, Column.fill, List.find?_cons_of_pos (by simp)]
    · rw [Column.fill, Column.fill, List.find?_cons_of_neg (by simpa using hname)]
  have haddressed : t.isAddressed given = t.isAddressed ((c.name, .number next) :: given) := by
    have hknown : t.table.columns.any (·.name == c.name) = true :=
      List.any_eq_true.2 ⟨c, hc, beq_self_eq_true _⟩
    simp [isAddressed, hknown, h]
  simp only [insert?, hrow, haddressed]

/-- A column that needs a value and has no supply cannot be left out. -/
theorem insert?_of_missing {c : Column} (hc : c ∈ t.table.columns) (hsupply : c.hasSupply = false)
    (hneeded : c.nullable = false) (h : c.name ∉ given.map (·.1)) (next : Int) :
    t.insert? next given = none := by
  have hfind : given.find? (fun g => g.1 == c.name) = none :=
    List.find?_eq_none.2 fun g hg hname =>
      h (List.mem_map.2 ⟨g, hg, beq_iff_eq.1 hname⟩)
  have hnull : (c.fill next given).cut c.type = .null := by
    simp [Column.fill, hfind, hsupply, Cell.cut]
  have hmem : (c, Cell.null) ∈ t.table.columns.zip (t.newRow next given) := by
    rw [newRow, ← List.map_prod_left_eq_zip]
    exact List.mem_map.2 ⟨c, hc, by rw [hnull]⟩
  have hunsound : t.isSound (t.newRow next given) = false := by
    refine List.all_eq_false.2 ⟨_, hmem, ?_⟩
    simp [hneeded]
  simp [insert?, hunsound]

end StoredTable

namespace Schema

/-- The table of handle records behind the revision, where it holds some rows. -/
def migrated? (rows : List (List Cell)) : Option StoredTable :=
  (Catalog.empty.run (Migration.changes .upgrade)).bind (·.stored? handleTable.name rows)

/-- The table of handle records that the schema declares, where it holds some rows. -/
def declared? (rows : List (List Cell)) : Option StoredTable :=
  (Catalog.empty.run changes).bind (·.stored? handleTable.name rows)

/-- The indexes of the table of handle records. -/
def handleIndexes : List Index := [handleTable.keyIndex, handleIndex, resourceIndex]

/-- The table of handle records with a supply of ids. -/
def supplied (rows : List (List Cell)) : StoredTable := ⟨Migration.handleTable, handleIndexes, rows⟩

/-- The revision makes the table with a supply of ids. -/
theorem migrated?_eq (rows : List (List Cell)) : migrated? rows = some (supplied rows) := by
  have htable : Catalog.current.tables.find? (·.name == handleTable.name) =
      some Migration.handleTable := by decide +kernel
  have hindexes : Catalog.current.indexes.filter (·.table == handleTable.name) =
      handleIndexes := by decide +kernel
  simp only [migrated?, Catalog.run_upgrade, Option.bind_some, Catalog.stored?, htable, hindexes]
  rfl

/-- The schema declares the same table without that supply. -/
theorem declared?_eq (rows : List (List Cell)) : declared? rows = some (supplied rows).plain := by
  have hrun : Catalog.empty.run changes = some
      { tables := [handleTable, itemTable]
        indexes := handleIndexes ++ [itemTable.keyIndex]
        sequences := [⟨handleSequence, none⟩, ⟨itemSequence, none⟩] } := by decide +kernel
  have htable : [handleTable, itemTable].find? (·.name == handleTable.name) =
      some handleTable := by decide +kernel
  have hindexes : (handleIndexes ++ [itemTable.keyIndex]).filter (·.table == handleTable.name) =
      handleIndexes := by decide +kernel
  simp only [declared?, hrun, Option.bind_some, Catalog.stored?, htable, hindexes]
  rfl

/-- The column of ids has a supply, and no other column has one. -/
theorem hasSupply_iff {c : Column} (hc : c ∈ Migration.handleTable.columns) :
    c.hasSupply = true ↔ c.name = "handle_id" := by
  revert c
  decide +kernel

/-- **The schemas agree where an id is given.** Take the table of handle records as the revision
makes it and as the schema declares it, both holding the same rows, whatever these are, and any
statement that inserts values for some of the columns. If it names the id, then both tables accept
it or both refuse it, and they store the same row.

If it does not, the declared table refuses it. The migrated table takes the next value of a sequence
of its own for the id, and accepts the statement exactly where the declared table accepts the
statement with that id. -/
theorem schemas_agree_where_id_is_given (rows : List (List Cell)) :
    ∃ migrated declared : StoredTable,
      migrated? rows = some migrated ∧ declared? rows = some declared ∧
      ∀ (given : List (String × Cell)) (next next' : Int),
        ("handle_id" ∈ given.map (·.1) →
          (migrated.insert? next given).map (·.rows) =
            (declared.insert? next' given).map (·.rows)) ∧
        ("handle_id" ∉ given.map (·.1) →
          declared.insert? next' given = none ∧
          (migrated.insert? next given).map (·.rows) =
            (declared.insert? next' (("handle_id", .number next) :: given)).map (·.rows)) := by
  refine ⟨supplied rows, (supplied rows).plain, migrated?_eq rows, declared?_eq rows,
    fun given next next' => ?_⟩
  have hnamed : ∀ given' : List (String × Cell), "handle_id" ∈ given'.map (·.1) →
      ((supplied rows).insert? next given').map (·.rows) =
        ((supplied rows).plain.insert? next' given').map (·.rows) := fun given' hid =>
    (StoredTable.rows_insert?_plain
      (fun c hc hsupply => (hasSupply_iff hc).1 hsupply ▸ hid) next next').symm
  refine ⟨hnamed given, fun hid => ⟨?_, ?_⟩⟩
  · have hplain : (⟨"handle_id", .integer, false, none⟩ : Column) ∈
        (supplied rows).plain.table.columns := List.mem_cons_self
    exact StoredTable.insert?_of_missing hplain rfl rfl hid next'
  · have hsupply : (⟨"handle_id", .serial, false, none⟩ : Column) ∈
        (supplied rows).table.columns := List.mem_cons_self
    have hdistinct : ((supplied rows).table.columns.map (·.name)).Nodup := by
      show (Migration.handleTable.columns.map (·.name)).Nodup
      decide +kernel
    rw [StoredTable.insert?_supplied hsupply rfl hdistinct hid next]
    exact hnamed _ (List.mem_cons_self)

/-- A statement without an id is refused by the declared table. The migrated table accepts it, with
an id that the sequence of handles has yet to give out. When it does, the record that is minted with
it is refused. -/
theorem id_supplied_by_database :
    ∃ migrated declared collided : StoredTable,
      migrated? [] = some migrated ∧ declared? [] = some declared ∧
      declared.insert? 1 [("handle", .text "10.1/a")] = none ∧
      migrated.insert? 1 [("handle", .text "10.1/a")] = some collided ∧
      collided.rows = [[.number 1, .text "10.1/a", .null, .null]] ∧
      collided.insert? 2 [("handle_id", .number 1), ("handle", .text "10.1/1"),
        ("resource_type_id", .number 2), ("resource_id", .number 7)] = none := by
  refine ⟨_, _, _, migrated?_eq [], declared?_eq [], ?_, rfl, ?_⟩ <;> decide +kernel

end Schema

end PersistentId
