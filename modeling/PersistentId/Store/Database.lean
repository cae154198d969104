import PersistentId.Failure
import PersistentId.ResourceType
import PersistentId.Store.Record

/-!
# PersistentId.Store.Database

The database as one session sees it.

Design points:

* Two layers of contents: what is **committed** and what the **session** sees.
  Statements read and change the session's layer; `commit` and `rollback` make
  one layer the other. Outside a transaction the two are equal.
* The **sequence** belongs to neither layer. A value that was drawn is never
  given back, not by a rollback and not by a failed insertion.
* While the database is out of reach every statement fails with an outage and
  changes nothing. Ending a transaction is no statement.
* In which order a listing meets the rows is not known: the database has a **scan**,
  which is one of the orders it may have.
* Items are known by their id alone: all that is asked of one is whether it
  exists.

The statements are those of `HandleStore`, with those on items beside them.
-/

namespace PersistentId

/-- What a transaction can change. -/
structure Contents where
  records : RecordTable
  /-- The ids of the items that exist. -/
  items : List Int

/-- Contents without records and items. -/
def Contents.empty : Contents := ⟨.empty, []⟩

/-- A database with one session on it. -/
structure Database where
  committed : Contents
  session : Contents
  /-- The next value the sequence gives out. -/
  sequence : Int
  reachable : Bool
  /-- The order in which listings meet the rows. -/
  scan : Scan

namespace Database

/-- A database that was just created, and keeps its rows by id. -/
def empty : Database := ⟨.empty, .empty, 1, true, .byId⟩

/-! ### Transactions -/

/-- What the session changed becomes what is committed. -/
def commit (db : Database) : Database := { db with committed := db.session }

/-- What the session changed since the last commit is forgotten. -/
def rollback (db : Database) : Database := { db with session := db.committed }

@[simp] theorem session_commit (db : Database) : db.commit.session = db.session := rfl
@[simp] theorem committed_commit (db : Database) : db.commit.committed = db.session := rfl
@[simp] theorem sequence_commit (db : Database) : db.commit.sequence = db.sequence := rfl
@[simp] theorem reachable_commit (db : Database) : db.commit.reachable = db.reachable := rfl
@[simp] theorem session_rollback (db : Database) : db.rollback.session = db.committed := rfl
@[simp] theorem committed_rollback (db : Database) : db.rollback.committed = db.committed := rfl
@[simp] theorem sequence_rollback (db : Database) : db.rollback.sequence = db.sequence := rfl
@[simp] theorem reachable_rollback (db : Database) : db.rollback.reachable = db.reachable := rfl

/-! ### Statements -/

/-- A statement that only reads what the session sees. -/
def query (db : Database) (read : Contents → α) : Except StoreError α :=
  if db.reachable then .ok (read db.session) else .error .outage

/-- A statement that changes what the session sees, or is refused. -/
def change (db : Database) (write : Contents → Except StoreError Contents) :
    Except StoreError Database :=
  if db.reachable then
    (write db.session).map fun contents => { db with session := contents }
  else
    .error .outage

/-- Draws the next value of the sequence, `allocate_id`. -/
def allocate (db : Database) : Except StoreError (Int × Database) :=
  if db.reachable then .ok (db.sequence, { db with sequence := db.sequence + 1 })
  else .error .outage

/-- The record of a handle, `find_by_handle`. -/
def findRecord (db : Database) (handle : String) : Except StoreError (Option Record) :=
  db.query fun c => c.records.find? handle

/-- The handle of lowest id among the records of an object, `find_by_resource`. -/
def findHandle (db : Database) (type : ResourceType) (resource : Int) :
    Except StoreError (Option String) :=
  db.query fun c => c.records.handleOf? type.code resource

/-- The handles that start with a given text, `find_by_prefix`, as the scan meets them. -/
def findHandlesWith (db : Database) (start : String) : Except StoreError (List String) :=
  db.query fun c => c.records.handlesWith db.scan start

/-- Adds a row to the table of handles, `insert`. -/
def insertRecord (db : Database) (r : Record) : Except StoreError Database :=
  db.change fun c =>
    match c.records.insert? r.cut with
    | some t => .ok { c with records := t }
    | none => .error (RecordTable.refusal r.cut)

/-- Adds a row without a handle to the table of handles, which takes no such row. -/
def insertWithoutHandle (db : Database) : Except StoreError Database :=
  db.change fun _ => .error .conflict

/-- Whether an item exists. -/
def hasItem (db : Database) (id : Int) : Except StoreError Bool :=
  db.query fun c => c.items.contains id

/-- Adds an item, unless there is one of the same id. -/
def addItem (db : Database) (id : Int) : Except StoreError Database :=
  db.change fun c =>
    if c.items.contains id then .error .conflict else .ok { c with items := id :: c.items }

/-- Removes an item. Removing one that does not exist is fine. -/
def deleteItem (db : Database) (id : Int) : Except StoreError Database :=
  db.change fun c => .ok { c with items := c.items.filter (· != id) }

/-- A statement without effect, which fails in an outage only. -/
def ping (db : Database) : Except StoreError Unit := db.query fun _ => ()

theorem query_of_reachable {db : Database} (h : db.reachable = true) (read : Contents → α) :
    db.query read = .ok (read db.session) := if_pos h

theorem query_of_outage {db : Database} (h : db.reachable = false) (read : Contents → α) :
    db.query read = .error .outage := by simp [query, h]

theorem change_of_reachable {db : Database} (h : db.reachable = true)
    (write : Contents → Except StoreError Contents) :
    db.change write = (write db.session).map fun contents => { db with session := contents } :=
  if_pos h

theorem change_of_outage {db : Database} (h : db.reachable = false)
    (write : Contents → Except StoreError Contents) : db.change write = .error .outage := by
  simp [change, h]

theorem allocate_of_reachable {db : Database} (h : db.reachable = true) :
    db.allocate = .ok (db.sequence, { db with sequence := db.sequence + 1 }) := if_pos h

theorem allocate_of_outage {db : Database} (h : db.reachable = false) :
    db.allocate = .error .outage := by simp [allocate, h]

end Database

end PersistentId
