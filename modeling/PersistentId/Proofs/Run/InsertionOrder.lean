import Mathlib
import PersistentId.Proofs.Run.Effect
import PersistentId.Proofs.Store.Rows

/-!
# PersistentId.Proofs.Run.InsertionOrder

**Look-ups do not depend on the order of insertion.**

A table takes a collection of rows exactly where each of them fits its columns and no two of them
have an id or a handle in common, which is not a matter of order (`RecordTable.exists_insertAll?`).
The rows of the table are those of the collection then (`RecordTable.rows_insertAll?`). So what a
look-up finds can be said of the collection: the row of a handle, and the row of lowest id among
those of an object, as `select_resource_handle_stmt` asks for it.

Two databases with the same rows (`Database.SameRows`) therefore answer `find_by_handle` and
`find_by_resource` alike, and with them `resolve_to_url`, `resolve_to_object` and `find_handle`.
`find_by_prefix` gives the same handles, but in which order they come is left to the scan.
-/

namespace PersistentId

/-! ### Tables -/

/-- Rows are compatible with each other where no id and no handle occurs twice. -/
theorem Record.pairwise_compatible {records : List Record} :
    records.Pairwise Record.Compatible ↔
      (records.map (·.id)).Nodup ∧ (records.map (·.handle)).Nodup := by
  unfold List.Nodup
  rw [List.pairwise_map, List.pairwise_map]
  exact List.pairwise_and_iff

namespace RecordTable

/-- The table with rows inserted one after another, if it takes all of them. -/
def insertAll? (t : RecordTable) : List Record → Option RecordTable
  | [] => some t
  | r :: rest => (t.insert? r).bind (·.insertAll? rest)

/-- A table takes rows that fit their columns and are compatible with each other and with the rows
it has. -/
theorem exists_insertAll? {t : RecordTable} {records : List Record} :
    (∃ u, t.insertAll? records = some u) ↔
      (∀ r ∈ records, r.Fits) ∧ records.Pairwise Record.Compatible ∧
        ∀ r ∈ records, ∀ x ∈ t.rows, r.Compatible x := by
  induction records generalizing t with
  | nil => simp [insertAll?]
  | cons r rest ih =>
      rw [List.pairwise_cons, List.forall_mem_cons, List.forall_mem_cons, insertAll?]
      cases ht : t.insert? r with
      | none =>
          have hblocked := insert?_eq_none.1 ht
          exact iff_of_false (by rintro ⟨u, hu⟩; cases hu) fun h => hblocked ⟨h.1.1, h.2.2.1⟩
      | some u =>
          obtain ⟨hfits, hfree, -⟩ := insert?_eq_some.1 ht
          rw [Option.bind_some, ih]
          simp only [mem_rows_of_insert? ht, forall_eq_or_imp]
          constructor
          · rintro ⟨hrest, hpairs, hnew⟩
            exact ⟨⟨hfits, hrest⟩, ⟨fun x hx => (hnew x hx).1.symm, hpairs⟩, hfree,
              fun x hx => (hnew x hx).2⟩
          · rintro ⟨⟨-, hrest⟩, ⟨hr, hpairs⟩, -, hold⟩
            exact ⟨hrest, hpairs, fun x hx => ⟨(hr x hx).symm, hold x hx⟩⟩

/-- It has these rows in addition. -/
theorem rows_insertAll? {t u : RecordTable} {records : List Record}
    (h : t.insertAll? records = some u) : u.rows = t.rows ++ records := by
  induction records generalizing t with
  | nil =>
      cases h
      rw [List.append_nil]
  | cons r rest ih =>
      obtain ⟨v, hv, hu⟩ := Option.bind_eq_some_iff.1 h
      rw [ih hu, (insert?_eq_some.1 hv).2.2, List.append_assoc, List.singleton_append]

end RecordTable

/-! ### Look-ups -/

/-- A database shows a collection of records: every look-up is answered from the collection, whose
order does not matter. -/
structure Database.Shows (db : Database) (records : List Record) : Prop where
  record : ∀ handle r, db.findRecord handle = .ok (some r) ↔ r ∈ records ∧ r.handle = handle
  noRecord : ∀ handle, db.findRecord handle = .ok none ↔ ∀ r ∈ records, r.handle ≠ handle
  /-- The handle of an object is that of lowest id. A record without a type or an object is
  nobody's. -/
  handle : ∀ type id text, db.findHandle type id = .ok (some text) ↔
    ∃ r ∈ records, r.type = some type.code ∧ r.resource = some id ∧ r.handle = text ∧
      ∀ x ∈ records, x.type = some type.code → x.resource = some id → r.id ≤ x.id
  noHandle : ∀ type id, db.findHandle type id = .ok none ↔
    ∀ r ∈ records, r.type = some type.code → r.resource ≠ some id
  /-- A listing has the handles of the collection that start with its text, in some order. -/
  listing : ∀ start, ∃ handles, db.findHandlesWith start = .ok handles ∧
    handles.Perm ((records.map (·.handle)).filter fun h => start.toList.isPrefixOf h.toList)

/-- A database shows the rows of its session. -/
theorem Database.shows_of_rows {db : Database} {records : List Record} (hup : db.reachable = true)
    (h : db.session.records.rows.Perm records) : db.Shows records where
  record := by
    intro handle r
    rw [findRecord, query_of_reachable hup, Except.ok.injEq, RecordTable.find?_eq_some, h.mem_iff]
  noRecord := by
    intro handle
    rw [findRecord, query_of_reachable hup, Except.ok.injEq, RecordTable.find?_eq_none]
    simp only [h.mem_iff]
  handle := by
    intro type id text
    rw [findHandle, query_of_reachable hup, Except.ok.injEq, RecordTable.handleOf?_eq_some]
    constructor
    · rintro ⟨r, hr, rfl⟩
      refine ⟨r, h.mem_iff.1 hr.mem, hr.type_eq, hr.resource_eq, rfl, ?_⟩
      exact fun x hx => hr.le x (h.mem_iff.2 hx)
    · rintro ⟨r, hr, htype, hresource, hhandle, hle⟩
      refine ⟨r, ⟨h.mem_iff.2 hr, htype, hresource, ?_⟩, hhandle⟩
      exact fun x hx => hle x (h.mem_iff.1 hx)
  noHandle := by
    intro type id
    rw [findHandle, query_of_reachable hup, Except.ok.injEq, RecordTable.handleOf?_eq_none]
    simp only [h.mem_iff]
  listing := by
    intro start
    refine ⟨_, query_of_reachable hup _, ?_⟩
    exact (db.session.records.handlesWith_perm db.scan start).trans ((h.map _).filter _)

/-- Two databases that are up and show the session the same rows, in one order or another, and the
same items. -/
structure Database.SameRows (db db' : Database) : Prop where
  rows : db.session.records.rows.Perm db'.session.records.rows
  items : db.session.items = db'.session.items
  up : db.reachable = true
  up' : db'.reachable = true

namespace Database.SameRows

variable {db db' : Database} (h : db.SameRows db')
include h

theorem findRecord (handle : String) : db.findRecord handle = db'.findRecord handle := by
  unfold Database.findRecord
  rw [query_of_reachable h.up, query_of_reachable h.up', RecordTable.find?_perm h.rows]

theorem findHandle (type : ResourceType) (resource : Int) :
    db.findHandle type resource = db'.findHandle type resource := by
  unfold Database.findHandle
  rw [query_of_reachable h.up, query_of_reachable h.up', RecordTable.handleOf?_perm h.rows]

/-- Every handle is resolved the same way in both. -/
theorem resolve (r : Registry) (handle : Option String) :
    r.resolveUrl db handle = r.resolveUrl db' handle ∧
      r.resolveObject db handle = r.resolveObject db' handle := by
  have hfind : r.findRecord db handle = r.findRecord db' handle := by
    unfold Registry.findRecord
    simp only [h.findRecord]
  unfold Registry.resolveUrl Registry.resolveObject
  rw [hfind, h.items]
  exact ⟨rfl, rfl⟩

/-- So is the handle of an object looked for. -/
theorem handleOf (r : Registry) (object : Resource) :
    r.findHandle db object = r.findHandle db' object := by
  unfold Registry.findHandle
  simp only [h.findHandle]

/-- A listing gives the same handles in both. -/
theorem listing (start : String) : ∃ handles handles',
    Registry.handlesWith db (some start) = pure handles ∧
    Registry.handlesWith db' (some start) = pure handles' ∧ handles.Perm handles' := by
  refine ⟨_, _, ?_, ?_, RecordTable.listing_perm h.rows db.scan db'.scan start⟩
  · rw [Registry.handlesWith, findHandlesWith, query_of_reachable h.up]
    rfl
  · rw [Registry.handlesWith, findHandlesWith, query_of_reachable h.up']
    rfl

end Database.SameRows

namespace World

/-! ### Runs that insert -/

variable {w : World}

/-- A step that writes a row by hand is an insertion. -/
theorem step_of_row? {s : Step} {row : Record} (h : s.row? = some row) :
    ∃ record a, record.cut = row ∧ w.step s = w.change (w.db.insertRecord record) a := by
  cases s with
  | storeInsert id handle type resource => exact ⟨_, _, Option.some.inj h, rfl⟩
  | insertRecord record => exact ⟨record, _, Option.some.inj h, rfl⟩
  | _ => cases h

/-- Insertions all succeed where the table takes all rows, which are left behind then. -/
theorem run_insertions (hup : w.db.reachable = true) {ss : List Step} {records : List Record}
    (hss : ss.map Step.row? = records.map some) :
    (∀ u, w.db.session.records.insertAll? records = some u →
      (w.run ss).1 = { w with db := w.db.withRecords u } ∧
        ∀ a ∈ (w.run ss).2, a.result.isOk = true) ∧
    (w.db.session.records.insertAll? records = none →
      ∃ a ∈ (w.run ss).2, a.result.isOk = false) := by
  induction ss generalizing w records with
  | nil =>
      cases records with
      | nil =>
          refine ⟨fun u hu => ?_, nofun⟩
          cases hu
          exact ⟨rfl, nofun⟩
      | cons => cases hss
  | cons s rest ih =>
      cases records with
      | nil => cases hss
      | cons r rs =>
          obtain ⟨hs, hrest⟩ := List.cons.inj hss
          obtain ⟨record, a, rfl, hstep⟩ := step_of_row? hs
          rw [RecordTable.insertAll?]
          cases hinsert : w.db.insertRecord record with
          | error e =>
              have hnone : w.db.session.records.insert? record.cut = none := by
                refine Option.eq_none_iff_forall_ne_some.2 fun t ht => ?_
                rw [Database.insertRecord_of_some hup ht] at hinsert
                cases hinsert
              rw [hinsert] at hstep
              rw [hnone]
              refine ⟨nofun, fun _ => ⟨(w.step s).2, List.mem_cons_self, ?_⟩⟩
              rw [hstep]
              rfl
          | ok db =>
              obtain ⟨-, t, ht, rfl⟩ := Database.insertRecord_eq_ok.1 hinsert
              rw [hinsert] at hstep
              let next : World := { w with db := w.db.withRecords t }
              have hnext : w.step s = (next, pure a) := hstep
              have hup' : next.db.reachable = true := hup
              obtain ⟨htaken, hrefused⟩ := ih hup' hrest
              rw [run_cons, hnext, ht, Option.bind_some]
              constructor
              · intro u hu
                obtain ⟨hlast, hok⟩ := htaken u hu
                exact ⟨hlast, List.forall_mem_cons.2 ⟨rfl, hok⟩⟩
              · intro hnone
                obtain ⟨b, hb, hfailed⟩ := hrefused hnone
                exact ⟨b, List.mem_cons_of_mem _ hb, hfailed⟩

end World

end PersistentId
