import Mathlib
import PersistentId.Proofs.Registry.Resolution
import PersistentId.Proofs.Run.Effect
import PersistentId.Proofs.Store.Rows

/-!
# PersistentId.Proofs.Run.Permanence

**Handles are permanent**: a row that was committed once stays as it was, whatever happens.

`HandleStore` inserts and never updates or deletes, so there are only two layers to be kept in
step. A rollback makes the session what is committed, so it cannot lose a committed row. A commit
makes what is committed the session, so it loses none only if the session sees every committed row
(`Database.Layered`), and this is the invariant: every other step leaves the committed rows alone
and adds to those of the session, if it touches them at all.

What a handle resolves to is then settled by its row, the entry for the type of the row, and
the outages.
-/

namespace PersistentId

/-- The session sees every row that is committed. -/
def Database.Layered (db : Database) : Prop :=
  ∀ r ∈ db.committed.records.rows, r ∈ db.session.records.rows

namespace World

/-! ### The two layers -/

/-- No step takes a committed row out of the session's sight. -/
theorem layered_step (w : World) (s : Step) (h : w.db.Layered) : (w.step s).1.db.Layered := by
  have heffect := w.effect s
  intro r hr
  generalize (w.step s).1.db = db at heffect hr ⊢
  cases heffect with
  | none => exact h r hr
  | undone => exact hr
  | kept => exact hr
  | sequenceSet => exact h r hr
  | reachableSet => exact h r hr
  | drawn => exact h r hr
  | drawnUndone => exact hr
  | minted _ _ ht => exact (RecordTable.mem_rows_of_insert? ht).2 (.inr (h r hr))
  | inserted _ _ ht => exact (RecordTable.mem_rows_of_insert? ht).2 (.inr (h r hr))
  | itemsChanged => exact h r hr

/-- The session sees every committed row, in every world that a site can come to. -/
theorem layered_of_reached {w : World} (h : w.Reached) : w.db.Layered :=
  h.induction (motive := fun w => w.db.Layered) (fun _ _ _ _ _ hr => hr) layered_step

/-- No step takes a row back that is committed. -/
theorem committed_step {w : World} {s : Step} (h : w.db.Layered) {r : Record}
    (hr : r ∈ w.db.committed.records.rows) :
    r ∈ (w.step s).1.db.committed.records.rows := by
  have heffect := w.effect s
  generalize (w.step s).1.db = db at heffect ⊢
  cases heffect with
  | kept => exact h r hr
  | _ => exact hr

/-- No run takes a row back that is committed. -/
theorem committed_run {w : World} (h : w.db.Layered) {r : Record}
    (hr : r ∈ w.db.committed.records.rows) (ts : List Step) :
    r ∈ (w.run ts).1.db.committed.records.rows := by
  induction ts generalizing w with
  | nil => exact hr
  | cons s rest ih =>
      rw [run_cons]
      exact ih (layered_step w s h) (committed_step h hr)

/-- Whether counters are written does not change while a site is at work. -/
theorem measured_run (w : World) (ts : List Step) :
    (w.run ts).1.registry.measured = w.registry.measured :=
  run_keeps (motive := fun v => v.registry.measured = w.registry.measured)
    (fun s _ v hv => (v.registry_step s).2.1.trans hv) rfl

/-- **Handles are permanent.** Let a site have come to `w`, and let any steps whatever follow:

* every row that was committed is there with all its fields, committed and in the sight of
  the session, and while the database is up it is the row found by its handle;
* neither in what is committed nor in what the session sees do ids or handles occur twice,
  so that looking a handle up meets one row at most;
* the handle of such a row resolves to the same address as before, with the same log and
  the same counters, whenever the database is up and the entry for the type of the row is
  what it was. Whether the object still exists is not asked. -/
theorem handles_permanent {w : World} (hw : w.Reached) (ts : List Step) :
    let w' := (w.run ts).1
    (∀ r ∈ w.db.committed.records.rows,
      r ∈ w'.db.committed.records.rows ∧ r ∈ w'.db.session.records.rows ∧
      (w'.db.reachable = true → w'.db.findRecord r.handle = .ok (some r))) ∧
    (∀ t, t = w'.db.committed.records ∨ t = w'.db.session.records →
      (t.rows.map (·.id)).Nodup ∧ (t.rows.map (·.handle)).Nodup ∧
      ∀ handle, (t.rows.filter (·.handle == handle)).length ≤ 1) ∧
    ∀ r ∈ w.db.committed.records.rows, w.db.reachable = true → w'.db.reachable = true →
      (∀ code, r.type = some code →
        w'.registry.table.get? code = w.registry.table.get? code) →
      w'.registry.resolveUrl w'.db (some r.handle) =
        w.registry.resolveUrl w.db (some r.handle) := by
  intro w'
  have hlayered := layered_of_reached hw
  have hlayered' : w'.db.Layered := layered_of_reached (hw.run ts)
  have hkept : ∀ r ∈ w.db.committed.records.rows, r ∈ w'.db.committed.records.rows :=
    fun r hr => committed_run hlayered hr ts
  refine ⟨?_, ?_, ?_⟩
  · intro r hr
    have hvisible := hlayered' r (hkept r hr)
    refine ⟨hkept r hr, hvisible, ?_⟩
    intro hup'
    rw [Database.findRecord, Database.query_of_reachable hup',
      RecordTable.find?_eq_some.2 ⟨hvisible, rfl⟩]
  · intro t _
    exact ⟨t.nodup_ids, t.nodup_handles, t.length_filter_handle_le⟩
  · intro r hr hup hup' htable
    exact Registry.resolveUrl_of_row (w.measured_run ts) hup' hup
      (hlayered' r (hkept r hr)) (hlayered r hr) htable

/-- A committed handle outlives a deleted item, rows that are refused, an outage with a
rollback, a commit of other rows, a sequence that is turned back, a request and a new
prefix. It resolves as before. -/
theorem handles_permanent_across_failures :
    let w := ((start ⟨.text "10.1", .text "http://a", .missing, false⟩ defaultTable true).run
      [.addItem 7, .createHandle (.item (some 7)), .commit]).1
    let ts := [Step.deleteItem 7, .storeInsert 1 "b" .item 8,
      .insertRecord ⟨5, "10.1/1", none, none⟩, .createHandle (.item (some 8)),
      .setReachable false, .storeAllocate, .setReachable true, .setSequence 1,
      .createHandle (.item (some 9)), .setSetting "handle_prefix" (.text "c"),
      .createHandle (.item (some 9)), .http "GET" "/10.1/1", .rebuild, .rollback]
    let w' := (w.run ts).1
    w.Reached ∧ ⟨1, "10.1/1", some 2, some 7⟩ ∈ w.db.committed.records.rows ∧
    w'.db.session.records.rows = [⟨1, "10.1/1", some 2, some 7⟩, ⟨2, "c/2", some 2, some 9⟩] ∧
    w'.registry.resolveUrl w'.db (some "10.1/1") = w.registry.resolveUrl w.db (some "10.1/1") ∧
    (w.registry.resolveUrl w.db (some "10.1/1")).result = .ok (some "http://a/10.1/1") :=
  have hreached : World.Reached _ := ⟨_, _, _, _, _, rfl⟩
  have hrow := by decide +kernel
  ⟨hreached, hrow, by decide +kernel,
    (handles_permanent hreached _).2.2 ⟨1, "10.1/1", some 2, some 7⟩ hrow rfl rfl
      (fun _ _ => rfl), by decide +kernel⟩

end World

end PersistentId
