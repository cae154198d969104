import Mathlib
import PersistentId.Proofs.Minting.Integrity
import PersistentId.Proofs.Minting.Resolution
import PersistentId.Proofs.Registry.Reordering
import PersistentId.Proofs.Run.Permanence

/-!
# PersistentId.Proofs.Run.Reordering

**The order of the table matters for ambiguous objects only.**

Two worlds are compared that differ in the order of their tables (`World.Reorders`). Every step
leads to two worlds of this kind again, unless a handle is minted for an object that two entries
recognise: then the two records differ in their type. And every step is answered the same way,
unless it looks for the handle of such an object.

For an ambiguous object the order decides, and it decides the same for `create_handle` and for
`find_handle`: both take the first entry that gives the object an id, `_identify`. So what is
minted for an object is found for it.
-/

namespace PersistentId

namespace Step

/-- The object that a step asks a new handle for. -/
def mintsFor? : Step → Option Resource
  | .createHandle object => some object
  | _ => none

/-- The object whose handle a step looks for. -/
def looksFor? : Step → Option Resource
  | .findHandle object => some object
  | _ => none

end Step

namespace Passage

/-- The step mints a handle for an ambiguous object. -/
def MintsAmbiguous (p : Passage) : Prop :=
  p.minted? ≠ none ∧ ∃ object ∈ p.step.mintsFor?, p.before.registry.table.Ambiguous object

/-- The step asks for a handle of an ambiguous object, one of whose ids is too large for a
record. -/
def AsksOversized (p : Passage) : Prop :=
  ∃ object ∈ p.step.mintsFor?,
    p.before.registry.table.Ambiguous object ∧ p.before.registry.table.Oversized object

/-- The step looks for the handle of an ambiguous object. -/
def LooksAmbiguous (p : Passage) : Prop :=
  ∃ object ∈ p.step.looksFor?, p.before.registry.table.Ambiguous object

instance (p : Passage) : Decidable p.MintsAmbiguous :=
  inferInstanceAs (Decidable (p.minted? ≠ none ∧ ∃ object ∈ p.step.mintsFor?,
    p.before.registry.table.Ambiguous object))

instance (p : Passage) : Decidable p.AsksOversized :=
  inferInstanceAs (Decidable (∃ object ∈ p.step.mintsFor?,
    p.before.registry.table.Ambiguous object ∧ p.before.registry.table.Oversized object))

end Passage

namespace World

/-- Two worlds that differ in the order of their tables and in nothing else. -/
structure Reorders (w w' : World) : Prop where
  site : w.site = w'.site
  tables : ∀ s, (w.table s).entries.Perm (w'.table s).entries
  registry : w.registry.Reorders w'.registry
  db : w.db = w'.db

/-- Two new sites with the same entries in their tables. -/
theorem reorders_start (site : Site) {table table' : Site → ResolverTable} (measured : Bool)
    (scan : Scan) (horder : ∀ s, (table s).entries.Perm (table' s).entries) :
    (start site table measured scan).Reorders (start site table' measured scan) :=
  ⟨rfl, horder, ⟨rfl, horder site⟩, rfl⟩

/-! ### One step -/

variable {w w' : World} (h : w.Reorders w')
include h

/-- What is done to the database is done in both worlds. -/
theorem Reorders.onDatabase (f : Database → Database) :
    ({ w with db := f w.db } : World).Reorders { w' with db := f w'.db } :=
  { h with db := by rw [h.db] }

theorem Reorders.ask {o o' : Outcome RegistryError α} (ho : o = o') (f : α → Answer) :
    (w.ask o f).1.Reorders (w'.ask o' f).1 ∧ (w.ask o f).2 = (w'.ask o' f).2 := by
  rw [ho]
  unfold World.ask
  split
  · exact ⟨h, rfl⟩
  · exact ⟨h, rfl⟩
  · exact ⟨h.onDatabase Database.rollback, rfl⟩
  · exact ⟨h, rfl⟩

theorem Reorders.change {r r' : Except StoreError Database} (hr : r = r') (a : Answer) :
    (w.change r a).1.Reorders (w'.change r' a).1 ∧ (w.change r a).2 = (w'.change r' a).2 := by
  rw [hr]
  unfold World.change
  split
  · exact ⟨{ h with db := rfl }, rfl⟩
  · exact ⟨h.onDatabase Database.rollback, rfl⟩

/-- Looking for the handle of an object changes the same in both worlds, whether or not it finds
the same. -/
theorem Reorders.findHandle (object : Resource) :
    (w.step (.findHandle object)).1.Reorders (w'.step (.findHandle object)).1 := by
  cases hup : w.db.reachable with
  | false =>
      have hfind := h.registry.findHandle_of_outage hup object
      exact (h.ask (hfind.trans (by rw [h.db])) Answer.ofText).1
  | true =>
      have hup' : w'.db.reachable = true := h.db ▸ hup
      simp only [step, Registry.findHandle_of_reachable _ hup,
        Registry.findHandle_of_reachable _ hup']
      exact h

/-- Minting goes the same way in both worlds, unless it gives an ambiguous object a handle, or
would in one of them if its id there were not too large. -/
theorem Reorders.createHandle {object : Resource}
    (hmint : ¬Passage.MintsAmbiguous ⟨w, .createHandle object⟩)
    (hsize : ¬Passage.AsksOversized ⟨w, .createHandle object⟩) :
    w.registry.createHandle w.site.handlePrefix w.db object =
      w'.registry.createHandle w'.site.handlePrefix w'.db object := by
  rw [← h.site, ← h.db]
  by_cases hobject : w.registry.table.Ambiguous object
  · have hfits : ¬w.registry.table.Oversized object :=
      fun hlarge => hsize ⟨object, rfl, hobject, hlarge⟩
    refine h.registry.createHandle_of_unminted hfits fun handle hhandle => ?_
    have hanswer : (w.step (.createHandle object)).2.result = .ok (.text handle) := by
      rw [step, result_ask, hhandle]
      rfl
    refine hmint ⟨?_, object, rfl, hobject⟩
    rw [Passage.minted?_createHandle.2 hanswer]
    exact Option.some_ne_none handle
  · exact (h.registry.object hobject w.db).2 w.site.handlePrefix

/-- **One step** leads to worlds that differ in the order of their tables, unless it mints for an
ambiguous object, or asks to with an id that is too large. It is answered the same way, unless it
looks for the handle of one. -/
theorem Reorders.step (s : Step) (hmint : ¬Passage.MintsAmbiguous ⟨w, s⟩)
    (hsize : ¬Passage.AsksOversized ⟨w, s⟩) :
    (w.step s).1.Reorders (w'.step s).1 ∧
      (¬Passage.LooksAmbiguous ⟨w, s⟩ → (w.step s).2 = (w'.step s).2) := by
  obtain ⟨site, table, r, db⟩ := w
  obtain ⟨site', table', r', db'⟩ := w'
  obtain rfl : site = site' := h.site
  obtain rfl : db = db' := h.db
  cases s with
  | resolveUrl handle =>
      have hask := h.ask (h.registry.resolve db handle).1 Answer.ofText
      exact ⟨hask.1, fun _ => hask.2⟩
  | resolveObject handle =>
      have hask := h.ask (h.registry.resolve db handle).2 Answer.ofObject
      exact ⟨hask.1, fun _ => hask.2⟩
  | findHandle object =>
      refine ⟨h.findHandle object, fun hlook => ?_⟩
      have hobject : ¬r.table.Ambiguous object := fun hobject => hlook ⟨object, rfl, hobject⟩
      exact (h.ask (h.registry.object hobject db).1 Answer.ofText).2
  | createHandle object =>
      have hcreate : r.createHandle site.handlePrefix db object =
          r'.createHandle site.handlePrefix db object := h.createHandle hmint hsize
      have hdb := h.onDatabase fun _ => (r.createHandle site.handlePrefix db object).1
      simp only [World.step, ← hcreate]
      exact ⟨(hdb.ask rfl _).1, fun _ => (hdb.ask rfl _).2⟩
  | listPrefix | storeFind | storeFindResource | storeFindPrefix | findItem =>
      exact ⟨(h.ask rfl _).1, fun _ => (h.ask rfl _).2⟩
  | storeInsert | addItem | deleteItem | insertRecord | insertWithoutHandle =>
      exact ⟨(h.change rfl _).1, fun _ => (h.change rfl _).2⟩
  | storeAllocate =>
      simp only [World.step]
      split
      · exact ⟨{ h with db := rfl }, fun _ => rfl⟩
      · exact ⟨{ h with db := rfl }, fun _ => rfl⟩
  | setSetting name value =>
      simp only [World.step]
      split
      · exact ⟨{ h with site := rfl }, fun _ => rfl⟩
      · exact ⟨h, fun _ => rfl⟩
  | rebuild => exact ⟨{ h with registry := ⟨h.registry.measured, h.tables site⟩ }, fun _ => rfl⟩
  | canonical => exact ⟨h, fun _ => rfl⟩
  | commit | rollback | setSequence | setReachable | http | command =>
      exact ⟨{ h with db := rfl }, fun _ => rfl⟩

end World

/-- Two passages of one step, in worlds that differ in the order of their tables. They have the same
answer, unless they look for the handle of an ambiguous object. -/
structure Passage.Reorders (p p' : Passage) : Prop where
  before : p.before.Reorders p'.before
  step : p.step = p'.step
  answer : ¬p.LooksAmbiguous → p.answer = p'.answer

/-- So without such look-ups they have the same answers. -/
theorem Passage.map_answer_of_reorders {ps ps' : List Passage}
    (h : List.Forall₂ Passage.Reorders ps ps') (hlook : ∀ p ∈ ps, ¬p.LooksAmbiguous) :
    ps.map Passage.answer = ps'.map Passage.answer := by
  induction h with
  | nil => rfl
  | cons hp _ ih =>
      rw [List.forall_mem_cons] at hlook
      rw [List.map_cons, List.map_cons, hp.answer hlook.1, ih hlook.2]

namespace World

/-! ### Runs -/

variable {w w' : World}

/-- A run that mints for no ambiguous object, nor asks to with an id that is too large, goes the
same way in both worlds. -/
theorem Reorders.run (h : w.Reorders w') {ss : List Step}
    (hmint : ∀ p ∈ w.passages ss, ¬p.MintsAmbiguous ∧ ¬p.AsksOversized) :
    List.Forall₂ Passage.Reorders (w.passages ss) (w'.passages ss) ∧
      (w.run ss).1.Reorders (w'.run ss).1 := by
  induction ss generalizing w w' with
  | nil => exact ⟨.nil, h⟩
  | cons s rest ih =>
      rw [passages_cons, List.forall_mem_cons] at hmint
      obtain ⟨hnext, hanswer⟩ := h.step s hmint.1.1 hmint.1.2
      obtain ⟨hpassages, hlast⟩ := ih hnext hmint.2
      exact ⟨.cons ⟨h, rfl, hanswer⟩ hpassages, hlast⟩

/-- Where no object is ambiguous, it has the same answers. -/
theorem Reorders.run_of_none_ambiguous (h : w.Reorders w') {ss : List Step}
    (hnone : ∀ p ∈ w.passages ss, ∀ object, ¬p.before.registry.table.Ambiguous object) :
    (w.run ss).2 = (w'.run ss).2 ∧ (w.run ss).1.db = (w'.run ss).1.db := by
  have hmint : ∀ p ∈ w.passages ss, ¬p.MintsAmbiguous ∧ ¬p.AsksOversized := by
    refine fun p hp => ⟨?_, ?_⟩
    · rintro ⟨-, object, -, hobject⟩
      exact hnone p hp object hobject
    · rintro ⟨object, -, hobject, -⟩
      exact hnone p hp object hobject
  have hlook : ∀ p ∈ w.passages ss, ¬p.LooksAmbiguous := by
    rintro p hp ⟨object, -, hobject⟩
    exact hnone p hp object hobject
  obtain ⟨hpassages, hlast⟩ := h.run hmint
  refine ⟨?_, hlast.db⟩
  rw [← map_answer_passages, ← map_answer_passages,
    Passage.map_answer_of_reorders hpassages hlook]

/-! ### Minting -/

/-- What is minted for an object is recorded as the first entry that recognises it says. -/
theorem row_of_first {object : Resource} {e : ResolverEntry} {id : Int}
    (hfirst : w.registry.table.FirstToRecognise object e id) {handle : String}
    (h : (w.step (.createHandle object)).2.result = .ok (.text handle)) :
    ⟨w.db.sequence, handle, some e.resolver.type.code, some id⟩ ∈
      (w.step (.createHandle object)).1.db.session.records.rows := by
  have hfound := ResolverTable.identify?_eq_some.2 ⟨e, hfirst, rfl⟩
  obtain ⟨text, resolver, i, t, hup, hfound', rfl, ht, hminted⟩ := stored_of_answer h
  obtain ⟨rfl, rfl⟩ := Prod.mk.inj (Option.some.inj (hfound.symm.trans hfound'))
  rw [hminted]
  exact (RecordTable.mem_rows_of_insert? ht).2 (.inl rfl)

/-- A row that is committed is seen for good. -/
theorem row_of_commit (hw : w.Reached) {record : Record}
    (hrow : record ∈ w.db.session.records.rows) (ts : List Step) :
    record ∈ (w.run (.commit :: ts)).1.db.session.records.rows := by
  have hreached : (w.step .commit).1.Reached := hw.run [.commit]
  have hlayered := layered_of_reached (hreached.run ts)
  exact hlayered record (committed_run (layered_of_reached hreached) hrow ts)

/-- **The order of the table matters for ambiguous objects only.** Take any table and the same
entries in another order, and let any run lead from a new site to a world.

* In this world every handle is resolved the same way in both orders, to an address and to an
  object. For an object that at most one entry recognises, its handle is looked for and a new one
  is minted the same way.
* If the run minted for no ambiguous object, nor asked to where an entry gives the object an id
  that is too large for a record, the run in the other order goes through the same databases, and
  all its answers are the same but for those about the handles of ambiguous objects.
* If no object is ambiguous, both runs are the same.
* For an object that several entries recognise, the first of them decides, for minting as for
  looking a handle up. So an object that a handle was minted for is not told to have none: this
  holds for as long as the row is there and the table has the same type and id for the object, and
  the row stays for good once it is committed. -/
theorem table_order_matters_for_ambiguous_only (site : Site) {table table' : Site → ResolverTable}
    (measured : Bool) (scan : Scan) (horder : ∀ s, (table s).entries.Perm (table' s).entries)
    (ss : List Step) :
    let first := start site table measured scan
    let second := start site table' measured scan
    let w := (first.run ss).1
    (∀ r, w.registry.Reorders r →
      (∀ handle, w.registry.resolveUrl w.db handle = r.resolveUrl w.db handle ∧
        w.registry.resolveObject w.db handle = r.resolveObject w.db handle) ∧
      ∀ object, ¬w.registry.table.Ambiguous object →
        w.registry.findHandle w.db object = r.findHandle w.db object ∧
        ∀ value, w.registry.createHandle value w.db object = r.createHandle value w.db object) ∧
    ((∀ p ∈ first.passages ss, ¬p.MintsAmbiguous ∧ ¬p.AsksOversized) →
      List.Forall₂ Passage.Reorders (first.passages ss) (second.passages ss) ∧
      w.Reorders (second.run ss).1) ∧
    ((∀ s object, ¬(table s).Ambiguous object) →
      (first.run ss).2 = (second.run ss).2 ∧ w.db = (second.run ss).1.db) ∧
    ∀ object e id, w.registry.table.FirstToRecognise object e id →
      w.registry.findHandle w.db object =
        Registry.execute (w.db.findHandle e.resolver.type id) ∧
      ∀ handle, (w.step (.createHandle object)).2.result = .ok (.text handle) →
        let minted := (w.step (.createHandle object)).1
        let record : Record := ⟨w.db.sequence, handle, some e.resolver.type.code, some id⟩
        record ∈ minted.db.session.records.rows ∧
        (∀ ts, record ∈ (minted.run (.commit :: ts)).1.db.session.records.rows) ∧
        ∀ ts,
          let w' := (minted.run ts).1
          record ∈ w'.db.session.records.rows →
          w'.registry.table.identity? object = some (e.resolver.type, id) →
          (w'.registry.findHandle w'.db object).result ≠ .ok none ∧
          (w'.db.reachable = true →
            ∃ found, w'.registry.findHandle w'.db object = pure (some found)) := by
  intro first second w
  have hstart : first.Reorders second := reorders_start site measured scan horder
  refine ⟨?_, fun hmint => hstart.run hmint, ?_, ?_⟩
  · intro r hr
    exact ⟨fun handle => hr.resolve w.db handle, fun object hobject => hr.object hobject w.db⟩
  · intro hnone
    refine hstart.run_of_none_ambiguous fun p hp object => ?_
    -- The table in use is one that was built from some settings.
    obtain ⟨-, past, hpast⟩ :=
      passages_keep (fun s _ => builtFrom_step s) (builtFrom_start site table measured scan) p hp
    rw [hpast]
    exact hnone past object
  · intro object e id hfirst
    have hfound := ResolverTable.identify?_eq_some.2 ⟨e, hfirst, rfl⟩
    refine ⟨by simp only [Registry.findHandle, hfound], ?_⟩
    intro handle hanswer minted record
    have hrow : record ∈ minted.db.session.records.rows := row_of_first hfirst hanswer
    have hreached : minted.Reached :=
      Reached.run (w := w) ⟨site, table, measured, scan, ss, rfl⟩ [.createHandle object]
    refine ⟨hrow, row_of_commit hreached hrow, ?_⟩
    intro ts w' hkept hwho
    exact Registry.findHandle_of_row hwho hkept rfl rfl

/-- Two entries that recognise the same objects, and a third one that recognises none of these. The
handle of an ambiguous object is looked for twice, with two answers, and asked for in an outage. -/
theorem table_order_matters_for_ambiguous_only_at_work :
    let entry (type : ResourceType) (kind base : String) : ResolverEntry :=
      ⟨type, .collection type [kind] [5] (.text base) "url"⟩
    let table : Site → ResolverTable := fun _ =>
      .ofEntries [entry .bitstream "X" "a", entry .item "Y" "b", entry .collection "X" "c"]
    let table' : Site → ResolverTable := fun _ =>
      .ofEntries [entry .collection "X" "c", entry .bitstream "X" "a", entry .item "Y" "b"]
    let apart : Site → ResolverTable := fun _ =>
      .ofEntries [⟨.item, .items .missing⟩, entry .collection "X" "c"]
    let apart' : Site → ResolverTable := fun _ =>
      .ofEntries [entry .collection "X" "c", ⟨.item, .items .missing⟩]
    let site : Site := ⟨.text "10.1", .missing, .missing, false⟩
    let object := Resource.tagged "X" (some 5)
    let ss := [Step.insertRecord ⟨7, "10.1/7", some 3, some 5⟩, .findHandle object,
      .resolveUrl (some "10.1/7"), .setReachable false, .createHandle object, .setReachable true,
      .createHandle (.tagged "Y" (some 5))]
    let w := ((start site table true).run ss).1
    let minted := (w.step (.createHandle object)).1
    (∀ s, (table s).entries.Perm (table' s).entries) ∧
    (∀ p ∈ (start site table true).passages ss, ¬p.MintsAmbiguous ∧ ¬p.AsksOversized) ∧
    w.db = ((start site table' true).run ss).1.db ∧
    (((start site table true).run ss).2[1]?.map (·.result)) = some (.ok .nothing) ∧
    (((start site table' true).run ss).2[1]?.map (·.result)) = some (.ok (.text "10.1/7")) ∧
    (w.step (.createHandle object)).2.result = .ok (.text "10.1/2") ∧
    (minted.registry.findHandle minted.db object).result ≠ .ok none ∧
    (∀ s, (apart s).entries.Perm (apart' s).entries) ∧
    (∀ s object, ¬(apart s).Ambiguous object) ∧
    ((start site apart true).run (ss ++ [.createHandle object])).2 =
      ((start site apart' true).run (ss ++ [.createHandle object])).2 := by
  intro entry table table' apart apart' site object ss w minted
  have horder : ∀ s, (table s).entries.Perm (table' s).entries := fun _ =>
    (List.perm_append_singleton (entry .collection "X" "c")
      [entry .bitstream "X" "a", entry .item "Y" "b"])
  have horder' : ∀ s, (apart s).entries.Perm (apart' s).entries := fun _ => .swap _ _ _
  have hmint : ∀ p ∈ (start site table true).passages ss, ¬p.MintsAmbiguous ∧ ¬p.AsksOversized := by
    decide +kernel
  have hnone : ∀ s object, ¬(apart s).Ambiguous object := by
    rintro s object ⟨e, he, e', he', hkey, hid, hid'⟩
    have hentries : (apart s).entries = [⟨.item, .items .missing⟩, entry .collection "X" "c"] := rfl
    rw [hentries] at he he'
    simp only [List.mem_cons, List.not_mem_nil, or_false] at he he'
    rcases he with rfl | rfl <;> rcases he' with rfl | rfl <;>
      cases object <;> simp_all [Resolver.items, Resolver.collection, entry]
  have hanswer : (w.step (.createHandle object)).2.result = .ok (.text "10.1/2") :=
    Passage.minted?_createHandle.1 (by decide +kernel)
  have hrecognised : w.registry.table.FirstToRecognise object (entry .bitstream "X" "a") 5 := by
    obtain ⟨-, past, htable⟩ : w.BuiltFrom table :=
      run_keeps (fun s _ => builtFrom_step s) (builtFrom_start site table true .byId)
    rw [htable]
    exact ⟨[], [entry .item "Y" "b", entry .collection "X" "c"], rfl, nofun, rfl⟩
  obtain ⟨-, hruns, -, hfirst⟩ := table_order_matters_for_ambiguous_only site true .byId horder ss
  obtain ⟨-, -, hequal, -⟩ :=
    table_order_matters_for_ambiguous_only site true .byId horder' (ss ++ [.createHandle object])
  obtain ⟨hrow, -, hfound⟩ := (hfirst object _ 5 hrecognised).2 "10.1/2" hanswer
  exact ⟨horder, hmint, (hruns hmint).2.db, by decide +kernel, by decide +kernel, hanswer,
    (hfound [] hrow (by decide +kernel)).1, horder',
    hnone, (hequal hnone).1⟩

/-- What was minted for an ambiguous object is another object's handle in the other order. And
where one entry gives the object an id that no record takes, nothing is minted in one order. -/
theorem resolution_differs_behind_ambiguous_minting :
    let entry (type : ResourceType) (base : String) : ResolverEntry :=
      ⟨type, .collection type ["X"] [5] (.text base) "url"⟩
    let large : ResolverEntry :=
      ⟨.bitstream, ⟨.bitstream, fun _ _ => none, fun _ => some 0x80000000, .text "a", "url"⟩⟩
    let table := ResolverTable.ofEntries [entry .bitstream "a", entry .item "b"]
    let table' := ResolverTable.ofEntries [entry .item "b", entry .bitstream "a"]
    let wide := ResolverTable.ofEntries [large, entry .item "b"]
    let wide' := ResolverTable.ofEntries [entry .item "b", large]
    let results (t : ResolverTable) :=
      ((start ⟨.text "10.1", .missing, .missing, false⟩ (fun _ => t) true).run
        [.createHandle (.tagged "X" (some 5)), .resolveObject (some "10.1/1"),
          .resolveUrl (some "10.1/1")]).2.map (·.result)
    (table.entries.Perm table'.entries ∧
      results table = [.ok (.text "10.1/1"), .ok (.object (.tagged "BITSTREAM" (some 5))),
        .ok (.text "a/10.1/1")] ∧
      results table' = [.ok (.text "10.1/1"), .ok (.object (.tagged "ITEM" (some 5))),
        .ok (.text "b/10.1/1")]) ∧
    wide.entries.Perm wide'.entries ∧
    results wide = [.error (.store .unfit), .ok .nothing, .ok .nothing] ∧
    results wide' = [.ok (.text "10.1/1"), .ok (.object (.tagged "ITEM" (some 5))),
      .ok (.text "b/10.1/1")] :=
  ⟨⟨.swap _ _ _, by decide +kernel, by decide +kernel⟩, .swap _ _ _, by decide +kernel,
    by decide +kernel⟩

end World

end PersistentId
