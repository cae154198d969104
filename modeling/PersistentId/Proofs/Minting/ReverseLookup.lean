import Mathlib
import PersistentId.Proofs.Minting.Integrity
import PersistentId.Proofs.Run.Permanence

/-!
# PersistentId.Proofs.Minting.ReverseLookup

Which handle an object has, while more and more are minted for it.

The handle of an object, `find_handle`, is that of its lowest id, as
`select_resource_handle_stmt` orders it. As long as the sequence only moves on, and
minting alone writes rows, the lowest id is also the earliest one: a new row comes in above
all others (`RecordTable.MintedBelow`). So it gives an object a handle only where the object
had none. And a row that is committed stays, so that nothing can take the place of the
earliest row once this is committed.
-/

namespace PersistentId

/-- An earliest row stays the earliest where all that is new has a larger id. -/
theorem RecordTable.IsEarliest.of_above {t u : RecordTable} {type resource : Int} {r : Record}
    (hr : t.IsEarliest type resource r) (hmem : r ∈ u.rows)
    (hnew : ∀ x ∈ u.rows, x ∈ t.rows ∨ r.id < x.id) : u.IsEarliest type resource r where
  mem := hmem
  type_eq := hr.type_eq
  resource_eq := hr.resource_eq
  le := by
    intro x hx htype hresource
    rcases hnew x hx with hold | habove
    · exact hr.le x hold htype hresource
    · exact le_of_lt habove

namespace World

/-- A caller who gets a handle changes the handles of objects in one way only: those of the
same identity have it now, unless they had one before. -/
theorem findHandle_of_answer {w : World} {object : Resource} {handle : String}
    (h : (w.step (.createHandle object)).2.result = .ok (.text handle))
    (hbelow : ∀ r ∈ w.db.session.records.rows, r.id < w.db.sequence) (other : Resource) :
    ∃ found, w.registry.findHandle w.db other = pure found ∧
      (w.step (.createHandle object)).1.registry.findHandle (w.step (.createHandle object)).1.db
          other =
        pure (found.or
          (if w.registry.table.identity? other = w.registry.table.identity? object
            then some handle else none)) := by
  obtain ⟨text, resolver, id, t, hup, hfound, rfl, ht, hw⟩ := stored_of_answer h
  have hidentity := ResolverTable.identity?_of_identify? hfound
  have hup' : (w.db.advance.withRecords t).reachable = true := hup
  refine ⟨_, Registry.findHandle_of_reachable _ hup other, ?_⟩
  rw [hw]
  refine (Registry.findHandle_of_reachable w.registry hup' other).trans (congrArg pure ?_)
  rw [hidentity]
  cases hother : w.registry.table.identity? other with
  | none => rfl
  | some who =>
      obtain ⟨type, resource⟩ := who
      have hsame : (some resolver.type.code = some type.code ∧ some id = some resource) ↔
          some (type, resource) = some (resolver.type, id) := by
        constructor
        · rintro ⟨hcode, hid⟩
          rw [ResourceType.code_injective (Option.some.inj hcode), Option.some.inj hid]
        · intro hpair
          cases hpair
          exact ⟨rfl, rfl⟩
      rw [Option.bind_some, Option.bind_some, Database.records_withRecords,
        RecordTable.handleOf?_of_above ht hbelow type.code resource]
      simp only [MintRequest.record, hsame]

/-- Once the row of an object's handle is committed, the object keeps the handle over every run
in which minting alone writes rows and nobody sets the sequence by hand. -/
theorem findHandle_run {w : World} (hw : w.Reached)
    (hbelow : ∀ r ∈ w.db.session.records.rows, r.id < w.db.sequence) {object : Resource}
    {handle : String} (hfind : w.registry.findHandle w.db object = pure (some handle))
    (hcommitted : ∃ r ∈ w.db.committed.records.rows, r.handle = handle) {ts : List Step}
    (hrows : ∀ s ∈ ts, s.row? = none) (hseq : ∀ s ∈ ts, s.setsSequence = false)
    (hup : (w.run ts).1.db.reachable = true)
    (hidentity : (w.run ts).1.registry.table.identity? object =
      w.registry.table.identity? object) :
    (w.run ts).1.registry.findHandle (w.run ts).1.db object = pure (some handle) := by
  obtain ⟨-, type, id, first, hwho, hfirst, hhandle⟩ := Registry.findHandle_eq_some.1 hfind
  have hlayered := layered_of_reached hw
  have hlayered' := layered_of_reached (hw.run ts)
  -- The row found and the row committed have one handle, so they are one row.
  obtain ⟨r, hr, hrhandle⟩ := hcommitted
  obtain rfl : r = first :=
    RecordTable.eq_of_handle_eq (hlayered r hr) hfirst.mem (hrhandle.trans hhandle.symm)
  refine Registry.findHandle_eq_some.2
    ⟨hup, type, id, r, hidentity.trans hwho, hfirst.of_above ?_ ?_, hhandle⟩
  · exact hlayered' r (committed_run hlayered hr ts)
  · intro x hx
    rcases held_or_minted hrows (.inr hx) with (hold | hold) | ⟨p, hp, hm⟩
    · exact .inl (hlayered x hold)
    · exact .inl hold
    · obtain ⟨_, _, _, _, -, -, -, -, hdrawn, -⟩ := hm
      exact .inr (lt_of_lt_of_le (hbelow r hfirst.mem) (le_of_drawn? hseq hp hdrawn))

/-- **Looking for the handle of an object is stable.** Behind every run of a new site in which
minting alone writes rows and nobody sets the sequence by hand:

* a caller who gets a handle for an object leaves the object the handle it had before, or gives
  it the new one where it had none;
* it leaves the handles of all objects of another type or another id as they were;
* an object whose handle has a committed row keeps the handle over every further run of this
  kind: it is found whenever the database is up and the table has the same type and id for
  the object as before. -/
theorem reverse_lookup_stable (site : Site) (table : Site → ResolverTable) (measured : Bool)
    (scan : Scan) (ss : List Step) (hrows : ∀ s ∈ ss, s.row? = none)
    (hseq : ∀ s ∈ ss, s.setsSequence = false) :
    let w := ((start site table measured scan).run ss).1
    (∀ object handle, (w.step (.createHandle object)).2.result = .ok (.text handle) →
      let w' := (w.step (.createHandle object)).1
      (∃ found, w.registry.findHandle w.db object = pure found ∧
        w'.registry.findHandle w'.db object = pure (some (found.getD handle))) ∧
      ∀ other,
        w.registry.table.identity? other ≠ w.registry.table.identity? object →
        w'.registry.findHandle w'.db other = w.registry.findHandle w.db other) ∧
    ∀ object handle, w.registry.findHandle w.db object = pure (some handle) →
      (∃ r ∈ w.db.committed.records.rows, r.handle = handle) →
      ∀ ts, (∀ s ∈ ts, s.row? = none) → (∀ s ∈ ts, s.setsSequence = false) →
        let w' := (w.run ts).1
        w'.db.reachable = true →
        w'.registry.table.identity? object = w.registry.table.identity? object →
        w'.registry.findHandle w'.db object = pure (some handle) := by
  intro w
  have hminted : w.db.session.records.MintedBelow w.db.sequence := mintedBelow_run hrows hseq
  have hbelow := hminted.below
  refine ⟨?_, ?_⟩
  · intro object handle hanswer w'
    refine ⟨?_, ?_⟩
    · obtain ⟨found, hfound, hfound'⟩ := findHandle_of_answer hanswer hbelow object
      refine ⟨found, hfound, hfound'.trans ?_⟩
      rw [if_pos rfl]
      cases found <;> rfl
    · intro other hother
      obtain ⟨found, hfound, hfound'⟩ := findHandle_of_answer hanswer hbelow other
      rw [if_neg hother, Option.or_none] at hfound'
      exact hfound'.trans hfound.symm
  · intro object handle hfind hcommitted ts hrows' hseq' w' hup hidentity
    exact findHandle_run ⟨site, table, measured, scan, ss, rfl⟩ hbelow hfind hcommitted hrows' hseq'
      hup hidentity

/-- An item that is minted for twice, the first time in a transaction that is rolled back. Of
the two handles that come behind it the committed one is found, also when another item gets its
first handle, and when a new prefix, one more handle, a deletion and an outage follow. -/
theorem reverse_lookup_stable_over_rollback :
    let item (id : Int) := Resource.item (some id)
    let ss := [Step.addItem 7, .createHandle (item 7), .rollback, .createHandle (item 7), .commit,
      .createHandle (item 7)]
    let w := ((start ⟨.text "10.1", .missing, .missing, false⟩ defaultTable true).run ss).1
    let w' := (w.step (.createHandle (item 8))).1
    let ts := [Step.rollback, .setSetting "handle_prefix" (.text "a"), .createHandle (item 7),
      .deleteItem 7, .commit, .setReachable false, .createHandle (item 7), .setReachable true]
    (∀ s ∈ ss, s.row? = none) ∧ (∀ s ∈ ss, s.setsSequence = false) ∧
    (∀ s ∈ ts, s.row? = none) ∧ (∀ s ∈ ts, s.setsSequence = false) ∧
    w.registry.findHandle w.db (item 7) = pure (some "10.1/2") ∧
    (w.step (.createHandle (item 8))).2.result = .ok (.text "10.1/4") ∧
    w'.registry.findHandle w'.db (item 8) = pure (some "10.1/4") ∧
    w'.registry.findHandle w'.db (item 7) = pure (some "10.1/2") ∧
    (w.run ts).1.registry.findHandle (w.run ts).1.db (item 7) = pure (some "10.1/2") := by
  intro item ss w w' ts
  have hrows : ∀ s ∈ ss, s.row? = none := by decide
  have hseq : ∀ s ∈ ss, s.setsSequence = false := by decide
  have hrows' : ∀ s ∈ ts, s.row? = none := by decide
  have hseq' : ∀ s ∈ ts, s.setsSequence = false := by decide
  have hfind : w.registry.findHandle w.db (item 7) = pure (some "10.1/2") := by decide +kernel
  have hanswer : (w.step (.createHandle (item 8))).2.result = .ok (.text "10.1/4") :=
    Passage.minted?_createHandle.1 (by decide +kernel)
  have hcommitted : ∃ r ∈ w.db.committed.records.rows, r.handle = "10.1/2" :=
    ⟨⟨2, "10.1/2", some 2, some 7⟩, by decide +kernel, rfl⟩
  have hup : (w.run ts).1.db.reachable = true := by decide +kernel
  have hidentity : (w.run ts).1.registry.table.identity? (item 7) =
      w.registry.table.identity? (item 7) := by decide +kernel
  have hnone : w.registry.findHandle w.db (item 8) = pure none := by decide +kernel
  have hother : w.registry.table.identity? (item 7) ≠ w.registry.table.identity? (item 8) := by
    decide +kernel
  have hstable := reverse_lookup_stable ⟨.text "10.1", .missing, .missing, false⟩
    defaultTable true .byId ss hrows hseq
  -- What matters of the world is known by now, so its run is not unfolded any more.
  have hw : ((start ⟨.text "10.1", .missing, .missing, false⟩ defaultTable true).run ss).1 = w :=
    rfl
  rw [hw] at hstable
  clear_value w
  obtain ⟨hmint, hkeep⟩ := hstable
  obtain ⟨⟨found, hfound, hfound'⟩, hothers⟩ := hmint (item 8) "10.1/4" hanswer
  have hsame : found = none :=
    Except.ok.inj (congrArg Outcome.result (hfound.symm.trans hnone))
  refine ⟨hrows, hseq, hrows', hseq', hfind, hanswer, ?_, ?_, ?_⟩
  · rw [hsame] at hfound'
    exact hfound'
  · exact (hothers (item 7) hother).trans hfind
  · exact hkeep (item 7) "10.1/2" hfind hcommitted ts hrows' hseq' hup hidentity

end World

end PersistentId
