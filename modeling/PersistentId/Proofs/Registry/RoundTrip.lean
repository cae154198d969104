import Mathlib
import PersistentId.Proofs.Registry.Resolution
import PersistentId.World

/-!
# PersistentId.Proofs.Registry.RoundTrip

From a handle to its object, and back to a handle.

`resolve_to_object` dispatches by key and asks the resolver to *find* an object; `find_handle`
asks the resolvers in turn to *identify* it. The two are inverse to each other
only if the table sees to it (`ResolverTable.Coherent`): every entry is stored under the type
of its resolver, and recognises what its resolver finds, and nobody else does.

On such a table the way back leads to the earliest row of the same type and id. Many handles
may stand for one object, and all of them come back to that one.
-/

namespace PersistentId

namespace ResolverTable

/-- The entries of a table know the objects that they find, and nobody else's. -/
structure Coherent (t : ResolverTable) : Prop where
  keyed : t.Keyed
  own : ∀ e ∈ t.entries, ∀ items id object,
    e.resolver.find items id = some object → e.resolver.identify object = some id
  others : ∀ e ∈ t.entries, ∀ items id object, e.resolver.find items id = some object →
    ∀ x ∈ t.entries, x.key ≠ e.key → x.resolver.identify object = none

/-- The table used unless another one is given is coherent. -/
theorem coherent_items (urlPrefix : LiveValue) : (items urlPrefix).Coherent where
  keyed := by
    intro e he
    rw [List.mem_singleton.1 he]
    rfl
  own := by
    intro e he items id object hfind
    rw [List.mem_singleton.1 he] at hfind ⊢
    dsimp only [Resolver.items] at hfind ⊢
    split at hfind
    · cases hfind
      rfl
    · cases hfind
  others := by
    intro e he items id object _ x hx hkey
    rw [List.mem_singleton.1 he, List.mem_singleton.1 hx] at hkey
    exact absurd rfl hkey

/-- On a coherent table an object is identified as the one that was found. -/
theorem Coherent.identify?_of_find {t : ResolverTable} (ht : t.Coherent) {e : ResolverEntry}
    (he : e ∈ t.entries) {items : List Int} {id : Int} {object : Resource}
    (hfind : e.resolver.find items id = some object) :
    t.identify? object = some (e.resolver, id) := by
  obtain ⟨front, rest, hsplit⟩ := List.append_of_mem he
  refine identify?_eq_some.2
    ⟨e, ⟨front, rest, hsplit, ?_, ht.own e he items id object hfind⟩, rfl⟩
  intro x hx
  have hmem : x ∈ t.entries := by
    rw [hsplit]
    exact List.mem_append_left _ hx
  refine ht.others e he items id object hfind x hmem ?_
  -- Entries in front of it have other keys.
  have hdistinct := t.distinct
  rw [hsplit, List.map_append, List.map_cons, List.nodup_append] at hdistinct
  exact hdistinct.2.2 x.key (List.mem_map_of_mem hx) e.key List.mem_cons_self

end ResolverTable

namespace Registry

/-- The object of a stored handle has the type and the id of its row as its identity. -/
theorem identity_of_object {r : Registry} {db : Database} (htable : r.table.Coherent)
    {record : Record} (hrow : record ∈ db.session.records.rows) {object : Resource}
    (h : (r.resolveObject db (some record.handle)).result = .ok (some object)) :
    ∃ type id, r.table.identity? object = some (type, id) ∧
      record.type = some type.code ∧ record.resource = some id := by
  obtain ⟨-, found, hfound, e, he, id, hhandle, htype, hresource, hfind⟩ := row_of_object h
  obtain rfl : record = found :=
    RecordTable.eq_of_handle_eq hrow hfound (Option.some.inj hhandle)
  have hidentity := ResolverTable.identity?_of_identify? (htable.identify?_of_find he hfind)
  rw [← htable.keyed e he] at hidentity
  exact ⟨e.key, id, hidentity, htype, hresource⟩

/-- Rows of the same type and id resolve to the same object. -/
theorem resolveObject_of_same {r : Registry} {db : Database} {a b : Record}
    (ha : a ∈ db.session.records.rows) (hb : b ∈ db.session.records.rows) (hne : b.handle ≠ "")
    (htype : a.type = b.type) (hresource : a.resource = b.resource) {object : Resource}
    (h : (r.resolveObject db (some a.handle)).result = .ok (some object)) :
    (r.resolveObject db (some b.handle)).result = .ok (some object) := by
  obtain ⟨hup, found, hfound, e, he, id, hhandle, htype', hresource', hfind⟩ := row_of_object h
  obtain rfl : a = found := RecordTable.eq_of_handle_eq ha hfound (Option.some.inj hhandle)
  rw [htype] at htype'
  rw [hresource] at hresource'
  rw [(standsFor_of_row hup hb hne he htype' hresource').object, hfind]

/-- **From a handle to its object and back.** The table used unless another one is given is
coherent. Let the registry have a coherent table, and let no handle that is stored be empty;
rows may have come in any way and order. Then:

* the object that a handle resolves to has a handle, that of the earliest row with the type and
  id of the first handle's row. It resolves to the same object, and the handle of that is the
  same again;
* two stored handles that resolve to objects resolve to the same one exactly where their rows
  have the same type and id, so that the way back leads to the same handle. -/
theorem handle_object_round_trip {r : Registry} {db : Database} (htable : r.table.Coherent)
    (hhandles : ∀ record ∈ db.session.records.rows, record.handle ≠ "") :
    (∀ urlPrefix, (ResolverTable.items urlPrefix).Coherent) ∧
    (∀ handle object, (r.resolveObject db handle).result = .ok (some object) →
      ∃ record ∈ db.session.records.rows, ∃ type id first,
        handle = some record.handle ∧ record.type = some type ∧ record.resource = some id ∧
        db.session.records.IsEarliest type id first ∧ first.id ≤ record.id ∧
        r.findHandle db object = pure (some first.handle) ∧
        (r.resolveObject db (some first.handle)).result = .ok (some object) ∧
        ∀ again, (r.resolveObject db (some first.handle)).result = .ok (some again) →
          r.findHandle db again = pure (some first.handle)) ∧
    ∀ a ∈ db.session.records.rows, ∀ b ∈ db.session.records.rows, ∀ object object',
      (r.resolveObject db (some a.handle)).result = .ok (some object) →
      (r.resolveObject db (some b.handle)).result = .ok (some object') →
        (object = object' ↔ a.type = b.type ∧ a.resource = b.resource) ∧
        (a.type = b.type → a.resource = b.resource →
          r.findHandle db object = r.findHandle db object') := by
  refine ⟨ResolverTable.coherent_items, ?_, ?_⟩
  · intro handle object h
    obtain ⟨hup, record, hrow, -, -, -, rfl, -⟩ := row_of_object h
    obtain ⟨type, id, hwho, htype, hresource⟩ := identity_of_object htable hrow h
    obtain ⟨first, hfirst⟩ := RecordTable.exists_isEarliest hrow htype hresource
    have hfind : r.findHandle db object = pure (some first.handle) :=
      findHandle_eq_some.2 ⟨hup, type, id, first, hwho, hfirst, rfl⟩
    have hback : (r.resolveObject db (some first.handle)).result = .ok (some object) :=
      resolveObject_of_same hrow hfirst.mem (hhandles first hfirst.mem)
        (htype.trans hfirst.type_eq.symm) (hresource.trans hfirst.resource_eq.symm) h
    refine ⟨record, hrow, type.code, id, first, rfl, htype, hresource, hfirst,
      hfirst.le record hrow htype hresource, hfind, hback, ?_⟩
    intro again hagain
    rw [hback] at hagain
    cases hagain
    exact hfind
  · intro a ha b hb object object' hobject hobject'
    have hsame : a.type = b.type → a.resource = b.resource → object = object' := by
      intro htype hresource
      have hb' := resolveObject_of_same ha hb (hhandles b hb) htype hresource hobject
      rw [hobject'] at hb'
      cases hb'
      rfl
    refine ⟨⟨?_, fun h => hsame h.1 h.2⟩, fun htype hresource => by rw [hsame htype hresource]⟩
    rintro rfl
    obtain ⟨type, id, hwho, htype, hresource⟩ := identity_of_object htable ha hobject
    obtain ⟨type', id', hwho', htype', hresource'⟩ := identity_of_object htable hb hobject'
    rw [hwho] at hwho'
    cases hwho'
    exact ⟨htype.trans htype'.symm, hresource.trans hresource'.symm⟩

/-- Two handles of one item, the later one written first, between a row of another type and a
row without a type. Both come back to the earlier one. -/
theorem handle_object_round_trip_out_of_order :
    let site : Site := ⟨.missing, .missing, .missing, false⟩
    let w := ((World.start site World.defaultTable false).run [.addItem 7,
      .insertRecord ⟨4, "d", some 2, some 7⟩, .insertRecord ⟨1, "a", some 3, some 7⟩,
      .insertRecord ⟨3, "c", none, some 7⟩, .insertRecord ⟨2, "b", some 2, some 7⟩]).1
    let item := Resource.item (some 7)
    w.registry.table.Coherent ∧
    (∀ record ∈ w.db.session.records.rows, record.handle ≠ "") ∧
    (w.registry.resolveObject w.db (some "d")).result = .ok (some item) ∧
    w.registry.findHandle w.db item = pure (some "b") ∧
    (w.registry.resolveObject w.db (some "b")).result = .ok (some item) := by
  intro site w item
  have htable : w.registry.table.Coherent := ResolverTable.coherent_items .missing
  have hhandles : ∀ record ∈ w.db.session.records.rows, record.handle ≠ "" := by
    decide +kernel
  have hobject : (w.registry.resolveObject w.db (some "d")).result = .ok (some item) := rfl
  have hfind : w.registry.findHandle w.db item = pure (some "b") := rfl
  obtain ⟨-, -, -, -, first, -, -, -, -, -, hfirst, hback, -⟩ :=
    (handle_object_round_trip htable hhandles).2.1 (some "d") item hobject
  have hhandle : some first.handle = some "b" :=
    Except.ok.inj (congrArg Outcome.result (hfirst.symm.trans hfind))
  rw [hhandle] at hback
  exact ⟨htable, hhandles, hobject, hfind, hback⟩

end Registry

end PersistentId
