import Mathlib
import PersistentId.Proofs.Handle.Composition
import PersistentId.Proofs.Registry.Resolution
import PersistentId.Proofs.Run.Effect

/-!
# PersistentId.Proofs.Minting.Resolution

What a minted handle resolves to.

Minting and resolving go through the dispatch table in different ways: `create_handle` asks the
resolvers in turn who recognises the object (`_identify`), while `resolve_to_url` and
`resolve_to_object` look an entry up by its key (`_resolver_for`). They meet in the record, which
carries the type of the resolver that recognised the object. So a minted handle resolves by the
entry *stored under that type*, and this is the entry that minted it only where the table is keyed
by the types of its resolvers.

That the handle is found at all takes two things: its row was stored in the step that minted
it, and its text is not empty.
-/

namespace PersistentId

namespace World

/-- A minted handle is that of a row which the session sees from then on, with the type of
the resolver that recognised the object and the id it reported. -/
theorem row_of_answer {w : World} {object : Resource} {handle : String}
    (h : (w.step (.createHandle object)).2.result = .ok (.text handle)) :
    ∃ resolver id, ∃ record ∈ (w.step (.createHandle object)).1.db.session.records.rows,
      w.registry.table.identify? object = some (resolver, id) ∧
      record.handle = handle ∧ record.type = some resolver.type.code ∧
      record.resource = some id ∧ handle ≠ "" ∧
      (w.step (.createHandle object)).1.db.reachable = true ∧
      (w.step (.createHandle object)).1.registry = w.registry := by
  obtain ⟨text, resolver, id, t, hup, hfound, rfl, ht, hw⟩ := stored_of_answer h
  have hmem := (RecordTable.mem_rows_of_insert? ht).2 (.inl rfl)
  rw [hw]
  exact ⟨resolver, id, _, hmem, hfound, rfl, rfl, rfl, Handle.compose_ne_empty _ _, hup, rfl⟩

/-- **A minted handle resolves**, in whatever state of the site it was minted, with whatever
table of resolvers, and for whatever object. Let a caller get a handle for an object. Then
some entry `m` is the first that gives the object an id, and in the world behind the step:

* the handle has a record, of the type of `m`'s resolver and of that id, and both resolutions
  count it as found;
* if an entry `e` is stored under that type, the handle stands for `e`'s object of that id:
  it resolves to what `e` finds, and to an address below `e`'s base, or the setting that `e`
  names is missing;
* if there is no such entry, both resolutions refuse the type as unsupported;
* neither refuses the handle as invalid or its record as corrupt, and the address is not
  missing as that of an unknown handle would be;
* where every entry is stored under the type of its resolver, the record is dispatched to `m`,
  and `m` is the entry that the handle stands for an object of. -/
theorem minted_handle_resolves {w : World} {object : Resource} {handle : String}
    (h : (w.step (.createHandle object)).2.result = .ok (.text handle)) :
    let w' := (w.step (.createHandle object)).1
    let r := w'.registry
    r = w.registry ∧ (∃ m id, r.table.FirstToRecognise object m id) ∧
    ∀ m id, r.table.FirstToRecognise object m id →
      (∃ record, w'.db.findRecord handle = .ok (some record) ∧
        record.type = some m.resolver.type.code ∧ record.resource = some id ∧
        (r.table.Keyed → r.dispatch record = .ok (m.resolver, id))) ∧
      (r.resolveEvents true <+: (r.resolveObject w'.db (some handle)).events ∧
        r.resolveEvents true <+: (r.resolveUrl w'.db (some handle)).events) ∧
      (∀ e ∈ r.table.entries, e.key = m.resolver.type → r.StandsFor w'.db handle e id) ∧
      ((∀ e ∈ r.table.entries, e.key ≠ m.resolver.type) →
        (r.resolveObject w'.db (some handle)).result =
            .error (.handle (.unsupportedType m.resolver.type.code)) ∧
          (r.resolveUrl w'.db (some handle)).result =
            .error (.handle (.unsupportedType m.resolver.type.code))) ∧
      (∀ e, (r.resolveObject w'.db (some handle)).result = .error (.handle e) ∨
          (r.resolveUrl w'.db (some handle)).result = .error (.handle e) →
        e.category ≠ .invalidHandle ∧ e.category ≠ .corruptRecord) ∧
      (r.resolveUrl w'.db (some handle)).result ≠ .ok none ∧
      (r.table.Keyed → r.StandsFor w'.db handle m id) := by
  intro w' r
  obtain ⟨resolver, id, record, hrow, hfound, rfl, htype, hresource, hne, hup, hr⟩ :=
    row_of_answer h
  have hr' : r = w.registry := hr
  rw [← hr] at hfound
  obtain ⟨first, hfirst, -⟩ := ResolverTable.identify?_eq_some.1 hfound
  refine ⟨hr', ⟨first, id, hfirst⟩, ?_⟩
  intro m i hm
  -- The entry that minted it is the one that `identify?` chose.
  obtain ⟨rfl, rfl⟩ : m.resolver = resolver ∧ i = id := by
    have hm' := (ResolverTable.identify?_eq_some.2 ⟨m, hm, rfl⟩).symm.trans hfound
    simpa using hm'
  have hstands : ∀ e ∈ r.table.entries, e.key = m.resolver.type →
      r.StandsFor w'.db record.handle e i := by
    intro e he hkey
    exact Registry.standsFor_of_row hup hrow hne he (hkey ▸ htype) hresource
  have hnobody : (∀ e ∈ r.table.entries, e.key ≠ m.resolver.type) →
      (r.resolveObject w'.db (some record.handle)).result =
          .error (.handle (.unsupportedType m.resolver.type.code)) ∧
        (r.resolveUrl w'.db (some record.handle)).result =
          .error (.handle (.unsupportedType m.resolver.type.code)) :=
    fun hnone => Registry.unsupported_of_row hup hrow hne hnone htype hresource
  obtain ⟨hrefused, hfound'⟩ := Registry.not_refused_of_row (r := r) hup hrow hne htype hresource
  refine ⟨⟨record, ?_, htype, hresource, ?_⟩, Registry.counted_of_row hup hrow hne, hstands,
    hnobody, hrefused, hfound', ?_⟩
  · rw [Database.findRecord, Database.query_of_reachable hup,
      RecordTable.find?_eq_some.2 ⟨hrow, rfl⟩]
  · intro hkeyed
    exact Registry.dispatch_of_entry hm.mem (hkeyed m hm.mem ▸ htype) hresource
  · intro hkeyed
    exact hstands m hm.mem (hkeyed m hm.mem)

/-- An object of id 0 that two entries recognise. The first of them is stored under another
type than its own, which is that of code 0, so the handle is dispatched to the second. -/
theorem minted_handle_resolves_under_other_key :
    let minter : ResolverEntry :=
      ⟨.community, .collection .bitstream ["X"] [] (.text "http://a") "a.url.prefix"⟩
    let other : ResolverEntry :=
      ⟨.bitstream, .collection .collection ["X"] [0] (.text "http://b/") "b.url.prefix"⟩
    let table := ResolverTable.ofEntries [⟨.item, .items .missing⟩, minter, other]
    let object := Resource.tagged "X" (some 0)
    let w := start ⟨.text "10.1", .missing, .missing, false⟩ (fun _ => table) true
    let w' := (w.step (.createHandle object)).1
    (w.step (.createHandle object)).2.result = .ok (.text "10.1/1") ∧
    w'.registry.table.FirstToRecognise object minter 0 ∧
    w'.registry.StandsFor w'.db "10.1/1" other 0 ∧
    (w'.registry.resolveObject w'.db (some "10.1/1")).result =
      .ok (some (.tagged "COLLECTION" (some 0))) ∧
    (w'.registry.resolveUrl w'.db (some "10.1/1")).result = .ok (some "http://b/10.1/1") := by
  intro minter other table object w w'
  have hanswer : (w.step (.createHandle object)).2.result = .ok (.text "10.1/1") :=
    Passage.minted?_createHandle.1 (by decide +kernel)
  obtain ⟨hregistry, -, hresolves⟩ := minted_handle_resolves hanswer
  have hfirst : w'.registry.table.FirstToRecognise object minter 0 := by
    rw [hregistry]
    exact ⟨[⟨.item, .items .missing⟩], [other], rfl, by decide +kernel, rfl⟩
  have hother : other ∈ w'.registry.table.entries := by
    rw [hregistry]
    exact .tail _ (.tail _ (.head _))
  have hstands := (hresolves minter 0 hfirst).2.2.1 other hother rfl
  exact ⟨hanswer, hfirst, hstands, hstands.object, hstands.address _ rfl (by decide)⟩

end World

end PersistentId
