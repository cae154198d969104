import Mathlib
import PersistentId.Proofs.Store.Rows
import PersistentId.Registry

/-!
# PersistentId.Proofs.Registry.Recognition

Who an object is to the registry, and which handle it has.

There are two ways through the dispatch table. An *object* is shown to the resolvers in the order
of their entries, and the first one that gives it an id wins (`_identify`, told by
`ResolverTable.FirstToRecognise`). A *record* is dispatched by its type code to the one entry of
that key (`_resolver_for`). What joins the two is the pair of type and id under which an object is
recorded (`ResolverTable.identity?`): minting writes it down, looking for the handle of an object
asks for it.

So the handle of an object is a matter of its identity and of the rows with this identity,
and the resolvers have no further say in it (`Registry.findHandle_of_reachable`).
-/

namespace PersistentId

/-! ### The dispatch table -/

namespace ResolverTable

/-- An entry gives an object an id, and no entry in front of it gives it any. -/
def FirstToRecognise (t : ResolverTable) (object : Resource) (e : ResolverEntry) (id : Int) :
    Prop :=
  ∃ front rest, t.entries = front ++ e :: rest ∧
    (∀ x ∈ front, x.resolver.identify object = none) ∧ e.resolver.identify object = some id

theorem FirstToRecognise.mem {t : ResolverTable} {object : Resource} {e : ResolverEntry}
    {id : Int} (h : t.FirstToRecognise object e id) : e ∈ t.entries := by
  obtain ⟨front, rest, hsplit, -, -⟩ := h
  rw [hsplit]
  exact List.mem_append_right front List.mem_cons_self

/-- An object is recognised by the resolver of the first entry that gives it an id. -/
theorem identify?_eq_some {t : ResolverTable} {object : Resource} {resolver : Resolver}
    {id : Int} :
    t.identify? object = some (resolver, id) ↔
      ∃ e, t.FirstToRecognise object e id ∧ e.resolver = resolver := by
  unfold identify? FirstToRecognise
  rw [List.findSome?_eq_some_iff]
  constructor
  · rintro ⟨front, e, rest, hsplit, hid, hfront⟩
    obtain ⟨i, hi, hpair⟩ := Option.map_eq_some_iff.1 hid
    obtain ⟨hresolver, rfl⟩ := Prod.mk.inj hpair
    exact ⟨e, ⟨front, rest, hsplit, fun x hx => Option.map_eq_none_iff.1 (hfront x hx), hi⟩,
      hresolver⟩
  · rintro ⟨e, ⟨front, rest, hsplit, hfront, hi⟩, rfl⟩
    exact ⟨front, e, rest, hsplit, by rw [hi]; rfl, fun x hx => by rw [hfront x hx]; rfl⟩

/-- The code of an entry's key is dispatched to the entry's resolver. -/
theorem get?_key {t : ResolverTable} {e : ResolverEntry} (h : e ∈ t.entries) :
    t.get? e.key.code = some e.resolver := get?_eq_some.2 ⟨e, h, rfl, rfl⟩

/-- A type is dispatched to nobody exactly when it is the key of no entry. -/
theorem get?_code_eq_none {t : ResolverTable} {type : ResourceType} :
    t.get? type.code = none ↔ ∀ e ∈ t.entries, e.key ≠ type := by
  unfold get?
  rw [Option.map_eq_none_iff, List.find?_eq_none]
  constructor
  · rintro h e he rfl
    exact h e he (beq_self_eq_true _)
  · intro h e he hcode
    exact h e he (ResourceType.code_injective (beq_iff_eq.1 hcode))

/-- The type and the id under which an object is recorded, as the first resolver that
recognises it reports them. -/
def identity? (t : ResolverTable) (object : Resource) : Option (ResourceType × Int) :=
  (t.identify? object).map fun found => (found.1.type, found.2)

theorem identity?_of_identify? {t : ResolverTable} {object : Resource} {resolver : Resolver}
    {id : Int} (h : t.identify? object = some (resolver, id)) :
    t.identity? object = some (resolver.type, id) := by
  rw [identity?, h]
  rfl

/-- Every entry is stored under the type that its resolver puts on records. -/
def Keyed (t : ResolverTable) : Prop := ∀ e ∈ t.entries, e.key = e.resolver.type

end ResolverTable

/-! ### The handle of an object -/

namespace Registry

/-- While the database is up, the handle of an object is that of its earliest row, and
looking for it tells the outside nothing. An object that nobody recognises has none. -/
theorem findHandle_of_reachable (r : Registry) {db : Database} (hup : db.reachable = true)
    (object : Resource) :
    r.findHandle db object =
      pure ((r.table.identity? object).bind fun who =>
        db.session.records.handleOf? who.1.code who.2) := by
  unfold findHandle ResolverTable.identity?
  cases hfound : r.table.identify? object with
  | none => rfl
  | some found =>
      simp only [Database.findHandle, Database.query_of_reachable hup]
      rfl

/-- In an outage no object has a handle to show: it is not recognised, or it is not looked up. -/
theorem findHandle_of_outage (r : Registry) {db : Database} (hdown : db.reachable = false)
    (object : Resource) :
    r.findHandle db object =
      match r.table.identity? object with
      | none => pure none
      | some _ => .fail (.store .outage) := by
  unfold findHandle ResolverTable.identity?
  cases hfound : r.table.identify? object with
  | none => rfl
  | some found =>
      simp only [Database.findHandle, Database.query_of_outage hdown]
      rfl

/-- An object has a handle where the database is up, somebody recognises it, and there is an
earliest row of its identity. -/
theorem findHandle_eq_some {r : Registry} {db : Database} {object : Resource} {handle : String} :
    r.findHandle db object = pure (some handle) ↔
      db.reachable = true ∧ ∃ type id record, r.table.identity? object = some (type, id) ∧
        db.session.records.IsEarliest type.code id record ∧ record.handle = handle := by
  cases hup : db.reachable with
  | false =>
      rw [findHandle_of_outage r hup]
      constructor
      · intro h
        cases hwho : r.table.identity? object <;> rw [hwho] at h <;> cases h
      · rintro ⟨h, -⟩
        cases h
  | true =>
      rw [findHandle_of_reachable r hup]
      constructor
      · intro h
        have hfound := Except.ok.inj (congrArg Outcome.result h)
        obtain ⟨who, hwho, hhandle⟩ := Option.bind_eq_some_iff.1 hfound
        obtain ⟨record, hearliest, hrecord⟩ := RecordTable.handleOf?_eq_some.1 hhandle
        exact ⟨rfl, who.1, who.2, record, hwho, hearliest, hrecord⟩
      · rintro ⟨-, type, id, record, hwho, hearliest, hrecord⟩
        rw [hwho]
        exact congrArg pure (RecordTable.handleOf?_eq_some.2 ⟨record, hearliest, hrecord⟩)

/-- An object with a row has a handle. In an outage this cannot be told, but it is not told to have
none either. -/
theorem findHandle_of_row {r : Registry} {db : Database} {object : Resource} {type : ResourceType}
    {id : Int} {record : Record} (hwho : r.table.identity? object = some (type, id))
    (hrow : record ∈ db.session.records.rows) (htype : record.type = some type.code)
    (hresource : record.resource = some id) :
    (r.findHandle db object).result ≠ .ok none ∧
      (db.reachable = true → ∃ handle, r.findHandle db object = pure (some handle)) := by
  obtain ⟨first, hfirst⟩ := RecordTable.exists_isEarliest hrow htype hresource
  have hup : db.reachable = true → r.findHandle db object = pure (some first.handle) :=
    fun hup => findHandle_eq_some.2 ⟨hup, type, id, first, hwho, hfirst, rfl⟩
  refine ⟨?_, fun h => ⟨_, hup h⟩⟩
  cases hreach : db.reachable with
  | true =>
      rw [hup hreach]
      nofun
  | false =>
      rw [findHandle_of_outage r hreach, hwho]
      nofun

end Registry

end PersistentId
