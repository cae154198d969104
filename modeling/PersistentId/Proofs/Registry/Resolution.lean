import Mathlib
import PersistentId.Proofs.Registry.Recognition

/-!
# PersistentId.Proofs.Registry.Resolution

What resolving a handle comes to.

Resolving to an address and resolving to an object begin alike: the record of the handle is
looked up and counted (`_find_record`), then the resolver of its type is chosen
(`_resolver_for`). Everything behind that is a function of the record alone
(`addressOf`, `objectOf`). So a resolution can go wrong in the ways of its three parts and
in no other, and two resolutions that find the same record and the same resolver are the
same, whatever else differs between the databases and the registries.
-/

namespace PersistentId

/-- A text is present exactly where it is there and not empty. -/
theorem present?_eq_some {handle : Option String} {text : String} :
    present? handle = some text ↔ handle = some text ∧ text ≠ "" := by
  cases handle with
  | none => simp [present?]
  | some s =>
      by_cases hs : s = ""
      · subst hs
        simp only [present?]
        constructor
        · intro h
          cases h
        · rintro ⟨h, hne⟩
          exact absurd (Option.some.inj h).symm hne
      · simp only [present?, if_neg (by simpa using hs : ¬ s.isEmpty = true), Option.some.injEq]
        constructor
        · rintro rfl
          exact ⟨rfl, hs⟩
        · exact And.left

namespace Registry

/-! ### Looking a record up -/

/-- The counter of a resolution, where there is a sink. -/
def resolveEvents (r : Registry) (found : Bool) : List Event :=
  if r.measured then
    [.metric (.increment "handle.registry.resolve"
      [("outcome", .text (if found then "found" else "not_found"))])]
  else []

/-- A missing or empty handle is refused before anything is asked. -/
theorem findRecord_of_missing {handle : Option String} (h : present? handle = none)
    (r : Registry) (db : Database) : r.findRecord db handle = refuse .missingHandle := by
  unfold findRecord
  rw [h]

/-- An outage is not counted. -/
theorem findRecord_of_outage {handle : Option String} {text : String}
    (h : present? handle = some text) (r : Registry) {db : Database}
    (hdown : db.reachable = false) : r.findRecord db handle = .fail (.store .outage) := by
  unfold findRecord
  rw [h]
  simp only [Database.findRecord, Database.query_of_outage hdown]
  exact Outcome.bind_of_error rfl _

/-- Otherwise the answer is the row that the session sees, and the counter tells whether
there is one. -/
theorem findRecord_of_reachable {handle : Option String} {text : String}
    (h : present? handle = some text) (r : Registry) {db : Database}
    (hup : db.reachable = true) :
    r.findRecord db handle =
      ⟨.ok (db.session.records.find? text),
        r.resolveEvents (db.session.records.find? text).isSome⟩ := by
  unfold findRecord
  rw [h]
  simp only [Database.findRecord, Database.query_of_reachable hup]
  rw [Outcome.bind_of_ok rfl]
  refine Outcome.ext rfl ?_
  exact List.append_nil _

/-- The handle of a row that the session sees is found, unless it is empty. -/
theorem findRecord_of_row (r : Registry) {db : Database} {record : Record}
    (hup : db.reachable = true) (hrow : record ∈ db.session.records.rows)
    (hhandle : record.handle ≠ "") :
    r.findRecord db (some record.handle) = ⟨.ok (some record), r.resolveEvents true⟩ := by
  rw [findRecord_of_reachable (present?_eq_some.2 ⟨rfl, hhandle⟩) r hup,
    RecordTable.find?_eq_some.2 ⟨hrow, rfl⟩]
  rfl

/-- A record that was found is a row of the session, and its handle is the one asked for. No
record is found in an outage. -/
theorem row_of_findRecord {r : Registry} {db : Database} {handle : Option String}
    {record : Record} (h : (r.findRecord db handle).result = .ok (some record)) :
    db.reachable = true ∧ record ∈ db.session.records.rows ∧
      present? handle = some record.handle := by
  cases hpresent : present? handle with
  | none =>
      rw [findRecord_of_missing hpresent] at h
      cases h
  | some text =>
      cases hup : db.reachable with
      | false =>
          rw [findRecord_of_outage hpresent r hup] at h
          cases h
      | true =>
          rw [findRecord_of_reachable hpresent r hup] at h
          obtain ⟨hmem, hhandle⟩ := RecordTable.find?_eq_some.1 (Except.ok.inj h)
          exact ⟨rfl, hmem, by rw [hhandle]⟩

/-- Looking up fails for two reasons only. -/
theorem error_of_findRecord {r : Registry} {db : Database} {handle : Option String}
    {e : RegistryError} (h : (r.findRecord db handle).result = .error e) :
    e = .handle .missingHandle ∨ e = .store .outage := by
  cases hpresent : present? handle with
  | none =>
      rw [findRecord_of_missing hpresent] at h
      exact .inl (Except.error.inj h).symm
  | some text =>
      cases hup : db.reachable with
      | false =>
          rw [findRecord_of_outage hpresent r hup] at h
          exact .inr (Except.error.inj h).symm
      | true =>
          rw [findRecord_of_reachable hpresent r hup] at h
          cases h

/-! ### Choosing the resolver -/

/-- A record is refused as corrupt only where its type or its object is missing. -/
theorem missing_of_dispatch {r : Registry} {record : Record} {e : HandleError}
    (h : r.dispatch record = .error e) (hcorrupt : e.category = .corruptRecord) :
    record.type = none ∨ record.resource = none := by
  unfold dispatch at h
  split at h
  · split at h
    · cases h
    · cases h
      cases hcorrupt
  · rename_i hmissing
    cases htype : record.type with
    | none => exact .inl rfl
    | some code =>
        cases hresource : record.resource with
        | none => exact .inr rfl
        | some id => exact absurd hresource (hmissing code id htype)

/-- The resolver of a record depends on the entry for its type alone. -/
theorem dispatch_congr {r r' : Registry} {record : Record}
    (h : ∀ code, record.type = some code → r.table.get? code = r'.table.get? code) :
    r.dispatch record = r'.dispatch record := by
  unfold dispatch
  cases htype : record.type with
  | none => rfl
  | some code =>
      cases record.resource with
      | none => rfl
      | some id => simp only [h code htype]

/-- A record is dispatched to the entry whose key is its type. -/
theorem dispatch_of_entry {r : Registry} {record : Record} {e : ResolverEntry} {id : Int}
    (he : e ∈ r.table.entries) (htype : record.type = some e.key.code)
    (hresource : record.resource = some id) : r.dispatch record = .ok (e.resolver, id) := by
  unfold dispatch
  rw [htype, hresource]
  simp only [ResolverTable.get?_key he]

/-- Whatever a record is dispatched to is the resolver of such an entry. -/
theorem entry_of_dispatch {r : Registry} {record : Record} {resolver : Resolver} {id : Int}
    (h : r.dispatch record = .ok (resolver, id)) :
    ∃ e ∈ r.table.entries, e.resolver = resolver ∧ record.type = some e.key.code ∧
      record.resource = some id := by
  unfold dispatch at h
  split at h
  · rename_i code resource htype hresource
    split at h
    · rename_i found hfound
      cases h
      obtain ⟨e, he, rfl, hresolver⟩ := ResolverTable.get?_eq_some.1 hfound
      exact ⟨e, he, hresolver, htype, hresource⟩
    · cases h
  · cases h

/-- A record whose type is the key of no entry is dispatched to nobody. -/
theorem dispatch_of_no_entry {r : Registry} {record : Record} {type : ResourceType} {id : Int}
    (hnone : ∀ e ∈ r.table.entries, e.key ≠ type) (htype : record.type = some type.code)
    (hresource : record.resource = some id) :
    r.dispatch record = .error (.unsupportedType type.code) := by
  unfold dispatch
  rw [htype, hresource]
  simp only [ResolverTable.get?_code_eq_none.2 hnone]

/-! ### The two resolutions -/

/-- The address under which the object of a record is published. -/
def addressOf (r : Registry) (record : Record) : Except RegistryError String :=
  match r.dispatch record with
  | .error e => .error (.handle e)
  | .ok (resolver, _) => publish resolver record.handle

/-- The object of a record, where `items` are the items that exist. -/
def objectOf (r : Registry) (items : List Int) (record : Record) :
    Except RegistryError (Option Resource) :=
  match r.dispatch record with
  | .error e => .error (.handle e)
  | .ok (resolver, id) => .ok (resolver.find items id)

/-- Resolving to an address gives what looking up gives, or the address of the record. -/
theorem result_resolveUrl (r : Registry) (db : Database) (handle : Option String) :
    (r.resolveUrl db handle).result =
      match (r.findRecord db handle).result with
      | .error e => .error e
      | .ok none => .ok none
      | .ok (some record) => (r.addressOf record).map some := by
  unfold resolveUrl
  cases hfound : (r.findRecord db handle).result with
  | error e => rw [Outcome.bind_of_error hfound]
  | ok found =>
      rw [Outcome.bind_of_ok hfound]
      cases found with
      | none => rfl
      | some record =>
          dsimp only [addressOf]
          cases r.dispatch record with
          | error e => rfl
          | ok chosen =>
              obtain ⟨resolver, id⟩ := chosen
              dsimp only [Outcome.ofExcept, Outcome.mapError, Except.mapError]
              rw [Outcome.bind_of_ok rfl]
              dsimp only
              cases publish resolver record.handle <;> rfl

/-- Resolving to an object gives what looking up gives, or the object of the record. -/
theorem result_resolveObject (r : Registry) (db : Database) (handle : Option String) :
    (r.resolveObject db handle).result =
      match (r.findRecord db handle).result with
      | .error e => .error e
      | .ok none => .ok none
      | .ok (some record) => r.objectOf db.session.items record := by
  unfold resolveObject
  cases hfound : (r.findRecord db handle).result with
  | error e => rw [Outcome.bind_of_error hfound]
  | ok found =>
      rw [Outcome.bind_of_ok hfound]
      cases found with
      | none => rfl
      | some record =>
          dsimp only [objectOf]
          cases r.dispatch record with
          | error e => rfl
          | ok chosen =>
              obtain ⟨resolver, id⟩ := chosen
              dsimp only [Outcome.ofExcept, Outcome.mapError, Except.mapError]
              rw [Outcome.bind_of_ok rfl]
              dsimp only
              cases resolver.find db.session.items id <;> rfl

/-- Resolutions to an address that find the same, and choose the same resolver, are the same:
in their result and in all that they tell the outside. -/
theorem resolveUrl_congr {r r' : Registry} {db db' : Database} {handle : Option String}
    (hfind : r.findRecord db handle = r'.findRecord db' handle)
    (hdispatch : ∀ record, (r.findRecord db handle).result = .ok (some record) →
      r.dispatch record = r'.dispatch record) :
    r.resolveUrl db handle = r'.resolveUrl db' handle := by
  unfold resolveUrl
  rw [← hfind]
  cases hfound : (r.findRecord db handle).result with
  | error e => rw [Outcome.bind_of_error hfound, Outcome.bind_of_error hfound]
  | ok found =>
      rw [Outcome.bind_of_ok hfound, Outcome.bind_of_ok hfound]
      cases found with
      | none => rfl
      | some record => simp only [hdispatch record hfound]

/-- The same for resolutions to an object. A registry that has a sink writes a counter behind the
choice, too. -/
theorem resolveObject_congr {r r' : Registry} {db : Database} {handle : Option String}
    (hmeasured : r.measured = r'.measured)
    (hfind : r.findRecord db handle = r'.findRecord db handle)
    (hdispatch : ∀ record, (r.findRecord db handle).result = .ok (some record) →
      r.dispatch record = r'.dispatch record) :
    r.resolveObject db handle = r'.resolveObject db handle := by
  unfold resolveObject
  rw [← hfind]
  cases hfound : (r.findRecord db handle).result with
  | error e => rw [Outcome.bind_of_error hfound, Outcome.bind_of_error hfound]
  | ok found =>
      rw [Outcome.bind_of_ok hfound, Outcome.bind_of_ok hfound]
      cases found with
      | none => rfl
      | some record => simp only [hdispatch record hfound, count, hmeasured]

/-- So the address of a handle depends on the row of the handle and on the entry for the
row's type, and on nothing else in database and table. -/
theorem resolveUrl_of_row {r r' : Registry} {db db' : Database} {record : Record}
    (hmeasured : r.measured = r'.measured) (hup : db.reachable = true)
    (hup' : db'.reachable = true) (hrow : record ∈ db.session.records.rows)
    (hrow' : record ∈ db'.session.records.rows)
    (htable : ∀ code, record.type = some code → r.table.get? code = r'.table.get? code) :
    r.resolveUrl db (some record.handle) = r'.resolveUrl db' (some record.handle) := by
  cases hpresent : present? (some record.handle) with
  | none =>
      -- The row of an empty handle is never looked up.
      have hfind := findRecord_of_missing hpresent r db
      refine resolveUrl_congr (hfind.trans (findRecord_of_missing hpresent r' db').symm) ?_
      intro found hfound
      rw [hfind] at hfound
      cases hfound
  | some text =>
      have htext : record.handle = text := Option.some.inj (present?_eq_some.1 hpresent).1
      have hfind := findRecord_of_reachable hpresent r hup
      have hfind' := findRecord_of_reachable hpresent r' hup'
      rw [RecordTable.find?_eq_some.2 ⟨hrow, htext⟩] at hfind
      rw [RecordTable.find?_eq_some.2 ⟨hrow', htext⟩] at hfind'
      have hevents : r.resolveEvents true = r'.resolveEvents true := by
        unfold resolveEvents
        rw [hmeasured]
      refine resolveUrl_congr ?_ ?_
      · rw [hfind, hfind', Option.isSome_some, hevents]
      · intro found hfound
        rw [hfind] at hfound
        cases hfound
        exact dispatch_congr htable

/-- An address is refused as corrupt only for a record that lacks its type or its object. -/
theorem missing_of_addressOf {r : Registry} {record : Record} {e : HandleError}
    (h : r.addressOf record = .error (.handle e)) (hcorrupt : e.category = .corruptRecord) :
    record.type = none ∨ record.resource = none := by
  unfold addressOf at h
  cases hd : r.dispatch record with
  | error e' =>
      rw [hd] at h
      cases h
      exact missing_of_dispatch hd hcorrupt
  | ok chosen =>
      obtain ⟨resolver, id⟩ := chosen
      rw [hd] at h
      dsimp only [publish] at h
      split at h
      · cases h
        cases hcorrupt
      · unfold settingText at h
        cases htext : resolver.urlPrefix.asText slashOperation <;> rw [htext] at h <;> cases h

/-- The same for an object. -/
theorem missing_of_objectOf {r : Registry} {items : List Int} {record : Record} {e : HandleError}
    (h : r.objectOf items record = .error (.handle e)) (hcorrupt : e.category = .corruptRecord) :
    record.type = none ∨ record.resource = none := by
  unfold objectOf at h
  cases hd : r.dispatch record with
  | error e' =>
      rw [hd] at h
      cases h
      exact missing_of_dispatch hd hcorrupt
  | ok chosen =>
      rw [hd] at h
      cases h

/-- A resolution that calls a record corrupt has found a row without a type or an object. -/
theorem row_of_corrupt {r : Registry} {db : Database} {handle : Option String} {e : HandleError}
    (h : (r.resolveUrl db handle).result = .error (.handle e) ∨
      (r.resolveObject db handle).result = .error (.handle e))
    (hcorrupt : e.category = .corruptRecord) :
    ∃ record ∈ db.session.records.rows, record.type = none ∨ record.resource = none := by
  rw [result_resolveUrl, result_resolveObject] at h
  cases hfound : (r.findRecord db handle).result with
  | error e' =>
      rw [hfound] at h
      rcases error_of_findRecord hfound with rfl | rfl
      · rcases h with h | h <;> cases h <;> cases hcorrupt
      · rcases h with h | h <;> cases h
  | ok found =>
      rw [hfound] at h
      cases found with
      | none => rcases h with h | h <;> cases h
      | some record =>
          refine ⟨record, (row_of_findRecord hfound).2.1, ?_⟩
          rcases h with h | h
          · dsimp only at h
            cases haddress : r.addressOf record with
            | error e' =>
                rw [haddress] at h
                cases h
                exact missing_of_addressOf haddress hcorrupt
            | ok url =>
                rw [haddress] at h
                cases h
          · exact missing_of_objectOf h hcorrupt

/-! ### What a resolution tells the outside -/

/-- What comes behind an operation takes no event of it back. -/
theorem events_prefix_bind (o : Outcome ε α) (f : α → Outcome ε β) :
    o.events <+: (o >>= f).events := by
  cases ho : o.result with
  | error e =>
      rw [Outcome.bind_of_error ho]
  | ok a =>
      rw [Outcome.bind_of_ok ho]
      exact List.prefix_append _ _

/-- The counter of a look-up comes first. -/
theorem events_prefix_resolveUrl (r : Registry) (db : Database) (handle : Option String) :
    (r.findRecord db handle).events <+: (r.resolveUrl db handle).events :=
  events_prefix_bind _ _

theorem events_prefix_resolveObject (r : Registry) (db : Database) (handle : Option String) :
    (r.findRecord db handle).events <+: (r.resolveObject db handle).events :=
  events_prefix_bind _ _

/-! ### The handle of a row -/

theorem publish_of_text {resolver : Resolver} {base : String}
    (h : resolver.urlPrefix = .text base) (hbase : base ≠ "") (handle : String) :
    publish resolver handle = .ok (Handle.withTrailingSlash base ++ handle) := by
  unfold publish
  rw [h, if_neg (by simpa using hbase)]
  rfl

theorem publish_of_isEmpty {resolver : Resolver} (h : resolver.urlPrefix.isEmpty = true)
    (handle : String) :
    publish resolver handle = .error (.handle (.settingNotSet resolver.urlPrefixSetting)) :=
  if_pos h

theorem publish_of_other {resolver : Resolver} {kind : String}
    (h : resolver.urlPrefix = .other kind false) (handle : String) :
    publish resolver handle = .error (.setting ⟨kind, slashOperation⟩) := by
  unfold publish
  rw [h]
  rfl

/-- The two resolutions of a handle that stands for an object of an entry: they answer as the
resolver of the entry says. -/
structure StandsFor (r : Registry) (db : Database) (handle : String) (e : ResolverEntry)
    (id : Int) : Prop where
  object : (r.resolveObject db (some handle)).result = .ok (e.resolver.find db.session.items id)
  address : ∀ base, e.resolver.urlPrefix = .text base → base ≠ "" →
    (r.resolveUrl db (some handle)).result = .ok (some (Handle.withTrailingSlash base ++ handle))
  /-- The resolver has no base, or an empty one. -/
  unpublished : e.resolver.urlPrefix.isEmpty = true →
    (r.resolveUrl db (some handle)).result =
      .error (.handle (.settingNotSet e.resolver.urlPrefixSetting))
  /-- The base is no text, which only a setting at work can be. -/
  misconfigured : ∀ kind, e.resolver.urlPrefix = .other kind false →
    (r.resolveUrl db (some handle)).result = .error (.setting ⟨kind, slashOperation⟩)

/-- The address of a handle that stands for an object: there is one, or the resolver's base is
not set, or it is no text. -/
theorem StandsFor.address_cases {r : Registry} {db : Database} {handle : String}
    {e : ResolverEntry} {id : Int} (h : r.StandsFor db handle e id) :
    (∃ base, (r.resolveUrl db (some handle)).result =
        .ok (some (Handle.withTrailingSlash base ++ handle))) ∨
      (r.resolveUrl db (some handle)).result =
        .error (.handle (.settingNotSet e.resolver.urlPrefixSetting)) ∨
      ∃ kind,
        (r.resolveUrl db (some handle)).result = .error (.setting ⟨kind, slashOperation⟩) := by
  cases hsetting : e.resolver.urlPrefix with
  | text base =>
      by_cases hbase : base = ""
      · exact .inr (.inl (h.unpublished (by rw [hsetting, hbase]; rfl)))
      · exact .inl ⟨base, h.address base hsetting hbase⟩
  | other kind isEmpty =>
      cases isEmpty with
      | true => exact .inr (.inl (h.unpublished (by rw [hsetting]; rfl)))
      | false => exact .inr (.inr ⟨kind, h.misconfigured kind hsetting⟩)

/-- A handle that stands for an object is refused for a missing base only. It is never taken for
an invalid handle or that of a corrupt record, nor for an unknown one. -/
theorem StandsFor.not_refused {r : Registry} {db : Database} {handle : String}
    {e : ResolverEntry} {id : Int} (h : r.StandsFor db handle e id) :
    (∀ err, (r.resolveObject db (some handle)).result = .error (.handle err) ∨
        (r.resolveUrl db (some handle)).result = .error (.handle err) →
      err.category ≠ .invalidHandle ∧ err.category ≠ .corruptRecord) ∧
    (r.resolveUrl db (some handle)).result ≠ .ok none := by
  rw [h.object]
  rcases h.address_cases with ⟨base, haddress⟩ | haddress | ⟨kind, haddress⟩
  · rw [haddress]
    refine ⟨?_, nofun⟩
    rintro err (herr | herr) <;> cases herr
  · rw [haddress]
    refine ⟨?_, nofun⟩
    rintro err (herr | herr) <;> cases herr
    exact ⟨nofun, nofun⟩
  · rw [haddress]
    refine ⟨?_, nofun⟩
    rintro err (herr | herr) <;> cases herr

section Row

variable {r : Registry} {db : Database} {record : Record} (hup : db.reachable = true)
  (hrow : record ∈ db.session.records.rows) (hhandle : record.handle ≠ "")
include hup hrow hhandle

theorem result_resolveUrl_of_row :
    (r.resolveUrl db (some record.handle)).result = (r.addressOf record).map some := by
  rw [result_resolveUrl, findRecord_of_row r hup hrow hhandle]

theorem result_resolveObject_of_row :
    (r.resolveObject db (some record.handle)).result = r.objectOf db.session.items record := by
  rw [result_resolveObject, findRecord_of_row r hup hrow hhandle]

/-- The handle of a row stands for the row's object, of the entry whose key is the row's type. -/
theorem standsFor_of_row {e : ResolverEntry} {id : Int} (he : e ∈ r.table.entries)
    (htype : record.type = some e.key.code) (hresource : record.resource = some id) :
    r.StandsFor db record.handle e id := by
  have hdispatch := dispatch_of_entry he htype hresource
  have haddress : r.addressOf record = publish e.resolver record.handle := by
    unfold addressOf
    rw [hdispatch]
  have hobject : r.objectOf db.session.items record =
      .ok (e.resolver.find db.session.items id) := by
    unfold objectOf
    rw [hdispatch]
  constructor
  · rw [result_resolveObject_of_row hup hrow hhandle, hobject]
  · intro base hbase hne
    rw [result_resolveUrl_of_row hup hrow hhandle, haddress, publish_of_text hbase hne]
    rfl
  · intro hempty
    rw [result_resolveUrl_of_row hup hrow hhandle, haddress, publish_of_isEmpty hempty]
    rfl
  · intro kind hkind
    rw [result_resolveUrl_of_row hup hrow hhandle, haddress, publish_of_other hkind]
    rfl

/-- The handle of a row is counted as found, before anything else is told. -/
theorem counted_of_row :
    r.resolveEvents true <+: (r.resolveObject db (some record.handle)).events ∧
      r.resolveEvents true <+: (r.resolveUrl db (some record.handle)).events := by
  have hobject := events_prefix_resolveObject r db (some record.handle)
  have hurl := events_prefix_resolveUrl r db (some record.handle)
  rw [findRecord_of_row r hup hrow hhandle] at hobject hurl
  exact ⟨hobject, hurl⟩

/-- Where no entry has the row's type as its key, both resolutions say so. -/
theorem unsupported_of_row {type : ResourceType} {id : Int}
    (hnone : ∀ e ∈ r.table.entries, e.key ≠ type) (htype : record.type = some type.code)
    (hresource : record.resource = some id) :
    (r.resolveObject db (some record.handle)).result =
        .error (.handle (.unsupportedType type.code)) ∧
      (r.resolveUrl db (some record.handle)).result =
        .error (.handle (.unsupportedType type.code)) := by
  have hdispatch := dispatch_of_no_entry hnone htype hresource
  constructor
  · rw [result_resolveObject_of_row hup hrow hhandle, objectOf, hdispatch]
  · rw [result_resolveUrl_of_row hup hrow hhandle, addressOf, hdispatch]
    rfl

/-- A row that has its type and its object is refused for its type or for a missing base only.
It is never taken for an invalid handle or a corrupt record, nor for no row at all. -/
theorem not_refused_of_row {type : ResourceType} {id : Int}
    (htype : record.type = some type.code) (hresource : record.resource = some id) :
    (∀ e, (r.resolveObject db (some record.handle)).result = .error (.handle e) ∨
        (r.resolveUrl db (some record.handle)).result = .error (.handle e) →
      e.category ≠ .invalidHandle ∧ e.category ≠ .corruptRecord) ∧
    (r.resolveUrl db (some record.handle)).result ≠ .ok none := by
  by_cases hentry : ∃ entry ∈ r.table.entries, entry.key = type
  · obtain ⟨entry, hmem, rfl⟩ := hentry
    exact (standsFor_of_row hup hrow hhandle hmem htype hresource).not_refused
  · have hnone : ∀ entry ∈ r.table.entries, entry.key ≠ type :=
      fun entry hmem hkey => hentry ⟨entry, hmem, hkey⟩
    obtain ⟨hobject, hurl⟩ := unsupported_of_row hup hrow hhandle hnone htype hresource
    rw [hobject, hurl]
    refine ⟨?_, nofun⟩
    rintro e (he | he) <;> cases he <;> exact ⟨nofun, nofun⟩

end Row

/-- A handle that resolves to an object is that of a row, and the object is the one that the
resolver of the row's type finds under the row's id. -/
theorem row_of_object {r : Registry} {db : Database} {handle : Option String} {object : Resource}
    (h : (r.resolveObject db handle).result = .ok (some object)) :
    db.reachable = true ∧ ∃ record ∈ db.session.records.rows, ∃ e ∈ r.table.entries, ∃ id,
      handle = some record.handle ∧ record.type = some e.key.code ∧ record.resource = some id ∧
      e.resolver.find db.session.items id = some object := by
  rw [result_resolveObject] at h
  cases hfound : (r.findRecord db handle).result with
  | error e =>
      rw [hfound] at h
      cases h
  | ok found =>
      rw [hfound] at h
      cases found with
      | none => cases h
      | some record =>
          obtain ⟨hup, hrow, hpresent⟩ := row_of_findRecord hfound
          have hhandle := (present?_eq_some.1 hpresent).1
          dsimp only [objectOf] at h
          cases hdispatch : r.dispatch record with
          | error e =>
              rw [hdispatch] at h
              cases h
          | ok chosen =>
              obtain ⟨resolver, id⟩ := chosen
              rw [hdispatch] at h
              obtain ⟨e, he, rfl, htype, hresource⟩ := entry_of_dispatch hdispatch
              exact ⟨hup, record, hrow, e, he, id, hhandle, htype, hresource, Except.ok.inj h⟩

end Registry

end PersistentId
