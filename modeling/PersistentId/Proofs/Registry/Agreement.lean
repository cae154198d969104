import Mathlib
import PersistentId.Proofs.Registry.Resolution

/-!
# PersistentId.Proofs.Registry.Agreement

The two resolutions agree.

Resolving to an address (`resolve_to_url`) and resolving to an object (`resolve_to_object`) are
written one beside the other, and nothing but their wording makes them answer alike. What they
answer is told here together, by what the handle is in the state that both start in
(`Registry.Agree`): one case for each thing that can become of a handle, with both outcomes as
wholes, their events included.

They part only behind the choice of the resolver. There one of them reads the prefix of the
resolver and no items, and the other one the items and no prefix.
-/

namespace PersistentId

/-- Why an operation failed, if it did. -/
def Outcome.error? (o : Outcome ε α) : Option ε :=
  match o.result with
  | .error e => some e
  | .ok _ => none

/-- Whether an event is an increment of a counter. -/
def Event.counts (name : String) : Event → Bool
  | .metric (.increment counter _) => counter == name
  | _ => false

/-- The category of a failure by the rules of the registry. -/
def RegistryError.category? : RegistryError → Option ErrorCategory
  | .handle e => some e.category
  | _ => none

namespace Registry

/-! ### What becomes of a handle -/

/-- The outcome of resolving to an address, once the resolver is chosen. -/
def addressOutcome (r : Registry) (resolver : Resolver) (handle : String) :
    Outcome RegistryError (Option String) :=
  match publish resolver handle with
  | .error e => ⟨.error e, r.resolveEvents true⟩
  | .ok url => ⟨.ok (some url), r.resolveEvents true ++
      [.note .debug ("Resolved " ++ handle ++ " to " ++ url)]⟩

/-- What resolving to an object tells the outside at its end. -/
def objectEvents (r : Registry) (resolver : Resolver) (handle : String) (id : Int)
    (found : Option Resource) : List Event :=
  (if found.isNone && r.measured then
    [.metric (.increment "handle.registry.dangling"
      [("resource_type", .text resolver.type.label)])]
  else []) ++
  [.note .debug ("Resolved handle " ++ handle ++ " to " ++ resolver.type.label ++ " " ++
    toString (if found.isSome then id else -1))]

/-- The outcome of resolving to an object, once the resolver is chosen. -/
def objectOutcome (r : Registry) (db : Database) (resolver : Resolver) (handle : String)
    (id : Int) : Outcome RegistryError (Option Resource) :=
  let found := resolver.find db.session.items id
  ⟨.ok found, r.resolveEvents true ++ r.objectEvents resolver handle id found⟩

/-- A row that is found by its handle: the database is up, the session sees the row, and the
handle is not empty. -/
structure Sees (db : Database) (record : Record) : Prop where
  reachable : db.reachable = true
  mem : record ∈ db.session.records.rows
  handle : record.handle ≠ ""

/-- A row has an object, and the key of an entry as its type. -/
structure Serves (r : Registry) (e : ResolverEntry) (record : Record) (id : Int) : Prop where
  mem : e ∈ r.table.entries
  type : record.type = some e.key.code
  resource : record.resource = some id

/-- What can become of a handle, with the outcomes of its resolutions to an address and to an
object. -/
inductive Agree (r : Registry) (db : Database) : Option String →
    Outcome RegistryError (Option String) → Outcome RegistryError (Option Resource) → Prop
  /-- The handle is missing or empty. -/
  | invalid {handle : Option String} (h : present? handle = none) :
      Agree r db handle (refuse .missingHandle) (refuse .missingHandle)
  /-- The database is out of reach. -/
  | outage {handle : String} (h : handle ≠ "") (hdown : db.reachable = false) :
      Agree r db (some handle) (.fail (.store .outage)) (.fail (.store .outage))
  /-- No row has the handle. -/
  | unknown {handle : String} (h : handle ≠ "") (hup : db.reachable = true)
      (hnone : ∀ record ∈ db.session.records.rows, record.handle ≠ handle) :
      Agree r db (some handle) ⟨.ok none, r.resolveEvents false⟩
        ⟨.ok none, r.resolveEvents false⟩
  /-- The row lacks its type or its object. -/
  | corrupt {record : Record} (h : Sees db record)
      (hmissing : record.type = none ∨ record.resource = none) :
      Agree r db (some record.handle)
        ⟨.error (.handle (.missingResource record.handle)), r.resolveEvents true⟩
        ⟨.error (.handle (.missingResource record.handle)), r.resolveEvents true⟩
  /-- The type of the row is the key of no entry. -/
  | unsupported {record : Record} {code id : Int} (h : Sees db record)
      (htype : record.type = some code) (hresource : record.resource = some id)
      (hnone : ∀ e ∈ r.table.entries, e.key.code ≠ code) :
      Agree r db (some record.handle)
        ⟨.error (.handle (.unsupportedType code)), r.resolveEvents true⟩
        ⟨.error (.handle (.unsupportedType code)), r.resolveEvents true⟩
  /-- The type of the row is the key of an entry. -/
  | found {record : Record} {e : ResolverEntry} {id : Int} (h : Sees db record)
      (he : r.Serves e record id) :
      Agree r db (some record.handle) (r.addressOutcome e.resolver record.handle)
        (r.objectOutcome db e.resolver record.handle id)

/-! ### The resolutions of a row -/

/-- A row without its type or its object is dispatched to nobody. -/
theorem dispatch_of_missing {r : Registry} {record : Record}
    (h : record.type = none ∨ record.resource = none) :
    r.dispatch record = .error (.missingResource record.handle) := by
  unfold dispatch
  rcases h with h | h
  · rw [h]
  · rw [h]
    cases record.type <;> rfl

/-- Nor is a row whose type is the code of no key. -/
theorem dispatch_of_unknown_code {r : Registry} {record : Record} {code id : Int}
    (hnone : ∀ e ∈ r.table.entries, e.key.code ≠ code) (htype : record.type = some code)
    (hresource : record.resource = some id) :
    r.dispatch record = .error (.unsupportedType code) := by
  have hget : r.table.get? code = none := by
    cases hget : r.table.get? code with
    | none => rfl
    | some resolver =>
        obtain ⟨e, he, hcode, -⟩ := ResolverTable.get?_eq_some.1 hget
        exact absurd hcode (hnone e he)
  unfold dispatch
  rw [htype, hresource]
  simp only [hget]

section Row

variable {r : Registry} {db : Database} {record : Record}

/-- Where no resolver can be chosen, both resolutions fail for that reason. -/
theorem resolve_of_dispatch_error (h : Sees db record) {e : HandleError}
    (hdispatch : r.dispatch record = .error e) :
    r.resolveUrl db (some record.handle) = ⟨.error (.handle e), r.resolveEvents true⟩ ∧
      r.resolveObject db (some record.handle) =
        ⟨.error (.handle e), r.resolveEvents true⟩ := by
  have hfind := findRecord_of_row r h.reachable h.mem h.handle
  constructor
  · unfold resolveUrl
    rw [hfind, Outcome.bind_of_ok rfl]
    dsimp only
    rw [hdispatch, Outcome.bind_of_error rfl]
    exact Outcome.ext rfl (List.append_nil _)
  · unfold resolveObject
    rw [hfind, Outcome.bind_of_ok rfl]
    dsimp only
    rw [hdispatch, Outcome.bind_of_error rfl]
    exact Outcome.ext rfl (List.append_nil _)

/-- Behind the choice of the resolver, the address is settled by the prefix alone. -/
theorem resolveUrl_of_serves (h : Sees db record) {e : ResolverEntry} {id : Int}
    (he : r.Serves e record id) :
    r.resolveUrl db (some record.handle) = r.addressOutcome e.resolver record.handle := by
  unfold resolveUrl addressOutcome
  rw [findRecord_of_row r h.reachable h.mem h.handle, Outcome.bind_of_ok rfl]
  dsimp only
  rw [dispatch_of_entry he.mem he.type he.resource, Outcome.bind_of_ok rfl]
  dsimp only
  cases publish e.resolver record.handle with
  | error failure =>
      rw [Outcome.bind_of_error rfl]
      exact Outcome.ext rfl (List.append_nil _)
  | ok url =>
      rw [Outcome.bind_of_ok rfl]
      rfl

/-- The object is settled by the items alone. -/
theorem resolveObject_of_serves (h : Sees db record) {e : ResolverEntry} {id : Int}
    (he : r.Serves e record id) :
    r.resolveObject db (some record.handle) =
      r.objectOutcome db e.resolver record.handle id := by
  unfold resolveObject
  rw [findRecord_of_row r h.reachable h.mem h.handle, Outcome.bind_of_ok rfl]
  dsimp only
  rw [dispatch_of_entry he.mem he.type he.resource, Outcome.bind_of_ok rfl]
  unfold objectOutcome objectEvents
  dsimp only
  cases e.resolver.find db.session.items id with
  | some object => rfl
  | none =>
      -- The counter of a dangling handle is told where there is a sink for it.
      cases hmeasured : r.measured <;> simp only [count, hmeasured] <;> rfl

/-- What becomes of a handle that has a row. -/
theorem agree_of_sees (h : Sees db record) :
    r.Agree db (some record.handle) (r.resolveUrl db (some record.handle))
      (r.resolveObject db (some record.handle)) := by
  -- The table is looked at only where neither of the two is missing.
  by_cases hmissing : record.type = none ∨ record.resource = none
  · obtain ⟨hurl, hobject⟩ := resolve_of_dispatch_error h (dispatch_of_missing hmissing)
    rw [hurl, hobject]
    exact .corrupt h hmissing
  · obtain ⟨code, htype⟩ := Option.ne_none_iff_exists'.1 fun hnone => hmissing (.inl hnone)
    obtain ⟨id, hresource⟩ := Option.ne_none_iff_exists'.1 fun hnone => hmissing (.inr hnone)
    by_cases hentry : ∃ e ∈ r.table.entries, e.key.code = code
    · obtain ⟨e, hmem, rfl⟩ := hentry
      have he : r.Serves e record id := ⟨hmem, htype, hresource⟩
      rw [resolveUrl_of_serves h he, resolveObject_of_serves h he]
      exact .found h he
    · have hnone : ∀ e ∈ r.table.entries, e.key.code ≠ code :=
        fun e he hcode => hentry ⟨e, he, hcode⟩
      obtain ⟨hurl, hobject⟩ :=
        resolve_of_dispatch_error h (dispatch_of_unknown_code hnone htype hresource)
      rw [hurl, hobject]
      exact .unsupported h htype hresource hnone

end Row

/-- Where looking up fails, both resolutions fail alike. -/
theorem resolve_of_fail {r : Registry} {db : Database} {handle : Option String}
    {e : RegistryError} (h : r.findRecord db handle = .fail e) :
    r.resolveUrl db handle = .fail e ∧ r.resolveObject db handle = .fail e := by
  constructor
  · rw [resolveUrl, h]
    exact Outcome.bind_of_error rfl _
  · rw [resolveObject, h]
    exact Outcome.bind_of_error rfl _

/-- Where it finds nothing, neither of them does. -/
theorem resolve_of_unknown {r : Registry} {db : Database} {handle : Option String}
    (h : r.findRecord db handle = ⟨.ok none, r.resolveEvents false⟩) :
    r.resolveUrl db handle = ⟨.ok none, r.resolveEvents false⟩ ∧
      r.resolveObject db handle = ⟨.ok none, r.resolveEvents false⟩ := by
  constructor
  · rw [resolveUrl, h, Outcome.bind_of_ok rfl]
    exact Outcome.ext rfl (List.append_nil _)
  · rw [resolveObject, h, Outcome.bind_of_ok rfl]
    exact Outcome.ext rfl (List.append_nil _)

/-- **The resolutions agree** on what becomes of a handle. -/
theorem agree (r : Registry) (db : Database) (handle : Option String) :
    r.Agree db handle (r.resolveUrl db handle) (r.resolveObject db handle) := by
  cases hpresent : present? handle with
  | none =>
      obtain ⟨hurl, hobject⟩ := resolve_of_fail (findRecord_of_missing hpresent r db)
      rw [hurl, hobject]
      exact .invalid hpresent
  | some text =>
      obtain ⟨rfl, htext⟩ := present?_eq_some.1 hpresent
      cases hup : db.reachable with
      | false =>
          obtain ⟨hurl, hobject⟩ := resolve_of_fail (findRecord_of_outage hpresent r hup)
          rw [hurl, hobject]
          exact .outage htext hup
      | true =>
          have hfind := findRecord_of_reachable hpresent r hup
          cases hrow : db.session.records.find? text with
          | none =>
              rw [hrow] at hfind
              obtain ⟨hurl, hobject⟩ := resolve_of_unknown hfind
              rw [hurl, hobject]
              exact .unknown htext hup (RecordTable.find?_eq_none.1 hrow)
          | some record =>
              obtain ⟨hmem, rfl⟩ := RecordTable.find?_eq_some.1 hrow
              exact agree_of_sees ⟨hup, hmem, htext⟩

/-! ### Why resolutions fail -/

/-- A text is missing where there is none or an empty one. -/
theorem present?_eq_none {handle : Option String} :
    present? handle = none ↔ handle = none ∨ handle = some "" := by
  cases handle with
  | none => simp [present?]
  | some s => by_cases hs : s = "" <;> simp [present?, hs]

theorem present?_ne_none {handle : String} (h : handle ≠ "") :
    present? (some handle) ≠ none := by
  rw [present?_eq_some.2 ⟨rfl, h⟩]
  exact nofun

theorem Sees.present {db : Database} {record : Record} (h : Sees db record) :
    present? (some record.handle) ≠ none := present?_ne_none h.handle

/-- A row that is found by its handle is the only one. -/
theorem Sees.unique {db : Database} {a b : Record} (ha : Sees db a) (hb : Sees db b)
    (h : some a.handle = some b.handle) : a = b :=
  RecordTable.eq_of_handle_eq ha.mem hb.mem (Option.some.inj h)

/-- With the resolver chosen, resolving to an address gives one, or fails for a prefix that is not
set or is no text. -/
theorem addressOutcome_cases (r : Registry) (resolver : Resolver) (handle : String) :
    (∃ base, resolver.urlPrefix = .text base ∧ base ≠ "" ∧
      (r.addressOutcome resolver handle).result =
        .ok (some (Handle.withTrailingSlash base ++ handle))) ∨
    (resolver.urlPrefix.isEmpty = true ∧
      (r.addressOutcome resolver handle).result =
        .error (.handle (.settingNotSet resolver.urlPrefixSetting))) ∨
    ∃ kind, resolver.urlPrefix = .other kind false ∧
      (r.addressOutcome resolver handle).result = .error (.setting ⟨kind, slashOperation⟩) := by
  unfold addressOutcome
  cases hempty : resolver.urlPrefix.isEmpty with
  | true =>
      rw [publish_of_isEmpty hempty]
      exact .inr (.inl ⟨rfl, rfl⟩)
  | false =>
      cases hvalue : resolver.urlPrefix with
      | text base =>
          have hbase : base ≠ "" := by
            rintro rfl
            rw [hvalue] at hempty
            cases hempty
          rw [publish_of_text hvalue hbase]
          exact .inl ⟨base, rfl, hbase, rfl⟩
      | other kind isEmpty =>
          obtain rfl : isEmpty = false := by
            rw [hvalue] at hempty
            exact hempty
          rw [publish_of_other hvalue]
          exact .inr (.inr ⟨kind, rfl, rfl⟩)

variable {r : Registry} {db : Database} {handle : Option String}
  {url : Outcome RegistryError (Option String)} {object : Outcome RegistryError (Option Resource)}

/-- Whichever of the two resolutions fails: it refuses the handle exactly where this is missing
or empty, it fails in the store exactly where the database is out of reach, and it finds the
record corrupt exactly where the row lacks its type or its object. -/
theorem Agree.failures (h : r.Agree db handle url object) {failure : Option RegistryError}
    (hf : failure = url.error? ∨ failure = object.error?) :
    (failure.bind RegistryError.category? = some .invalidHandle ↔ present? handle = none) ∧
    ((∃ e, failure = some (.store e)) ↔ present? handle ≠ none ∧ db.reachable = false) ∧
    (failure.bind RegistryError.category? = some .corruptRecord ↔
      ∃ record, Sees db record ∧ handle = some record.handle ∧
        (record.type = none ∨ record.resource = none)) := by
  cases h with
  | invalid h =>
      obtain rfl : failure = some (.handle .missingHandle) := by rcases hf with rfl | rfl <;> rfl
      refine ⟨iff_of_true rfl h, iff_of_false nofun fun hc => hc.1 h, iff_of_false nofun ?_⟩
      rintro ⟨record, hs, rfl, -⟩
      exact hs.present h
  | outage h hdown =>
      obtain rfl : failure = some (.store .outage) := by rcases hf with rfl | rfl <;> rfl
      have hpresent := present?_ne_none h
      refine ⟨iff_of_false nofun hpresent, iff_of_true ⟨_, rfl⟩ ⟨hpresent, hdown⟩,
        iff_of_false nofun ?_⟩
      rintro ⟨record, hs, -⟩
      exact absurd hs.reachable (by simp [hdown])
  | unknown h hup hnone =>
      obtain rfl : failure = none := by rcases hf with rfl | rfl <;> rfl
      refine ⟨iff_of_false nofun (present?_ne_none h), iff_of_false nofun (by simp [hup]),
        iff_of_false nofun ?_⟩
      rintro ⟨record, hs, hhandle, -⟩
      exact hnone record hs.mem (Option.some.inj hhandle).symm
  | @corrupt record h hmissing =>
      obtain rfl : failure = some (.handle (.missingResource record.handle)) := by
        rcases hf with rfl | rfl <;> rfl
      exact ⟨iff_of_false nofun h.present, iff_of_false nofun (by simp [h.reachable]),
        iff_of_true rfl ⟨record, h, rfl, hmissing⟩⟩
  | @unsupported record code id h htype hresource =>
      obtain rfl : failure = some (.handle (.unsupportedType code)) := by
        rcases hf with rfl | rfl <;> rfl
      refine ⟨iff_of_false nofun h.present, iff_of_false nofun (by simp [h.reachable]),
        iff_of_false nofun ?_⟩
      rintro ⟨other, hs, hhandle, hmissing⟩
      rw [← h.unique hs hhandle, htype, hresource] at hmissing
      simp at hmissing
  | @found record e id h he =>
      -- What can still fail is the prefix of the resolver, for none of the three reasons.
      have hcategory : failure = none ∨
          failure = some (.handle (.settingNotSet e.resolver.urlPrefixSetting)) ∨
          ∃ kind, failure = some (.setting kind) := by
        rcases hf with rfl | rfl
        · rcases r.addressOutcome_cases e.resolver record.handle with
            ⟨base, -, -, haddress⟩ | ⟨-, haddress⟩ | ⟨kind, -, haddress⟩
          · exact .inl (by rw [Outcome.error?, haddress])
          · exact .inr (.inl (by rw [Outcome.error?, haddress]))
          · exact .inr (.inr ⟨_, by rw [Outcome.error?, haddress]⟩)
        · exact .inl rfl
      have hrow : ¬ ∃ other, Sees db other ∧ some record.handle = some other.handle ∧
          (other.type = none ∨ other.resource = none) := by
        rintro ⟨other, hs, hhandle, hmissing⟩
        rw [← h.unique hs hhandle, he.type, he.resource] at hmissing
        simp at hmissing
      rcases hcategory with rfl | rfl | ⟨kind, rfl⟩ <;>
        exact ⟨iff_of_false nofun h.present, iff_of_false nofun (by simp [h.reachable]),
          iff_of_false nofun hrow⟩

/-! ### What resolutions count -/

/-- The events count the handle as found, or as not found, first and once. -/
structure CountsOnce (r : Registry) (found : Bool) (events : List Event) : Prop where
  first : r.resolveEvents found <+: events
  once : events.filter (Event.counts "handle.registry.resolve") = r.resolveEvents found

/-- What comes behind the counter of a handle does not count it again. -/
theorem countsOnce_append (r : Registry) (found : Bool) {tail : List Event}
    (h : tail.filter (Event.counts "handle.registry.resolve") = []) :
    r.CountsOnce found (r.resolveEvents found ++ tail) where
  first := List.prefix_append _ _
  once := by
    have hself : (r.resolveEvents found).filter (Event.counts "handle.registry.resolve") =
        r.resolveEvents found := by
      unfold resolveEvents
      split <;> rfl
    rw [List.filter_append, hself, h, List.append_nil]

theorem countsOnce_resolveEvents (r : Registry) (found : Bool) :
    r.CountsOnce found (r.resolveEvents found) := by
  have hcounted := @countsOnce_append r found [] rfl
  rwa [List.append_nil] at hcounted

theorem countsOnce_addressOutcome (r : Registry) (resolver : Resolver) (handle : String) :
    r.CountsOnce true (r.addressOutcome resolver handle).events := by
  unfold addressOutcome
  split
  · exact r.countsOnce_resolveEvents true
  · exact r.countsOnce_append true rfl

theorem countsOnce_objectOutcome (r : Registry) (db : Database) (resolver : Resolver)
    (handle : String) (id : Int) :
    r.CountsOnce true (r.objectOutcome db resolver handle id).events := by
  refine r.countsOnce_append true ?_
  -- A dangling handle is counted under another name.
  unfold objectEvents
  split <;> rfl

/-- Both resolutions count the handle alike, first and once. They count nothing where the handle
is missing or the database is out of reach. -/
theorem Agree.counted (h : r.Agree db handle url object) :
    (present? handle = none ∨ db.reachable = false → url.events = [] ∧ object.events = []) ∧
    (present? handle ≠ none → db.reachable = true → ∃ found : Bool,
      (found = true ↔ ∃ record, Sees db record ∧ handle = some record.handle) ∧
      r.CountsOnce found url.events ∧ r.CountsOnce found object.events) := by
  cases h with
  | invalid h => exact ⟨fun _ => ⟨rfl, rfl⟩, fun hpresent => absurd h hpresent⟩
  | outage h hdown => exact ⟨fun _ => ⟨rfl, rfl⟩, fun _ hup => by simp [hdown] at hup⟩
  | unknown h hup hnone =>
      refine ⟨fun hc => by simp [hup, present?_ne_none h] at hc, fun _ _ => ⟨false, ?_, ?_⟩⟩
      · refine iff_of_false nofun ?_
        rintro ⟨record, hs, hhandle⟩
        exact hnone record hs.mem (Option.some.inj hhandle).symm
      · exact ⟨r.countsOnce_resolveEvents false, r.countsOnce_resolveEvents false⟩
  | corrupt h hmissing =>
      exact ⟨fun hc => by simp [h.reachable, h.present] at hc, fun _ _ =>
        ⟨true, iff_of_true rfl ⟨_, h, rfl⟩, r.countsOnce_resolveEvents true,
          r.countsOnce_resolveEvents true⟩⟩
  | unsupported h htype hresource =>
      exact ⟨fun hc => by simp [h.reachable, h.present] at hc, fun _ _ =>
        ⟨true, iff_of_true rfl ⟨_, h, rfl⟩, r.countsOnce_resolveEvents true,
          r.countsOnce_resolveEvents true⟩⟩
  | found h he =>
      exact ⟨fun hc => by simp [h.reachable, h.present] at hc, fun _ _ =>
        ⟨true, iff_of_true rfl ⟨_, h, rfl⟩, r.countsOnce_addressOutcome _ _,
          r.countsOnce_objectOutcome _ _ _ _⟩⟩

/-! ### What resolutions do not depend on -/

/-- An address depends on the records that the session sees, and not on its items. -/
theorem resolveUrl_of_records (r : Registry) {db db' : Database} (handle : Option String)
    (hrecords : db.session.records = db'.session.records)
    (hreachable : db.reachable = db'.reachable) :
    r.resolveUrl db handle = r.resolveUrl db' handle := by
  refine resolveUrl_congr ?_ fun _ _ => rfl
  unfold findRecord Database.findRecord Database.query
  simp only [hrecords, hreachable]

end Registry

/-- The resolver without its prefix. -/
def Resolver.unpublished (r : Resolver) : Resolver := { r with urlPrefix := .missing }

namespace ResolverTable

/-- The table without the prefixes of its resolvers. Two tables that differ in these at most are
the same without them. -/
def unpublished (t : ResolverTable) : ResolverTable where
  entries := t.entries.map fun e => { e with resolver := e.resolver.unpublished }
  distinct := by
    rw [List.map_map]
    exact t.distinct

theorem get?_unpublished (t : ResolverTable) (code : Int) :
    t.unpublished.get? code = (t.get? code).map Resolver.unpublished := by
  unfold get? unpublished
  rw [List.find?_map, Option.map_map, Option.map_map]
  rfl

end ResolverTable

namespace Registry

/-- The registry without the prefixes of its resolvers. -/
def unpublished (r : Registry) : Registry := { r with table := r.table.unpublished }

theorem dispatch_unpublished (r : Registry) (record : Record) :
    r.unpublished.dispatch record =
      (r.dispatch record).map fun chosen => (chosen.1.unpublished, chosen.2) := by
  unfold dispatch unpublished
  cases record.type with
  | none => rfl
  | some code =>
      cases record.resource with
      | none => rfl
      | some id =>
          simp only [ResolverTable.get?_unpublished]
          cases r.table.get? code <;> rfl

/-- An object does not depend on the prefixes of the resolvers. -/
theorem resolveObject_unpublished (r : Registry) (db : Database) (handle : Option String) :
    r.unpublished.resolveObject db handle = r.resolveObject db handle := by
  have hfind : r.unpublished.findRecord db handle = r.findRecord db handle := rfl
  unfold resolveObject
  rw [hfind]
  congr 1
  funext found
  cases found with
  | none => rfl
  | some record =>
      dsimp only
      rw [dispatch_unpublished]
      cases r.dispatch record <;> rfl

end Registry

end PersistentId
