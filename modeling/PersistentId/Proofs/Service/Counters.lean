import Mathlib
import PersistentId.Proofs.Registry.Agreement
import PersistentId.Proofs.Registry.Sink
import PersistentId.Proofs.Service.Request
import PersistentId.Service.Startup

/-!
# PersistentId.Proofs.Service.Counters

What the registry counts, by itself and behind the service.

A look-up is counted by what the handle is at the moment of asking (`Database.lookUp?`): it is
stored or it is not, and if it is missing or the database is out of reach, then it is not looked up
at all. What becomes of a handle that was found makes no difference to this counter, so both
resolutions count alike. Resolving to an object counts a second time where the object is gone.

A request counts the handles that it gets to. That is the one handle of a redirect, and the handles
of a batch up to the first one that is refused (`Http.reached`).
-/

namespace PersistentId

namespace Event

/-- A handle was looked up, and there was a row of it or none. -/
def resolved (found : Bool) : Event :=
  .metric (.increment "handle.registry.resolve"
    [("outcome", .text (if found then "found" else "not_found"))])

/-- A handle was minted for an object of a type. -/
def minted (type : ResourceType) : Event :=
  .metric (.increment "handle.registry.mint" [("resource_type", .text type.label)])

/-- The object of a handle was gone. `type` is that of the resolver which did not find it. -/
def dangling (type : ResourceType) : Event :=
  .metric (.increment "handle.registry.dangling" [("resource_type", .text type.label)])

@[simp] theorem isOfRegistry_resolved (found : Bool) : (resolved found).isOfRegistry = true := rfl
@[simp] theorem isOfRegistry_minted (type : ResourceType) : (minted type).isOfRegistry = true := rfl

theorem resolved_injective : Function.Injective resolved := by decide

theorem minted_injective : Function.Injective minted := by
  intro type type' h
  have hlabel : type.label = type'.label := by simpa [minted] using h
  have hback := congrArg ResourceType.ofLabel? hlabel
  rw [ResourceType.ofLabel?_label, ResourceType.ofLabel?_label] at hback
  exact Option.some.inj hback

theorem minted_ne_resolved (type : ResourceType) (found : Bool) : minted type ≠ resolved found := by
  simp [minted, resolved]

theorem minted_ne_dangling (type type' : ResourceType) : minted type ≠ dangling type' := by
  simp [minted, dangling]

theorem resolved_ne_dangling (found : Bool) (type : ResourceType) :
    resolved found ≠ dangling type := by
  simp [resolved, dangling]

/-- Objects that are gone are counted by the registry. -/
theorem isOfRegistry_of_counts_dangling {e : Event}
    (h : e.counts "handle.registry.dangling" = true) : e.isOfRegistry = true := by
  rcases e with entry | ⟨⟨name, tags⟩ | ⟨name, tags⟩⟩ | label
  · cases h
  · rw [beq_iff_eq.1 h]
    rfl
  · cases h
  · cases h

/-- Events that are counters of the registry can be counted among these. -/
theorem countP_counters {kind : Event → Bool} (h : ∀ e, kind e = true → e.isOfRegistry = true)
    (events : List Event) : (counters events).countP kind = events.countP kind := by
  unfold counters
  rw [List.countP_filter]
  refine List.countP_congr fun e _ => ?_
  rw [Bool.and_eq_true, and_iff_left_of_imp (h e)]

end Event

/-- What a look-up finds: whether a row that the session sees has the handle. Nothing is looked up
in an outage, nor for a handle that is missing or empty. -/
def Database.lookUp? (db : Database) (handle : Option String) : Option Bool :=
  if db.reachable then
    (present? handle).map fun text => db.session.records.rows.any (·.handle == text)
  else none

namespace Database

theorem lookUp?_of_missing {handle : Option String} (h : present? handle = none) (db : Database) :
    db.lookUp? handle = none := by
  unfold lookUp?
  rw [h]
  exact ite_self none

theorem lookUp?_of_outage {db : Database} (h : db.reachable = false) (handle : Option String) :
    db.lookUp? handle = none := by
  simp [lookUp?, h]

theorem lookUp?_of_sees {db : Database} {record : Record} (h : Registry.Sees db record) :
    db.lookUp? (some record.handle) = some true := by
  have hpresent := present?_eq_some.2 ⟨rfl, h.handle⟩
  have hany : (db.session.records.rows.any (·.handle == record.handle)) = true :=
    List.any_eq_true.2 ⟨record, h.mem, beq_self_eq_true _⟩
  simp [lookUp?, h.reachable, hpresent, hany]

theorem lookUp?_of_unknown {db : Database} {handle : String} (hne : handle ≠ "")
    (hup : db.reachable = true)
    (hnone : ∀ record ∈ db.session.records.rows, record.handle ≠ handle) :
    db.lookUp? (some handle) = some false := by
  have hpresent := present?_eq_some.2 ⟨rfl, hne⟩
  have hany : (db.session.records.rows.any (·.handle == handle)) = false :=
    List.any_eq_false.2 fun record hrecord => by simpa using hnone record hrecord
  simp [lookUp?, hup, hpresent, hany]

end Database

namespace Registry

/-! ### Operations of the registry -/

variable {r : Registry} {db : Database} {handle : Option String}

theorem resolveEvents_of_measured (hmeasured : r.measured = true) (found : Bool) :
    r.resolveEvents found = [.resolved found] := if_pos hmeasured

/-- What a resolution to an object tells where the object is gone: the handle was found, and right
after it the object was not. -/
def IsDangling (events : List Event) : Prop :=
  ∃ type text, events = [.resolved true, .dangling type, .note .debug text]

theorem counters_addressOutcome (hmeasured : r.measured = true) (resolver : Resolver)
    (text : String) :
    Event.counters (r.addressOutcome resolver text).events = [.resolved true] := by
  unfold addressOutcome
  split
  · rw [resolveEvents_of_measured hmeasured]
    rfl
  · rw [resolveEvents_of_measured hmeasured]
    rfl

/-- The object of a handle is gone, and this is counted, or it is there. -/
theorem objectOutcome_cases (hmeasured : r.measured = true) (db : Database) (resolver : Resolver)
    (text : String) (id : Int) :
    let outcome := r.objectOutcome db resolver text id
    outcome.result = .ok none ∧ IsDangling outcome.events ∨
      outcome.result ≠ .ok none ∧ Event.counters outcome.events = [.resolved true] := by
  unfold objectOutcome objectEvents
  rw [resolveEvents_of_measured hmeasured, hmeasured]
  cases resolver.find db.session.items id with
  | none => exact .inl ⟨rfl, _, _, rfl⟩
  | some object => exact .inr ⟨nofun, rfl⟩

/-- Both resolutions count what looking up the handle finds. Resolving to an object counts once more
exactly where it finds a handle and no object. -/
theorem Agree.counters {url : Outcome RegistryError (Option String)}
    {object : Outcome RegistryError (Option Resource)} (h : r.Agree db handle url object)
    (hmeasured : r.measured = true) :
    Event.counters url.events = (db.lookUp? handle).toList.map Event.resolved ∧
    (object.result = .ok none → db.lookUp? handle = some true → IsDangling object.events) ∧
    (¬ (object.result = .ok none ∧ db.lookUp? handle = some true) →
      Event.counters object.events = (db.lookUp? handle).toList.map Event.resolved) := by
  cases h with
  | invalid h =>
      rw [Database.lookUp?_of_missing h]
      exact ⟨rfl, nofun, fun _ => rfl⟩
  | outage h hdown =>
      rw [Database.lookUp?_of_outage hdown]
      exact ⟨rfl, nofun, fun _ => rfl⟩
  | unknown h hup hnone =>
      rw [Database.lookUp?_of_unknown h hup hnone, resolveEvents_of_measured hmeasured]
      exact ⟨rfl, nofun, fun _ => rfl⟩
  | corrupt h =>
      rw [Database.lookUp?_of_sees h, resolveEvents_of_measured hmeasured]
      exact ⟨rfl, nofun, fun _ => rfl⟩
  | unsupported h =>
      rw [Database.lookUp?_of_sees h, resolveEvents_of_measured hmeasured]
      exact ⟨rfl, nofun, fun _ => rfl⟩
  | @found record e id h =>
      rw [Database.lookUp?_of_sees h]
      refine ⟨counters_addressOutcome hmeasured _ _, ?_⟩
      rcases objectOutcome_cases hmeasured db e.resolver record.handle id with
        ⟨hgone, hdangling⟩ | ⟨hthere, hcounters⟩
      · exact ⟨fun _ _ => hdangling, fun hnot => absurd ⟨hgone, rfl⟩ hnot⟩
      · exact ⟨fun hgone => absurd hgone hthere, fun _ => hcounters⟩

/-- A resolution that fails, but neither for its argument nor for the store, has found the handle.
-/
theorem Agree.found_of_error {url : Outcome RegistryError (Option String)}
    {object : Outcome RegistryError (Option Resource)} (h : r.Agree db handle url object)
    {e : RegistryError} (he : url.result = .error e ∨ object.result = .error e)
    (hargument : e.category? ≠ some .invalidHandle) (hstore : ∀ cause, e ≠ .store cause) :
    db.lookUp? handle = some true := by
  cases h with
  | invalid =>
      obtain rfl : .handle .missingHandle = e := by rcases he with he | he <;> cases he <;> rfl
      exact absurd rfl hargument
  | outage =>
      obtain rfl : .store .outage = e := by rcases he with he | he <;> cases he <;> rfl
      exact absurd rfl (hstore .outage)
  | unknown => rcases he with he | he <;> cases he
  | corrupt h => exact Database.lookUp?_of_sees h
  | unsupported h => exact Database.lookUp?_of_sees h
  | found h => exact Database.lookUp?_of_sees h

theorem counters_resolveUrl (hmeasured : r.measured = true) (db : Database)
    (handle : Option String) :
    Event.counters (r.resolveUrl db handle).events =
      (db.lookUp? handle).toList.map Event.resolved := ((r.agree db handle).counters hmeasured).1

end Registry

namespace Http

/-! ### Requests -/

/-- The handles of a batch that are looked up: those up to the first one that is refused. -/
def reached (r : Registry) (db : Database) : List String → List String
  | [] => []
  | handle :: rest =>
    handle :: if (r.resolveUrl db (some handle)).result.isOk then reached r db rest else []

/-- The handles that are looked up for a request. -/
def sought (site : Site) (db : Database) (a : Asked) : List String :=
  match a.route with
  | .redirect handle => [handle]
  | .resolve => reached (registryOf site) db (a.target.values "handle")
  | _ => []

theorem counters_errorEvents (e : HandleError) : Event.counters (errorEvents e) = [] := by
  unfold errorEvents
  split <;> rfl

theorem counters_account (path method : String) (result : Except Fault Response) :
    Event.counters (account path method result) = [] := by
  cases result <;> rfl

/-- Turning a failure into a response counts nothing. -/
theorem counters_answer (o : Outcome RegistryError α) (f : α → Outcome Fault Response) :
    Event.counters (answer o f).events =
      Event.counters o.events ++
        match o.result with
        | .ok a => Event.counters (f a).events
        | .error _ => [] := by
  unfold answer
  cases ho : o.result with
  | ok a => exact Event.counters_append _ _
  | error e =>
      cases e with
      | handle e =>
          simp only [refuse, Event.counters_append, counters_errorEvents]
      | store e => exact (List.append_nil _).symm
      | setting e => exact (List.append_nil _).symm

/-- What is made of the value often counts nothing either. -/
theorem counters_answer_of_silent {o : Outcome RegistryError α} {f : α → Outcome Fault Response}
    (h : ∀ a, Event.counters (f a).events = []) :
    Event.counters (answer o f).events = Event.counters o.events := by
  rw [counters_answer]
  cases o.result with
  | ok a => simp only [h, List.append_nil]
  | error e => exact List.append_nil _

theorem counters_resolveAll {r : Registry} (hmeasured : r.measured = true) (db : Database)
    (entries : List Json) (handles : List String) :
    Event.counters (resolveAll r db entries handles).events =
      ((reached r db handles).filterMap fun handle => db.lookUp? (some handle)).map
        Event.resolved := by
  induction handles generalizing entries with
  | nil => rfl
  | cons handle rest ih =>
      unfold resolveAll reached
      rw [counters_answer, Registry.counters_resolveUrl hmeasured]
      have hfirst : ∀ behind : List String,
          ((handle :: behind).filterMap fun handle => db.lookUp? (some handle)).map Event.resolved =
            (db.lookUp? (some handle)).toList.map Event.resolved ++
              (behind.filterMap fun handle => db.lookUp? (some handle)).map Event.resolved := by
        intro behind
        cases hlook : db.lookUp? (some handle) <;> simp [hlook]
      rw [hfirst]
      cases (r.resolveUrl db (some handle)).result with
      | ok url =>
          cases url with
          | some url => exact congrArg _ (ih _)
          | none => exact congrArg _ (ih _)
      | error e => rfl

/-- Where a redirect leads to is not counted. -/
theorem counters_redirectTo (url : String) : Event.counters (redirectTo url).events = [] := by
  unfold redirectTo
  cases Location.canonical url <;> rfl

/-- A request counts the handles that are looked up for it. -/
theorem counters_respond (site : Site) (db : Database) (a : Asked) :
    Event.counters (respond (registryOf site) db a.target a.route).events =
      ((sought site db a).filterMap fun handle => db.lookUp? (some handle)).map
        Event.resolved := by
  obtain ⟨method, t, route⟩ := a
  cases route with
  | redirect handle =>
      have hcounters := Registry.counters_resolveUrl (r := registryOf site) rfl db (some handle)
      simp only [respond]
      rw [counters_answer_of_silent, hcounters]
      · cases hlook : db.lookUp? (some handle) <;> simp [sought, hlook]
      · intro url
        cases url with
        | none => rfl
        | some url => exact counters_redirectTo url
  | alive => rfl
  | ready =>
      simp only [respond]
      cases db.ping <;> rfl
  | resolve => exact counters_resolveAll rfl db [] _
  | listing =>
      simp only [respond, sought]
      cases (t.values "prefix").head? with
      | none => rfl
      | some start => exact counters_answer_of_silent fun _ => rfl

/-- What is measured at the end of a request is counted elsewhere. -/
theorem counters_serve_of_asked {method target : String} {a : Asked}
    (h : asked? method target = some a) (site : Site) (db : Database) :
    Event.counters (serve site db method target).2 =
      ((sought site db a).filterMap fun handle => db.lookUp? (some handle)).map
        Event.resolved := by
  rw [serve_of_asked h]
  simp only [close, Event.counters_append, counters_respond, counters_account, List.append_nil]

/-- A request that asks for nothing counts nothing. -/
theorem counters_serve_of_not_asked {method target : String} (h : asked? method target = none)
    (site : Site) (db : Database) : Event.counters (serve site db method target).2 = [] := by
  rcases refused_of_not_asked h with ⟨response, hserve⟩ | ⟨verb, path, response, hserve⟩
  · rw [hserve, Event.counters_nil]
  · rw [hserve, counters_account]

end Http

namespace Startup

/-! ### The start of the service -/

theorem muted_choose (name : LiveValue) (debug : Bool) :
    (Backend.choose name debug).muted = Backend.choose name debug := by
  unfold Backend.choose
  split
  · rfl
  · cases debug <;> simp only <;> split <;> rfl

/-- Nothing is counted before the service has started. -/
theorem counters_opening (site : Site) : Event.counters (opening site).events = [] := by
  refine Outcome.counters_of_muted ?_
  have hchoose := congrArg Outcome.events (muted_choose site.metricsBackend site.debug)
  have hclient : (clientEvents site).muted = clientEvents site := by
    unfold clientEvents
    dsimp only
    split
    · rfl
    · exact Outcome.ext rfl hchoose
    · exact Outcome.ext rfl hchoose
  unfold opening
  rw [Outcome.muted_bind, hclient]
  rfl

end Startup

end PersistentId
