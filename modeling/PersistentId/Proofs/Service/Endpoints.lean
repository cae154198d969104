import Mathlib
import PersistentId.Proofs.Registry.Agreement
import PersistentId.Proofs.Service.Request
import PersistentId.World

/-!
# PersistentId.Proofs.Service.Endpoints

**The endpoints agree** with the registry and with each other.

A handle can be followed by a redirect (`handle_handle_redirect`), and it can be looked up in a
batch (`handle_internal_resolve`). Both ask the registry for the address of the handle, and both
turn a failure of the registry into the same response (`Http.ofLookup`). They differ in what they
make of an address, and of a handle that nobody registered: the redirect has nowhere to go then,
while the batch leaves the handle out.

The registry behind the service counts what it resolves. That shows in the events of a request
and not in what is sent, so the registry to compare with may count or not.
-/

namespace PersistentId

namespace Registry

/-! ### Results of resolving -/

/-- Whether there is a sink for counters does not show in the result of looking up a handle. -/
theorem result_findRecord_measured (table : ResolverTable) (measured measured' : Bool)
    (db : Database) (handle : Option String) :
    ((⟨table, measured⟩ : Registry).findRecord db handle).result =
      ((⟨table, measured'⟩ : Registry).findRecord db handle).result := by
  unfold findRecord
  cases present? handle with
  | none => rfl
  | some text => cases hfound : db.findRecord text <;> simp only [hfound] <;> rfl

/-- Nor does it show in the result of resolving one. -/
theorem result_resolveUrl_measured (table : ResolverTable) (measured measured' : Bool)
    (db : Database) (handle : Option String) :
    ((⟨table, measured⟩ : Registry).resolveUrl db handle).result =
      ((⟨table, measured'⟩ : Registry).resolveUrl db handle).result := by
  rw [result_resolveUrl, result_resolveUrl, result_findRecord_measured table measured measured']
  rfl

/-- While the database is up, resolving a handle that is not empty fails for one of these reasons
only. -/
theorem error_of_resolveUrl {r : Registry} {db : Database} {handle : String} {e : RegistryError}
    (hne : handle ≠ "") (hup : db.reachable = true)
    (h : (r.resolveUrl db (some handle)).result = .error e) :
    (∃ cause, e = .handle cause ∧ (cause.category = .unsupportedResourceType ∨
      cause.category = .corruptRecord ∨ cause.category = .configurationMissing)) ∨
    ∃ entry ∈ r.table.entries, ∃ kind, entry.resolver.urlPrefix = .other kind false ∧
      e = .setting ⟨kind, slashOperation⟩ := by
  have hagree := r.agree db (some handle)
  generalize r.resolveUrl db (some handle) = url at h hagree
  generalize r.resolveObject db (some handle) = object at hagree
  cases hagree with
  | invalid hmissing => exact absurd hmissing (present?_ne_none hne)
  | outage _ hdown => simp [hup] at hdown
  | unknown => cases h
  | corrupt =>
      cases h
      exact .inl ⟨_, rfl, .inr (.inl rfl)⟩
  | unsupported =>
      cases h
      exact .inl ⟨_, rfl, .inl rfl⟩
  | @found record entry _ _ he =>
      rcases r.addressOutcome_cases entry.resolver record.handle with
        ⟨_, _, _, haddress⟩ | ⟨_, haddress⟩ | ⟨kind, hvalue, haddress⟩
      · rw [haddress] at h
        cases h
      · rw [haddress] at h
        cases h
        exact .inl ⟨_, rfl, .inr (.inr rfl)⟩
      · rw [haddress] at h
        cases h
        exact .inr ⟨entry, he.mem, kind, hvalue, rfl⟩

end Registry

namespace Http

/-! ### What is sent for a look-up -/

/-- The response to a look-up: what is made of its value, or its failure. -/
def ofLookup (f : α → Response) : Except RegistryError α → Response
  | .ok a => f a
  | .error (.handle e) => .ofError e
  | .error (.store _) => .serverError
  | .error (.setting _) => .serverError

/-- The redirect to an address, as far as it can be written in a header. -/
def follow : Except Location.Fault String → Response
  | .ok location => .found location
  | .error _ => .serverError

/-- Where the redirect leads from a handle of a given address. -/
def leadFrom (handle : String) : Option String → Response
  | some url => follow (Location.canonical url)
  | none => .unknownHandle handle

/-- The batch of a single handle of a given address. -/
def single (handle : String) (url : Option String) : Response :=
  .json (.list (url.toList.map (entry handle)))

/-- The answer to a `GET` request is the response to the look-up behind it. -/
theorem sent_answer {o : Outcome RegistryError α} {f : α → Outcome Fault Response}
    {g : α → Response} (h : ∀ a, sent "GET" (f a).result = g a) :
    sent "GET" (answer o f).result = ofLookup g o.result := by
  unfold answer
  cases o.result with
  | ok a => exact h a
  | error e => cases e <;> rfl

/-- The redirect sends what the address of the handle says, where it leads to included. -/
theorem sent_redirect (r : Registry) (db : Database) (t : Target) (handle : String) :
    sent "GET" (respond r db t (.redirect handle)).result =
      ofLookup (leadFrom handle) (r.resolveUrl db (some handle)).result := by
  refine sent_answer fun url => ?_
  cases url with
  | none => rfl
  | some url =>
      unfold redirectTo leadFrom
      cases hlocation : Location.canonical url <;> simp only [hlocation] <;> rfl

theorem serve_redirect {target handle : String} {t : Target}
    (h : asked? "GET" target = some ⟨"GET", t, .redirect handle⟩) (site : Site) (db : Database) :
    (serve site db "GET" target).1 =
      ofLookup (leadFrom handle) ((registryOf site).resolveUrl db (some handle)).result := by
  rw [serve_of_asked h]
  exact sent_redirect (registryOf site) db t handle

/-- The batch of a single handle sends what the address of the handle says. -/
theorem serve_single {target handle : String} {t : Target}
    (h : asked? "GET" target = some ⟨"GET", t, .resolve⟩) (ht : t.values "handle" = [handle])
    (site : Site) (db : Database) :
    (serve site db "GET" target).1 =
      ofLookup (single handle) ((registryOf site).resolveUrl db (some handle)).result := by
  rw [serve_of_asked h]
  unfold close respond
  simp only [ht]
  refine sent_answer fun url => ?_
  cases url <;> rfl

/-- **The endpoints agree.** Let a handle be what one request asks to be redirected from, and the
only handle that another request asks to have looked up. Let a registry be built from the settings
that the requests find. While the database is up:

* where the registry gives an address, the batch has one entry, with the handle, its canonical
  form and the address, and the redirect leads to the address, as it is written in a header. If it
  cannot be written there, the redirect fails;
* where nobody registered the handle, the redirect is told so, and the batch is empty;
* where the registry fails, both send the same. That is the message and the name of the failure,
  with a status that blames the client for an unsupported type and the server for a corrupt record
  or a setting that is not set; or no more than that there was a failure, if the setting is there
  but no text.

In an outage both fail. -/
theorem endpoints_agree (site : Site) (db : Database) (measured : Bool)
    {handle followed batched : String} {t t' : Target} (hne : handle ≠ "")
    (hfollowed : asked? "GET" followed = some ⟨"GET", t, .redirect handle⟩)
    (hbatched : asked? "GET" batched = some ⟨"GET", t', .resolve⟩)
    (hvalues : t'.values "handle" = [handle]) :
    let registry : Registry := ⟨World.defaultTable site, measured⟩
    let address := (registry.resolveUrl db (some handle)).result
    let redirect := (serve site db "GET" followed).1
    let batch := (serve site db "GET" batched).1
    let failed : Response :=
      { status := 500, contentType := some "text/plain; charset=utf-8", location := none,
        allow := none, body := "500 Internal Server Error\n\nServer got itself in trouble" }
    let listed (entries : List Json) : Response :=
      { status := 200, contentType := some "application/json; charset=utf-8", location := none,
        allow := none, body := (Json.list entries).render }
    (db.reachable = true →
      (∀ url, address = .ok (some url) →
        batch = listed [.object [("handle", .text handle),
          ("canonical_form", .text ("hdl:" ++ handle)), ("url", .text url)]] ∧
        (∀ location, Location.canonical url = .ok location → redirect =
          { status := 302, contentType := some "text/plain; charset=utf-8",
            location := some location, allow := none, body := "302: Found" }) ∧
        ∀ fault, Location.canonical url = .error fault → redirect = failed) ∧
      (address = .ok none →
        redirect =
          { status := 404, contentType := some "application/json", location := none, allow := none,
            body := Json.render
              (.object [("error", .text "Handle not found"), ("handle", .text handle)]) } ∧
        batch = listed []) ∧
      ∀ failure, address = .error failure → redirect = batch ∧
        ((∃ e, failure = .handle e ∧
          redirect =
            { status := e.category.status, contentType := some "application/json",
              location := none, allow := none,
              body := Json.render (.object [("error", .text e.message),
                ("error_type", .text e.category.label)]) } ∧
          (e.category = .unsupportedResourceType ∧ redirect.status = 422 ∨
            (e.category = .corruptRecord ∨ e.category = .configurationMissing) ∧
              redirect.status = 500)) ∨
        ∃ kind, site.itemUrlPrefix = .other kind false ∧
          failure = .setting ⟨kind, Registry.slashOperation⟩ ∧ redirect = failed)) ∧
    (db.reachable = false → redirect = failed ∧ batch = failed) := by
  intro registry address redirect batch failed listed
  have hsame : ((registryOf site).resolveUrl db (some handle)).result = address :=
    Registry.result_resolveUrl_measured _ true measured db (some handle)
  have hredirect : redirect = ofLookup (leadFrom handle) address := by
    rw [← hsame]
    exact serve_redirect hfollowed site db
  have hbatch : batch = ofLookup (single handle) address := by
    rw [← hsame]
    exact serve_single hbatched hvalues site db
  -- From here on all that matters of the two requests is the look-up behind them.
  clear_value redirect batch
  refine ⟨fun hup => ⟨?_, ?_, ?_⟩, ?_⟩
  · intro url haddress
    rw [haddress] at hredirect hbatch
    refine ⟨hbatch, fun location hlocation => ?_, fun fault hfault => ?_⟩
    · rw [hredirect, ofLookup, leadFrom, hlocation]
      rfl
    · rw [hredirect, ofLookup, leadFrom, hfault]
      rfl
  · intro haddress
    rw [haddress] at hredirect hbatch
    exact ⟨hredirect, hbatch⟩
  · intro failure haddress
    rw [haddress] at hredirect hbatch
    rcases Registry.error_of_resolveUrl hne hup haddress with
      ⟨e, rfl, hcategory⟩ | ⟨entry, hentry, kind, hvalue, rfl⟩
    · have hstatus : redirect.status = e.category.status := by
        rw [hredirect]
        rfl
      refine ⟨hredirect.trans hbatch.symm, .inl ⟨e, rfl, hredirect, ?_⟩⟩
      rcases hcategory with hcategory | hcategory | hcategory
      · exact .inl ⟨hcategory, by rw [hstatus, hcategory]; rfl⟩
      · exact .inr ⟨.inl hcategory, by rw [hstatus, hcategory]; rfl⟩
      · exact .inr ⟨.inr hcategory, by rw [hstatus, hcategory]; rfl⟩
    · -- The table has a single entry, and it is published under the prefix of the site.
      obtain rfl : entry = ⟨.item, .items site.itemUrlPrefix⟩ := List.mem_singleton.1 hentry
      exact ⟨hredirect.trans hbatch.symm, .inr ⟨kind, hvalue, rfl, hredirect⟩⟩
  · intro hdown
    have haddress : address = .error (.store .outage) := by
      have hpresent : present? (some handle) = some handle := present?_eq_some.2 ⟨rfl, hne⟩
      have hfind := Registry.findRecord_of_outage hpresent registry hdown
      exact congrArg Outcome.result (Registry.resolve_of_fail hfind).1
    rw [haddress] at hredirect hbatch
    exact ⟨hredirect, hbatch⟩

/-- A handle with a blank is escaped in one way in a path and in another way in a query. Both
requests ask for the same handle. A row of a type without a resolver is refused by both. -/
theorem endpoints_agree_on_escapes :
    let site : Site := ⟨.missing, .text "http://a", .text "none", false⟩
    let rows : RecordTable :=
      ⟨[⟨1, "a b", some 2, some 7⟩, ⟨2, "c", some 9, some 7⟩], by decide, by decide⟩
    let db : Database := { Database.empty with session := ⟨rows, [7]⟩ }
    (serve site db "GET" "/handle/a%20b").1.status = 302 ∧
    (serve site db "GET" "/handle/a%20b").1.location = some "http://a/a%20b" ∧
    (serve site db "GET" "/internal/api/resolve?handle=a+b").1.body =
      Json.render (.list [.object [("handle", .text "a b"), ("canonical_form", .text "hdl:a b"),
        ("url", .text "http://a/a b")]]) ∧
    (serve site db "GET" "/handle/c").1.status = 422 ∧
    (serve site db "GET" "/internal/api/resolve?handle=c").1 =
      (serve site db "GET" "/handle/c").1 := by
  intro site rows db
  have hfollowed : asked? "GET" "/handle/a%20b" =
      some ⟨"GET", ⟨"/handle/a%20b".toList, []⟩, .redirect "a b"⟩ := by decide +kernel
  have hbatched : asked? "GET" "/internal/api/resolve?handle=a+b" =
      some ⟨"GET", ⟨"/internal/api/resolve".toList, [("handle", "a b")]⟩, .resolve⟩ := by
    decide +kernel
  have hfollowed' : asked? "GET" "/handle/c" =
      some ⟨"GET", ⟨"/handle/c".toList, []⟩, .redirect "c"⟩ := by decide +kernel
  have hbatched' : asked? "GET" "/internal/api/resolve?handle=c" =
      some ⟨"GET", ⟨"/internal/api/resolve".toList, [("handle", "c")]⟩, .resolve⟩ := by
    decide +kernel
  have hlocation : Location.canonical "http://a/a b" = .ok "http://a/a%20b" := by decide +kernel
  obtain ⟨hup, -⟩ := endpoints_agree site db false (by decide) hfollowed hbatched (by decide)
  obtain ⟨hup', -⟩ := endpoints_agree site db false (by decide) hfollowed' hbatched' (by decide)
  obtain ⟨hentry, hfound, -⟩ := (hup rfl).1 "http://a/a b" rfl
  obtain ⟨hsame, ⟨e, he, -, hstatus⟩ | ⟨kind, hkind, -⟩⟩ := (hup' rfl).2.2 _ rfl
  · cases he
    obtain ⟨-, hstatus⟩ | ⟨hcategory | hcategory, -⟩ := hstatus
    · exact ⟨congrArg Response.status (hfound _ hlocation),
        congrArg Response.location (hfound _ hlocation), congrArg Response.body hentry, hstatus,
        hsame.symm⟩
    · cases hcategory
    · cases hcategory
  · cases hkind

end Http

end PersistentId
