import Mathlib
import PersistentId.Proofs.Service.Counters
import PersistentId.Proofs.Service.Endpoints

/-!
# PersistentId.Proofs.Service.Batch

**A batch is all or nothing**, and it keeps its order. A batch is what `handle_internal_resolve` is
asked for.

Each handle of a batch can add an entry, or nothing, or end the whole batch. So a batch is told by
the first of its handles that fails, if there is one (`Http.firstFailure`): the handles in front of
it are looked up and forgotten, and those behind it are not looked up. All that is said of a batch
follows from what becomes of it behind handles that do not fail (`Http.resolveAll_append`).

A batch asks for its handles and for nothing else. Two requests with the same handles are the same
batch, and any list of handles makes one (`Http.batch`), however long it is.
-/

namespace PersistentId

namespace Http

variable {r : Registry} {db : Database}

/-! ### Handles in turn -/

/-- The failure of the first handle that cannot be resolved. -/
def firstFailure (r : Registry) (db : Database) (handles : List String) : Option RegistryError :=
  handles.findSome? fun handle => (r.resolveUrl db (some handle)).error?

/-- The address of a handle, if resolving it gives one. -/
def addressOf? (r : Registry) (db : Database) (handle : String) : Option String :=
  (r.resolveUrl db (some handle)).result.toOption.join

/-- The entry of a handle, if it has an address. -/
def entryOf? (r : Registry) (db : Database) (handle : String) : Option Json :=
  (addressOf? r db handle).map (entry handle)

theorem firstFailure_append (r : Registry) (db : Database) (front rest : List String) :
    firstFailure r db (front ++ rest) =
      (firstFailure r db front).or (firstFailure r db rest) := List.findSome?_append

theorem firstFailure_eq_none {handles : List String} :
    firstFailure r db handles = none ↔
      ∀ handle ∈ handles, (r.resolveUrl db (some handle)).error? = none :=
  List.findSome?_eq_none_iff

theorem firstFailure_nil (r : Registry) (db : Database) : firstFailure r db [] = none := rfl

/-- What stands behind the first handle that fails has no say. -/
theorem firstFailure_of_first {front : List String} {handle : String} {failure : RegistryError}
    (hfront : firstFailure r db front = none)
    (hfailure : (r.resolveUrl db (some handle)).error? = some failure) (rest : List String) :
    firstFailure r db (front ++ handle :: rest) = some failure :=
  List.findSome?_eq_some_iff.2
    ⟨front, handle, rest, rfl, hfailure, firstFailure_eq_none.1 hfront⟩

theorem result_of_error?_eq_none {o : Outcome ε α} (h : o.error? = none) :
    ∃ a, o.result = .ok a := by
  unfold Outcome.error? at h
  cases ho : o.result with
  | ok a => exact ⟨a, rfl⟩
  | error e => simp [ho] at h

theorem error?_eq_some {o : Outcome ε α} {e : ε} : o.error? = some e ↔ o.result = .error e := by
  unfold Outcome.error?
  cases o.result <;> simp

/-- Handles that do not fail leave their entries, and the batch goes on behind them. -/
theorem resolveAll_append {front : List String} (h : firstFailure r db front = none)
    (entries : List Json) (rest : List String) :
    (resolveAll r db entries (front ++ rest)).result =
      (resolveAll r db (entries ++ front.filterMap (entryOf? r db)) rest).result := by
  induction front generalizing entries with
  | nil => simp
  | cons handle front ih =>
      rw [firstFailure_eq_none, List.forall_mem_cons] at h
      obtain ⟨hhandle, hfront⟩ := h
      obtain ⟨url, hurl⟩ := result_of_error?_eq_none hhandle
      rw [List.cons_append, resolveAll, answer, hurl]
      cases url with
      | some url =>
          have hentry : entryOf? r db handle = some (entry handle url) := by
            simp [entryOf?, addressOf?, hurl, Except.toOption]
          simp only [ih (firstFailure_eq_none.2 hfront), List.filterMap_cons, hentry,
            List.append_assoc, List.singleton_append]
      | none =>
          have hentry : entryOf? r db handle = none := by
            simp [entryOf?, addressOf?, hurl, Except.toOption]
          simp only [ih (firstFailure_eq_none.2 hfront), List.filterMap_cons, hentry]

/-- All of them are looked up. -/
theorem reached_append {front : List String} (h : firstFailure r db front = none)
    (rest : List String) : reached r db (front ++ rest) = front ++ reached r db rest := by
  induction front with
  | nil => rfl
  | cons handle front ih =>
      rw [firstFailure_eq_none, List.forall_mem_cons] at h
      obtain ⟨url, hurl⟩ := result_of_error?_eq_none h.1
      rw [List.cons_append, List.cons_append, reached, hurl, ih (firstFailure_eq_none.2 h.2)]
      rfl

/-- The handle that fails is looked up, and nothing behind it. -/
theorem reached_of_first {front : List String} {handle : String} {failure : RegistryError}
    (hfront : firstFailure r db front = none)
    (hfailure : (r.resolveUrl db (some handle)).error? = some failure) (rest : List String) :
    reached r db (front ++ handle :: rest) = front ++ [handle] := by
  rw [reached_append hfront, reached, error?_eq_some.1 hfailure]
  rfl

/-! ### Batches -/

/-- What asks for the addresses of some handles. -/
def batchTarget (handles : List String) : Target :=
  ⟨"/internal/api/resolve".toList, handles.map fun handle => ("handle", handle)⟩

/-- What is sent for a batch of handles, and what is told of it. -/
def batch (site : Site) (db : Database) (handles : List String) : Response × List Event :=
  serveTarget site db "GET" (batchTarget handles)

theorem ofTarget?_batchTarget (handles : List String) :
    Route.ofTarget? (batchTarget handles) = some .resolve := by
  -- The route is told by the path, and not by the fields.
  have hpath : Route.ofTarget? (batchTarget []) = some .resolve := by decide +kernel
  exact hpath

theorem values_batchTarget (handles : List String) :
    (batchTarget handles).values "handle" = handles := by
  unfold Target.values batchTarget
  induction handles with
  | nil => rfl
  | cons handle rest ih =>
      simp only [List.map_cons, List.filter_cons, beq_self_eq_true, if_true]
      rw [ih]

variable (site : Site) (db : Database)

theorem batch_eq_close (handles : List String) :
    batch site db handles =
      close ⟨"GET", batchTarget handles, .resolve⟩
        (resolveAll (registryOf site) db [] handles) := by
  have hvalues := values_batchTarget handles
  unfold batch serveTarget Service.serveTarget Service.dispatch
  rw [ofTarget?_batchTarget]
  simp only [respond, hvalues]
  rfl

/-- A request for addresses is a batch of the handles that it names. -/
theorem serve_batch {target : String} {t : Target}
    (h : asked? "GET" target = some ⟨"GET", t, .resolve⟩) :
    serve site db "GET" target = batch site db (t.values "handle") := by
  rw [serve_of_asked h, batch_eq_close]
  rfl

/-- A batch without a failure has an entry for every handle that has an address. -/
theorem sent_batch_of_none {handles : List String}
    (h : firstFailure (registryOf site) db handles = none) :
    (batch site db handles).1 =
      .json (.list (handles.filterMap (entryOf? (registryOf site) db))) := by
  have hall := resolveAll_append h [] []
  rw [List.append_nil, List.nil_append] at hall
  rw [batch_eq_close, close, hall]
  rfl

/-- A batch with a failure is refused for the first one. -/
theorem sent_batch_of_some {handles : List String} {failure : RegistryError}
    (h : firstFailure (registryOf site) db handles = some failure) :
    (batch site db handles).1 = ofLookup (fun _ : Unit => .bare 200) (.error failure) := by
  obtain ⟨front, handle, rest, rfl, hfailure, hfront⟩ := List.findSome?_eq_some_iff.1 h
  rw [batch_eq_close, close, resolveAll_append (firstFailure_eq_none.2 hfront), resolveAll,
    answer, error?_eq_some.1 hfailure]
  cases failure <;> rfl

/-- Two batches without a failure make one with the entries of both. -/
theorem sent_batch_append {handles more : List String}
    (h : firstFailure (registryOf site) db handles = none)
    (hmore : firstFailure (registryOf site) db more = none) :
    (batch site db (handles ++ more)).1 =
      .json (.list (handles.filterMap (entryOf? (registryOf site) db) ++
        more.filterMap (entryOf? (registryOf site) db))) := by
  have hboth : firstFailure (registryOf site) db (handles ++ more) = none := by
    rw [firstFailure_append, h, hmore, Option.or_none]
  rw [sent_batch_of_none site db hboth, List.filterMap_append]

/-- A batch with a failure is refused in the same way with more handles behind it. -/
theorem sent_batch_append_of_some {handles : List String} {failure : RegistryError}
    (h : firstFailure (registryOf site) db handles = some failure) (more : List String) :
    (batch site db (handles ++ more)).1 = (batch site db handles).1 := by
  have hboth : firstFailure (registryOf site) db (handles ++ more) = some failure := by
    rw [firstFailure_append, h, Option.some_or]
  rw [sent_batch_of_some site db hboth, sent_batch_of_some site db h]

/-- A batch is refused as the first of its handles that fails is refused on its own. -/
theorem sent_batch_of_first {front : List String} {handle : String} {failure : RegistryError}
    (hfront : firstFailure (registryOf site) db front = none)
    (hfailure : ((registryOf site).resolveUrl db (some handle)).error? = some failure)
    (rest : List String) :
    (batch site db (front ++ handle :: rest)).1 = (batch site db [handle]).1 := by
  have halone : firstFailure (registryOf site) db [handle] = some failure :=
    firstFailure_of_first (firstFailure_nil _ db) hfailure []
  rw [sent_batch_of_some site db (firstFailure_of_first hfront hfailure rest),
    sent_batch_of_some site db halone]

/-- A handle that fails is refused in a batch as it is on its own address. -/
theorem sent_batch_singleton {handle : String} {failure : RegistryError}
    (hfailure : ((registryOf site).resolveUrl db (some handle)).error? = some failure) :
    (batch site db [handle]).1 = ofLookup (single handle) (.error failure) := by
  have halone : firstFailure (registryOf site) db [handle] = some failure :=
    firstFailure_of_first (firstFailure_nil _ db) hfailure []
  rw [sent_batch_of_some site db halone]
  cases failure <;> rfl

/-- No failure is answered as a success. -/
theorem status_ofLookup_error (f : α → Response) (failure : RegistryError) :
    (ofLookup f (.error failure)).status ≠ 200 := by
  cases failure with
  | handle e =>
      show e.category.status ≠ 200
      cases e.category <;> decide
  | store e => show 500 ≠ 200; decide
  | setting e => show 500 ≠ 200; decide

/-- A batch is answered with status 200 exactly when none of its handles fails. -/
theorem status_batch {handles : List String} :
    (batch site db handles).1.status = 200 ↔
      firstFailure (registryOf site) db handles = none := by
  cases h : firstFailure (registryOf site) db handles with
  | none =>
      rw [sent_batch_of_none site db h]
      exact iff_of_true rfl rfl
  | some failure =>
      rw [sent_batch_of_some site db h]
      exact iff_of_false (status_ofLookup_error _ failure) nofun

/-- What the registry counts for some handles, each on its own. -/
def countersOf (r : Registry) (db : Database) (handles : List String) : List Event :=
  handles.flatMap fun handle => Event.counters (r.resolveUrl db (some handle)).events

/-- A batch counts what the handles that it gets to count. -/
theorem counters_batch (handles : List String) :
    Event.counters (batch site db handles).2 =
      countersOf (registryOf site) db (reached (registryOf site) db handles) := by
  have hone : ∀ handle, Event.counters ((registryOf site).resolveUrl db (some handle)).events =
      (db.lookUp? (some handle)).toList.map Event.resolved :=
    fun handle => Registry.counters_resolveUrl rfl db (some handle)
  rw [batch_eq_close]
  simp only [close, Event.counters_append, counters_account, List.append_nil]
  rw [counters_resolveAll rfl, List.filterMap_eq_flatMap_toList, List.map_flatMap]
  simp only [countersOf, hone]

theorem counters_batch_of_none {handles : List String}
    (h : firstFailure (registryOf site) db handles = none) :
    Event.counters (batch site db handles).2 = countersOf (registryOf site) db handles := by
  have hreached : reached (registryOf site) db handles = handles := by
    simpa [reached] using reached_append h []
  rw [counters_batch, hreached]

theorem counters_batch_of_first {front : List String} {handle : String} {failure : RegistryError}
    (hfront : firstFailure (registryOf site) db front = none)
    (hfailure : ((registryOf site).resolveUrl db (some handle)).error? = some failure)
    (rest : List String) :
    Event.counters (batch site db (front ++ handle :: rest)).2 =
      countersOf (registryOf site) db (front ++ [handle]) := by
  rw [counters_batch, reached_of_first hfront hfailure rest]

theorem countersOf_singleton (handle : String) :
    countersOf (registryOf site) db [handle] =
      (db.lookUp? (some handle)).toList.map Event.resolved := by
  simp only [countersOf, List.flatMap_cons, List.flatMap_nil, List.append_nil]
  exact Registry.counters_resolveUrl rfl db (some handle)

/-- **A batch is all or nothing.** Take any settings and any database, also one that is out of
reach. A request for addresses is answered as the batch of the handles that it names. For every
list of handles, in which one may occur more than once, be unknown or empty:

* the batch has status 200 exactly when none of its handles fails on its own. It then lists the
  handles that have an address, each with its canonical form and the address, in their order and as
  often as they occur, and counts what each of them counts;
* otherwise the answer is the one that the first handle which fails gets on its own, whatever stands
  behind it: the message and the name of the failure, or no more than that there was one. What is
  counted are the handles up to that one;
* two batches with status 200 make one with the entries of both, and a batch that is refused is
  refused in the same way with more handles behind it.

A handle is counted once, as found or not, and an empty one is not counted. -/
theorem batch_all_or_nothing (site : Site) (db : Database) :
    let r := registryOf site
    let failure? (handle : String) := (r.resolveUrl db (some handle)).error?
    let entries (handles : List String) : List Json := handles.filterMap fun handle =>
      (r.resolveUrl db (some handle)).result.toOption.join.map fun url =>
        .object [("handle", .text handle), ("canonical_form", .text ("hdl:" ++ handle)),
          ("url", .text url)]
    let listed (entries : List Json) : Response :=
      { status := 200, contentType := some "application/json; charset=utf-8", location := none,
        allow := none, body := (Json.list entries).render }
    let sent (handles : List String) := (batch site db handles).1
    let counted (handles : List String) := Event.counters (batch site db handles).2
    (∀ target t, asked? "GET" target = some ⟨"GET", t, .resolve⟩ →
      serve site db "GET" target = batch site db (t.values "handle")) ∧
    (∀ handles, (sent handles).status = 200 ↔ ∀ handle ∈ handles, failure? handle = none) ∧
    (∀ handles, (∀ handle ∈ handles, failure? handle = none) →
      sent handles = listed (entries handles) ∧ counted handles = countersOf r db handles) ∧
    (∀ front handle rest failure, (∀ earlier ∈ front, failure? earlier = none) →
      failure? handle = some failure →
      sent (front ++ handle :: rest) = sent [handle] ∧
      (∀ e, failure = .handle e → sent [handle] =
        { status := e.category.status, contentType := some "application/json", location := none,
          allow := none,
          body := Json.render (.object [("error", .text e.message),
            ("error_type", .text e.category.label)]) }) ∧
      ((∀ e, failure ≠ .handle e) → sent [handle] =
        { status := 500, contentType := some "text/plain; charset=utf-8", location := none,
          allow := none, body := "500 Internal Server Error\n\nServer got itself in trouble" }) ∧
      counted (front ++ handle :: rest) = countersOf r db (front ++ [handle])) ∧
    (∀ handles more,
      ((sent handles).status = 200 → (sent more).status = 200 →
        sent (handles ++ more) = listed (entries handles ++ entries more)) ∧
      ((sent handles).status ≠ 200 → sent (handles ++ more) = sent handles)) ∧
    (∀ handle, countersOf r db [handle] = (db.lookUp? (some handle)).toList.map Event.resolved) ∧
    countersOf r db [""] = [] := by
  intro r failure? entries listed sent counted
  have hstatus : ∀ handles, (sent handles).status = 200 ↔ firstFailure r db handles = none :=
    fun _ => status_batch site db
  have hempty : countersOf r db [""] = [] := by
    rw [show countersOf r db [""] = _ from countersOf_singleton site db "",
      Database.lookUp?_of_missing (by decide)]
    rfl
  refine ⟨fun target t h => serve_batch site db h, ?_, ?_, ?_, ?_, countersOf_singleton site db,
    hempty⟩
  · intro handles
    rw [hstatus, firstFailure_eq_none]
  · intro handles h
    have hfirst := firstFailure_eq_none.2 h
    exact ⟨sent_batch_of_none site db hfirst, counters_batch_of_none site db hfirst⟩
  · intro front handle rest failure hbefore hfailure
    have hfront := firstFailure_eq_none.2 hbefore
    have halone := sent_batch_singleton site db hfailure
    refine ⟨sent_batch_of_first site db hfront hfailure rest, ?_, ?_,
      counters_batch_of_first site db hfront hfailure rest⟩
    · rintro e rfl
      exact halone
    · intro hother
      cases failure with
      | handle e => exact absurd rfl (hother e)
      | store e => exact halone
      | setting e => exact halone
  · intro handles more
    constructor
    · intro hhandles hmore
      rw [hstatus] at hhandles hmore
      exact sent_batch_append site db hhandles hmore
    · intro hrefused
      obtain ⟨failure, hfailure⟩ := Option.ne_none_iff_exists'.1 fun h => hrefused ((hstatus _).2 h)
      exact sent_batch_append_of_some site db hfailure more

/-- A handle that is named twice, with an unknown one between. A corrupt row behind an empty handle,
which is refused first and not counted. -/
theorem batch_all_or_nothing_by_request :
    let site : Site := ⟨.missing, .text "http://a", .text "none", false⟩
    let rows : RecordTable :=
      ⟨[⟨1, "a", some 2, some 7⟩, ⟨2, "c", none, some 7⟩], by decide, by decide⟩
    let db : Database := { Database.empty with session := ⟨rows, [7]⟩ }
    let served := serve site db "GET" "/internal/api/resolve?handle=a&handle=b&handle=a"
    let refused := batch site db ["a", "", "c"]
    let found : Json := .object
      [("handle", .text "a"), ("canonical_form", .text "hdl:a"), ("url", .text "http://a/a")]
    served.1.status = 200 ∧ served.1.body = Json.render (.list [found, found]) ∧
    Event.counters served.2 = [.resolved true, .resolved false, .resolved true] ∧
    refused.1 = .ofError .missingHandle ∧ refused.1.status = 400 ∧
    Event.counters refused.2 = [.resolved true] := by
  intro site rows db served refused found
  obtain ⟨hserve, -, hall, hfirst, -⟩ := batch_all_or_nothing site db
  let t : Target :=
    ⟨"/internal/api/resolve".toList, [("handle", "a"), ("handle", "b"), ("handle", "a")]⟩
  have hasked : asked? "GET" "/internal/api/resolve?handle=a&handle=b&handle=a" =
      some ⟨"GET", t, .resolve⟩ := by decide +kernel
  have hserved : served = batch site db ["a", "b", "a"] := hserve _ t hasked
  obtain ⟨hsent, hcounted⟩ := hall ["a", "b", "a"] (by decide +kernel)
  obtain ⟨hrefused, halone, -, hcounted'⟩ :=
    hfirst ["a"] "" ["c"] (.handle .missingHandle) (by decide +kernel) (by decide +kernel)
  have hanswer : refused.1 = .ofError .missingHandle := hrefused.trans (halone _ rfl)
  rw [hserved]
  have hfound : ((registryOf site).resolveUrl db (some "a")).result.toOption.join =
      some "http://a/a" := by decide +kernel
  have hunknown : ((registryOf site).resolveUrl db (some "b")).result.toOption.join = none := by
    decide +kernel
  have hbody : (batch site db ["a", "b", "a"]).1.body = Json.render (.list [found, found]) := by
    refine (congrArg Response.body hsent).trans ?_
    simp only [List.filterMap_cons, hfound, hunknown]
    rfl
  refine ⟨congrArg Response.status hsent, hbody, hcounted.trans (by decide +kernel), hanswer,
    by rw [hanswer]; rfl, hcounted'.trans (by decide +kernel)⟩

end Http

end PersistentId
