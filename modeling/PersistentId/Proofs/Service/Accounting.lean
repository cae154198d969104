import Mathlib
import PersistentId.Proofs.Registry.Agreement
import PersistentId.Proofs.Registry.Sink
import PersistentId.Proofs.Service.Request

/-!
# PersistentId.Proofs.Service.Accounting

**Every request is accounted for once.**

A request that reaches the service leaves three kinds of traces besides its log: the counters of
the registry behind it, one report if the server is to blame, and the measurements at its end. Who
writes the report depends on the way the request goes. A failure of the registry is reported where
`raise_for_handle_exception` turns it into a response, and a fault is reported on its way out, by
`sentry_middleware`. The measurements are taken by `statsd_middleware` around both. So nothing is
reported twice only if no outcome with a report of its own is a fault (`Http.Handled`). That is
shown for every route, and the end of the request is added once for all of them.

A line that cannot be read never reaches the service. It is refused before anything is measured.
-/

namespace PersistentId

/-! ### What the registry tells -/

/-- Events as the operations of the registry tell them: the only measurements are its counters, and
nothing is reported. -/
structure Event.FromRegistry (events : List Event) : Prop where
  metrics : ∀ m ∈ Event.metrics events, m.isOfRegistry = true
  reports : Event.reports events = []

namespace Event.FromRegistry

theorem nil : FromRegistry [] := ⟨nofun, rfl⟩

theorem append {xs ys : List Event} (hx : FromRegistry xs) (hy : FromRegistry ys) :
    FromRegistry (xs ++ ys) := by
  refine ⟨fun m hm => ?_, by rw [reports_append, hx.reports, hy.reports]; rfl⟩
  rw [metrics_append] at hm
  rcases List.mem_append.1 hm with hm | hm
  · exact hx.metrics m hm
  · exact hy.metrics m hm

theorem note (level : Level) (text : String) : FromRegistry [Event.note level text] := ⟨nofun, rfl⟩

theorem counter {m : Metric} (h : m.isOfRegistry = true) : FromRegistry [.metric m] where
  metrics x hx := by
    obtain rfl : x = m := List.mem_singleton.1 hx
    exact h
  reports := rfl

end Event.FromRegistry

namespace Registry

open Event.FromRegistry

theorem fromRegistry_resolveEvents (r : Registry) (found : Bool) :
    Event.FromRegistry (r.resolveEvents found) := by
  unfold resolveEvents
  split
  · exact counter rfl
  · exact nil

theorem fromRegistry_resolveUrl (r : Registry) (db : Database) (handle : Option String) :
    Event.FromRegistry (r.resolveUrl db handle).events := by
  have hagree := r.agree db handle
  generalize r.resolveUrl db handle = url at hagree ⊢
  generalize r.resolveObject db handle = object at hagree
  cases hagree with
  | invalid => exact nil
  | outage => exact nil
  | unknown => exact r.fromRegistry_resolveEvents false
  | corrupt => exact r.fromRegistry_resolveEvents true
  | unsupported => exact r.fromRegistry_resolveEvents true
  | found =>
      unfold addressOutcome
      split
      · exact r.fromRegistry_resolveEvents true
      · exact (r.fromRegistry_resolveEvents true).append (note _ _)

theorem fromRegistry_handlesWith (db : Database) (start : Option String) :
    Event.FromRegistry (handlesWith db start).events := by
  cases start <;> exact nil

end Registry

namespace Http

/-! ### What a route tells -/

/-- What is told by the time a route has an outcome. The only measurements are counters of the
registry. A response that blames the server was reported, and no other one was. A fault was not
reported yet. -/
structure Handled (o : Outcome Fault Response) : Prop where
  metrics : ∀ m ∈ Event.metrics o.events, m.isOfRegistry = true
  answered : ∀ response, o.result = .ok response →
    (Event.reports o.events).length = if response.status = 500 then 1 else 0
  failed : ∀ fault, o.result = .error fault → Event.reports o.events = []

theorem handled_pure {response : Response} (h : response.status ≠ 500) :
    Handled (pure response) where
  metrics := nofun
  answered := by
    rintro _ ⟨⟩
    rw [if_neg h]
    rfl
  failed := nofun

theorem handled_fail (fault : Fault) : Handled (.fail fault) := ⟨nofun, nofun, fun _ _ => rfl⟩

/-- A failure of the registry is reported where it becomes a response, if the server is to blame for
it. -/
theorem handled_refuse (e : HandleError) : Handled (refuse e) := by
  have hfault : e.category.isServerFault = true ↔ (Response.ofError e).status = 500 := by
    simp [ErrorCategory.isServerFault]
  constructor
  · intro m hm
    unfold refuse errorEvents at hm
    split at hm <;> cases hm
  · rintro _ ⟨⟩
    unfold refuse errorEvents
    by_cases h : e.category.isServerFault = true
    · rw [if_pos h, if_pos (hfault.1 h)]
      rfl
    · rw [if_neg h, if_neg fun hstatus => h (hfault.2 hstatus)]
      rfl
  · nofun

/-- What the registry tells comes before what is told of the outcome, and adds no report. -/
theorem handled_answer {o : Outcome RegistryError α} {f : α → Outcome Fault Response}
    (ho : Event.FromRegistry o.events) (hf : ∀ a, Handled (f a)) : Handled (answer o f) := by
  have hbehind : ∀ p : Outcome Fault Response, Handled p →
      Handled ⟨p.result, o.events ++ p.events⟩ := by
    intro p hp
    refine ⟨fun m hm => ?_, fun response h => ?_, fun fault h => ?_⟩
    · rw [Event.metrics_append] at hm
      rcases List.mem_append.1 hm with hm | hm
      · exact ho.metrics m hm
      · exact hp.metrics m hm
    · rw [Event.reports_append, ho.reports, List.nil_append]
      exact hp.answered response h
    · rw [Event.reports_append, ho.reports, List.nil_append]
      exact hp.failed fault h
  unfold answer
  split
  · exact hbehind _ (hf _)
  · exact hbehind _ (handled_refuse _)
  · exact ⟨ho.metrics, nofun, fun _ _ => ho.reports⟩
  · exact ⟨ho.metrics, nofun, fun _ _ => ho.reports⟩

theorem handled_redirectTo (url : String) : Handled (redirectTo url) := by
  unfold redirectTo
  cases Location.canonical url with
  | ok location => exact handled_pure nofun
  | error e => exact handled_fail _

theorem handled_resolveAll (r : Registry) (db : Database) (entries : List Json)
    (handles : List String) : Handled (resolveAll r db entries handles) := by
  induction handles generalizing entries with
  | nil => exact handled_pure nofun
  | cons handle rest ih =>
      unfold resolveAll
      refine handled_answer (r.fromRegistry_resolveUrl db _) fun url => ?_
      cases url with
      | some url => exact ih _
      | none => exact ih _

theorem handled_respond (r : Registry) (db : Database) (t : Target) (route : Route) :
    Handled (respond r db t route) := by
  cases route with
  | redirect handle =>
      refine handled_answer (r.fromRegistry_resolveUrl db _) fun url => ?_
      cases url with
      | some url => exact handled_redirectTo url
      | none => exact handled_pure nofun
  | alive => exact handled_pure nofun
  | ready =>
      simp only [respond]
      cases db.ping with
      | ok _ => exact handled_pure nofun
      | error e =>
          refine ⟨nofun, ?_, nofun⟩
          rintro _ ⟨⟩
          rfl
  | resolve => exact handled_resolveAll r db [] _
  | listing =>
      simp only [respond]
      cases (t.values "prefix").head? with
      | none => exact handled_pure nofun
      | some start =>
          exact handled_answer (Registry.fromRegistry_handlesWith db _) fun _ =>
            handled_pure nofun

/-- Without a route, and for a method that no route answers, nothing is told. -/
theorem handled_dispatch (site : Site) (db : Database) (method : String) (t : Target) :
    Handled (dispatch site db method t).2 := by
  unfold dispatch Service.dispatch
  split
  · exact handled_pure nofun
  · split
    · exact handled_respond _ _ _ _
    · exact handled_pure nofun

/-! ### The end of a request -/

/-- The method and the target of a request that reaches the service: its line can be read, and it
names a target. -/
def received? (method target : String) : Option (String × Target) :=
  match RequestLine.read (RequestLine.octets method target) with
  | .error _ => none
  | .ok line => (Target.ofLine? line).map fun t => (line.method, t)

theorem serve_of_received {method target verb : String} {t : Target}
    (h : received? method target = some (verb, t)) (site : Site) (db : Database) :
    serve site db method target =
      (sent verb (dispatch site db verb t).2.result,
        (dispatch site db verb t).2.events ++
          account (dispatch site db verb t).1 verb (dispatch site db verb t).2.result) := by
  unfold received? at h
  unfold serve Service.serve
  cases hread : RequestLine.read (RequestLine.octets method target) with
  | error misread => simp [hread] at h
  | ok line =>
      simp only [hread, Option.map_eq_some_iff, Prod.mk.injEq] at h
      obtain ⟨_, htarget, rfl, rfl⟩ := h
      simp only [hread, htarget]
      rfl

/-- What does not reach the service is refused in one way, whatever there is to find. -/
theorem refused_of_not_received {method target : String} (h : received? method target = none) :
    ∃ body, ∀ site db, serve site db method target = (.plain 400 body, []) := by
  unfold received? at h
  unfold serve Service.serve
  cases hread : RequestLine.read (RequestLine.octets method target) with
  | error misread => exact ⟨_, fun _ _ => by simp only [hread]; rfl⟩
  | ok line =>
      simp only [hread, Option.map_eq_none_iff] at h
      exact ⟨_, fun _ _ => by simp only [hread, h]; rfl⟩

theorem serve_of_not_received {method target : String} (h : received? method target = none)
    (site : Site) (db : Database) :
    (serve site db method target).1.status = 400 ∧ (serve site db method target).2 = [] := by
  obtain ⟨body, hserve⟩ := refused_of_not_received h
  rw [hserve]
  exact ⟨rfl, rfl⟩

/-- The measurements at the end of a request: a timer and a counter, with the status of the
response. A fault is counted before them, and the status is zero then. -/
def lastMetrics (path method : String) (fault : Option Fault) (status : Nat) : List Metric :=
  let tags := [("path", TagValue.text path), ("method", .text method)]
  let closing (status : Nat) : List Metric :=
    [ .timer "handle.server.request.time" tags,
      .increment "handle.server.request.count" (tags ++ [("status", .number status)]) ]
  match fault with
  | none => closing status
  | some fault =>
    .increment "handle.server.request.exception" (("exception", .text fault.label) :: tags) ::
      closing 0

/-- A request is accounted for, if this is told of it with its response. `path` and `method` are the
tags of its measurements, and `fault` is what went wrong unexpectedly, if anything did. -/
structure Accounted (path method : String) (fault : Option Fault)
    (served : Response × List Event) : Prop where
  /-- Behind counters of the registry come the measurements at the end, and no others. -/
  measured : ∃ counters, (∀ m ∈ counters, m.isOfRegistry = true) ∧
    Event.metrics served.2 = counters ++ lastMetrics path method fault served.1.status
  /-- A fault is the server's, and it is what is reported. -/
  unexpected : ∀ f, fault = some f → served.1.status = 500 ∧ Event.reports served.2 = [f.label]
  /-- One thing is reported if the server is to blame, and nothing otherwise. -/
  reported : (Event.reports served.2).length = if served.1.status = 500 then 1 else 0

/-- What is told by an outcome and at the end of its request accounts for the request. -/
theorem accounted_of_handled {o : Outcome Fault Response} (h : Handled o) (path method : String) :
    Accounted path method o.error?
      (sent method o.result, o.events ++ account path method o.result) := by
  obtain ⟨hmetrics, hanswered, hfailed⟩ := h
  cases ho : o.result with
  | ok response =>
      have hstatus := status_sent_ok method response
      have hreports : Event.reports (o.events ++ account path method (.ok response)) =
          Event.reports o.events := by
        rw [Event.reports_append]
        exact List.append_nil _
      simp only [Outcome.error?, ho]
      refine ⟨⟨Event.metrics o.events, hmetrics, ?_⟩, ?_, ?_⟩
      · rw [Event.metrics_append, hstatus]
        rfl
      · rintro _ ⟨⟩
      · rw [hreports, hstatus]
        exact hanswered response ho
  | error fault =>
      have hstatus := status_sent_error method fault
      have hreports : Event.reports (o.events ++ account path method (.error fault)) =
          [fault.label] := by
        rw [Event.reports_append, hfailed fault ho]
        rfl
      simp only [Outcome.error?, ho]
      refine ⟨⟨Event.metrics o.events, hmetrics, ?_⟩, ?_, ?_⟩
      · rw [Event.metrics_append]
        rfl
      · rintro _ ⟨⟩
        exact ⟨hstatus, hreports⟩
      · rw [hreports, hstatus]
        rfl

/-- **Every request is accounted for once**, whatever the settings and the state, once its line was
read. Its path and its method are the tags of one timer and of one counter behind it, which are the
last to be measured. Before them only the registry counts. The counter has the status of the
response. Where the route, or whatever stands in its place, ends with a fault, the response blames
the server, the status that is counted is zero, and the fault was counted by its name before. One
thing is reported for a response with status 500, and none for any other one.

A line that cannot be read is refused before all this. It is neither measured nor reported. -/
theorem request_accounted (site : Site) (db : Database) (method target : String) :
    (∀ verb t, received? method target = some (verb, t) →
      Accounted (dispatch site db verb t).1 verb (dispatch site db verb t).2.error?
        (serve site db method target)) ∧
    (received? method target = none →
      (serve site db method target).1.status = 400 ∧ (serve site db method target).2 = []) := by
  constructor
  · intro verb t h
    rw [serve_of_received h]
    exact accounted_of_handled (handled_dispatch site db verb t) _ verb
  · intro h
    exact serve_of_not_received h site db

/-- A handle whose address is no URL, so that a fault is counted and reported. A corrupt row, which
is reported as the failure that it is, and not a second time. A path that nobody answers. -/
theorem request_accounted_in_three_ways :
    let site : Site := ⟨.missing, .text "http://[bad", .text "none", false⟩
    let rows : RecordTable :=
      ⟨[⟨1, "a", some 2, some 7⟩, ⟨2, "c", none, some 7⟩], by decide, by decide⟩
    let db : Database := { Database.empty with session := ⟨rows, [7]⟩ }
    let faulty := serve site db "GET" "/handle/a"
    let corrupt := serve site db "GET" "/internal/api/resolve?handle=c&handle=a"
    let lost := serve site db "HEAD" "/nowhere"
    (faulty.1.status = 500 ∧ Event.reports faulty.2 = ["ValueError"] ∧
      Accounted (Route.redirect "a").pattern "GET" (some (.address .malformed)) faulty) ∧
    (corrupt.1.status = 500 ∧ Accounted Route.resolve.pattern "GET" none corrupt) ∧
    (lost.1.status = 404 ∧ Accounted "/nowhere" "HEAD" none lost) := by
  intro site rows db faulty corrupt lost
  let followed : Target := ⟨"/handle/a".toList, []⟩
  let batched : Target := ⟨"/internal/api/resolve".toList, [("handle", "c"), ("handle", "a")]⟩
  let astray : Target := ⟨"/nowhere".toList, []⟩
  have hfaulty := (request_accounted site db "GET" "/handle/a").1 "GET" followed
    (by decide +kernel)
  have hcorrupt := (request_accounted site db "GET" "/internal/api/resolve?handle=c&handle=a").1
    "GET" batched (by decide +kernel)
  have hlost := (request_accounted site db "HEAD" "/nowhere").1 "HEAD" astray (by decide +kernel)
  have hfollowed : (dispatch site db "GET" followed).1 = (Route.redirect "a").pattern ∧
      (dispatch site db "GET" followed).2.error? = some (.address .malformed) := by
    decide +kernel
  have hbatched : (dispatch site db "GET" batched).1 = Route.resolve.pattern ∧
      (dispatch site db "GET" batched).2.error? = none := by decide +kernel
  have hastray : (dispatch site db "HEAD" astray).1 = "/nowhere" ∧
      (dispatch site db "HEAD" astray).2.error? = none := by decide +kernel
  rw [hfollowed.1, hfollowed.2] at hfaulty
  rw [hbatched.1, hbatched.2] at hcorrupt
  rw [hastray.1, hastray.2] at hlost
  obtain ⟨hstatus, hreports⟩ := hfaulty.unexpected _ rfl
  exact ⟨⟨hstatus, hreports, hfaulty⟩, ⟨by decide +kernel, hcorrupt⟩, ⟨by decide +kernel, hlost⟩⟩

/-- A method that no protocol has is no start of a line, so nothing is told of the request, not even
its time. -/
theorem unread_line_not_accounted :
    let site : Site := ⟨.missing, .missing, .text "none", false⟩
    let served := serve site .empty "Head" "/internal/alive"
    served.1.status = 400 ∧ ¬ ∃ path method fault, Accounted path method fault served := by
  intro site served
  have hunread : received? "Head" "/internal/alive" = none := by decide +kernel
  obtain ⟨hstatus, hevents⟩ := serve_of_not_received hunread site .empty
  refine ⟨hstatus, ?_⟩
  rintro ⟨path, method, fault, ⟨counters, -, hmetrics⟩, -, -⟩
  rw [hevents] at hmetrics
  have hnone := List.append_eq_nil_iff.1 hmetrics.symm
  cases fault <;> cases hnone.2

end Http

end PersistentId
