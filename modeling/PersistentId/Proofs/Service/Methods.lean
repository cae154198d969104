import Mathlib
import PersistentId.Proofs.Run.Outage
import PersistentId.Proofs.Service.Accounting
import PersistentId.Proofs.Service.RequestLine

/-!
# PersistentId.Proofs.Service.Methods

**Requests only read, and only two methods read anything.**

A request never changes the database. Its method decides who answers it, as `add_routes` says.
`GET` and `HEAD` are answered by the route of the target, and the answers differ in the body and
in the tag that measurements have for the method. With any other method the answer is a matter of
the target alone, and neither settings nor database are looked at.

All this is said of requests that reach the service (`Http.received?`). Whether one does depends on
its line, and so on its method again: a method that no protocol knows does not, and neither does
a star with another method than `OPTIONS`. Where the target is an address, the methods of the
hypertext protocol ask for the same (`Http.received?_congr`), apart from `CONNECT`, which asks for
none.
-/

namespace PersistentId

/-- A measurement without its tags of a given name. -/
def Metric.withoutTag (name : String) : Metric → Metric
  | .increment counter tags => .increment counter (tags.filter (·.1 != name))
  | .timer clock tags => .timer clock (tags.filter (·.1 != name))

/-- The target of a line does not depend on its method, unless it is a tunnel or a question about
the service as a whole. -/
theorem Target.ofLine?_congr {line : RequestLine} {t : Target} (h : ofLine? line = some t)
    (hconnect : line.method ≠ "CONNECT") (hstar : line.method = "OPTIONS" → t ≠ ⟨['*'], []⟩)
    {method : String} (hmethod : method ≠ "CONNECT") :
    ofLine? ⟨method, line.target⟩ = some t := by
  unfold ofLine? at h ⊢
  rw [if_neg hconnect] at h
  rw [if_neg hmethod]
  by_cases hpath : line.target.head? = some '/'
  · rw [if_pos hpath] at h ⊢
    exact h
  · rw [if_neg hpath] at h ⊢
    by_cases hchars : line.target = ['*']
    · -- A star is the target of no other method, and that of `OPTIONS` was ruled out.
      by_cases hoptions : line.method = "OPTIONS"
      · rw [if_pos ⟨hoptions, hchars⟩] at h
        exact absurd (Option.some.inj h).symm (hstar hoptions)
      · rw [if_neg fun hboth => hoptions hboth.1, hchars] at h
        cases h
    · rw [if_neg fun hboth => hchars hboth.2] at h ⊢
      exact h

namespace Http

/-! ### Requests that reach the service -/

/-- What is asked for is what reaches the service, if it has a route that answers its method. -/
theorem asked?_eq_some {method target : String} {a : Asked} :
    asked? method target = some a ↔
      received? method target = some (a.method, a.target) ∧
        Route.ofTarget? a.target = some a.route ∧ a.method ∈ Route.methods := by
  unfold asked? received?
  cases hread : RequestLine.read (RequestLine.octets method target) with
  | error misread => simp
  | ok line =>
      cases htarget : Target.ofLine? line with
      | none => simp [htarget]
      | some t =>
          obtain ⟨verb, u, route⟩ := a
          cases hroute : Route.ofTarget? t with
          | none =>
              simp only [htarget, hroute, Option.map_some, Option.some.injEq, Prod.mk.injEq]
              refine iff_of_false nofun ?_
              rintro ⟨⟨-, rfl⟩, hroute', -⟩
              rw [hroute] at hroute'
              cases hroute'
          | some route' =>
              simp only [htarget, hroute, Option.map_some, Option.ite_none_right_eq_some,
                List.contains_iff_mem, Option.some.injEq, Asked.mk.injEq, Prod.mk.injEq]
              constructor
              · rintro ⟨hmethod, rfl, rfl, rfl⟩
                exact ⟨⟨rfl, rfl⟩, hroute, hmethod⟩
              · rintro ⟨⟨rfl, rfl⟩, hroute', hmethod⟩
                rw [hroute] at hroute'
                exact ⟨hmethod, rfl, rfl, Option.some.inj hroute'⟩

/-- A request that reaches the service has the method it was sent with. -/
theorem method_of_received {method target verb : String} {t : Target}
    (hmethod : method ∈ RequestLine.httpMethods)
    (h : received? method target = some (verb, t)) : verb = method := by
  unfold received? at h
  cases hread : RequestLine.read (RequestLine.octets method target) with
  | error misread => simp [hread] at h
  | ok line =>
      simp only [hread, Option.map_eq_some_iff, Prod.mk.injEq] at h
      obtain ⟨-, -, rfl, -⟩ := h
      exact RequestLine.method_of_read hmethod hread

/-- What reaches the service with one method does so with another one. -/
theorem received?_congr {method method' target verb : String} {t : Target}
    (hmethod : method ∈ RequestLine.httpMethods) (hmethod' : method' ∈ RequestLine.httpMethods)
    (hconnect : method ≠ "CONNECT") (hconnect' : method' ≠ "CONNECT")
    (hreturn : '\r' ∉ target.toList) (hstar : method = "OPTIONS" → t ≠ ⟨['*'], []⟩)
    (h : received? method target = some (verb, t)) :
    received? method' target = some (method', t) := by
  unfold received? at h ⊢
  cases hread : RequestLine.read (RequestLine.octets method target) with
  | error misread => simp [hread] at h
  | ok line =>
      have hline := RequestLine.method_of_read hmethod hread
      simp only [hread, Option.map_eq_some_iff, Prod.mk.injEq] at h
      obtain ⟨_, htarget, -, rfl⟩ := h
      rw [RequestLine.read_congr hmethod hmethod' hconnect hconnect' hreturn hread]
      simp only [Target.ofLine?_congr htarget (hline ▸ hconnect) (hline ▸ hstar) hconnect',
        Option.map_some]

/-- What does not reach it with one method does not with another one. -/
theorem received?_eq_none_congr {method method' target : String}
    (hmethod : method ∈ RequestLine.httpMethods) (hmethod' : method' ∈ RequestLine.httpMethods)
    (hconnect : method ≠ "CONNECT") (hconnect' : method' ≠ "CONNECT")
    (hreturn : '\r' ∉ target.toList) (hoptions' : method' ≠ "OPTIONS")
    (h : received? method target = none) : received? method' target = none := by
  refine Option.eq_none_iff_forall_ne_some.2 fun received hreceived => ?_
  have hback := received?_congr hmethod' hmethod hconnect' hconnect hreturn
    (fun heq => absurd heq hoptions') hreceived
  rw [h] at hback
  cases hback

/-! ### The two methods that are answered -/

/-- **The answer to `HEAD` is the one to `GET`**, as far as it can be told without a body. -/
theorem head_mirrors_get {target : String} (hreturn : '\r' ∉ target.toList) (site : Site)
    (db : Database) :
    let head := serve site db "HEAD" target
    let get := serve site db "GET" target
    head.1.withoutBody = get.1.withoutBody ∧
    Event.logs head.2 = Event.logs get.2 ∧
    Event.reports head.2 = Event.reports get.2 ∧
    (Event.metrics head.2).map (·.withoutTag "method") =
      (Event.metrics get.2).map (·.withoutTag "method") := by
  intro head get
  have hget : "GET" ∈ RequestLine.httpMethods := by decide
  have hhead : "HEAD" ∈ RequestLine.httpMethods := by decide
  have hconnect : "GET" ≠ "CONNECT" := by decide
  have hconnect' : "HEAD" ≠ "CONNECT" := by decide
  have hoptions : "GET" ≠ "OPTIONS" := by decide
  have hoptions' : "HEAD" ≠ "OPTIONS" := by decide
  cases hreceived : received? "GET" target with
  | none =>
      have hreceived' :=
        received?_eq_none_congr hget hhead hconnect hconnect' hreturn hoptions' hreceived
      obtain ⟨body, hserve⟩ := refused_of_not_received hreceived
      obtain ⟨body', hserve'⟩ := refused_of_not_received hreceived'
      rw [show head = _ from hserve' site db, show get = _ from hserve site db]
      exact ⟨rfl, rfl, rfl, rfl⟩
  | some received =>
      obtain ⟨verb, t⟩ := received
      obtain rfl := method_of_received hget hreceived
      have hreceived' :=
        received?_congr hget hhead hconnect hconnect' hreturn (fun heq => absurd heq hoptions)
          hreceived
      -- The route does not see which of the two methods it was asked with.
      have hdispatch : dispatch site db "HEAD" t = dispatch site db "GET" t := rfl
      rw [show head = _ from serve_of_received hreceived' site db,
        show get = _ from serve_of_received hreceived site db, hdispatch]
      generalize dispatch site db "GET" t = dispatched
      obtain ⟨path, result, events⟩ := dispatched
      refine ⟨rfl, ?_, ?_, ?_⟩
      · simp only [Event.logs_append]
        cases result <;> rfl
      · simp only [Event.reports_append]
        cases result <;> rfl
      · simp only [Event.metrics_append, List.map_append]
        cases result <;> rfl

/-! ### All other methods -/

/-- What is measured at the end of a request that met with no fault. -/
def measured (path method : String) (status : Nat) : List Event :=
  (lastMetrics path method none status).map .metric

/-- **Any other method** is answered by its target alone. -/
theorem serve_of_other_method {method target verb : String} {t : Target}
    (h : received? method target = some (verb, t)) (hverb : verb ∉ Route.methods) (site : Site)
    (db : Database) :
    serve site db method target =
      if Route.ofTarget? t = none then (.notFound, measured t.displayPath verb 404)
      else (.methodNotAllowed, measured t.displayPath verb 405) := by
  have hsent : ∀ response, sent verb (.ok response) = response := by
    intro response
    refine if_neg ?_
    rintro rfl
    exact hverb (by decide)
  rw [serve_of_received h, dispatch, Service.dispatch]
  cases hroute : Route.ofTarget? t with
  | none =>
      rw [if_pos rfl]
      exact Prod.ext (hsent .notFound) rfl
  | some route =>
      rw [if_neg (Option.some_ne_none route)]
      simp only [List.contains_iff_mem, hverb, if_false]
      exact Prod.ext (hsent .methodNotAllowed) rfl

/-- A tunnel asks for no path. -/
theorem target_of_connect {target verb : String} {t : Target}
    (h : received? "CONNECT" target = some (verb, t)) : t = ⟨[], []⟩ := by
  unfold received? at h
  cases hread : RequestLine.read (RequestLine.octets "CONNECT" target) with
  | error misread => simp [hread] at h
  | ok line =>
      have hline := RequestLine.method_of_read (by decide) hread
      simp only [hread, Option.map_eq_some_iff, Prod.mk.injEq] at h
      obtain ⟨u, htarget, -, rfl⟩ := h
      rw [Target.ofLine?, if_pos hline] at htarget
      exact (Option.some.inj htarget).symm

/-- So it asks for no route. -/
theorem serve_connect {target verb : String} {t : Target}
    (h : received? "CONNECT" target = some (verb, t)) (site : Site) (db : Database) :
    serve site db "CONNECT" target = (.notFound, measured "" "CONNECT" 404) := by
  have hnowhere : Route.ofTarget? ⟨[], []⟩ = none := by decide +kernel
  obtain rfl := method_of_received (by decide) h
  obtain rfl := target_of_connect h
  have hpath : Target.displayPath ⟨[], []⟩ = "" := by decide +kernel
  rw [serve_of_other_method h (by decide), if_pos hnowhere, hpath]

section Other

variable {method target : String} (hmethod : method ∈ RequestLine.httpMethods)
  (hconnect : method ≠ "CONNECT") (hother : method ∉ Route.methods)
  (hreturn : '\r' ∉ target.toList)
include hmethod hconnect hother hreturn

/-- Where `GET` has a route, the other methods are not allowed. -/
theorem serve_of_asked_by_get {a : Asked} (h : asked? "GET" target = some a) (site : Site)
    (db : Database) :
    serve site db method target =
      (.methodNotAllowed, measured a.target.displayPath method 405) := by
  obtain ⟨hreceived, hroute, -⟩ := asked?_eq_some.1 h
  have hreceived' := received?_congr (by decide) hmethod (by decide) hconnect hreturn
    (fun hoptions => absurd hoptions (by decide)) hreceived
  rw [serve_of_other_method hreceived' hother, hroute, if_neg (Option.some_ne_none a.route)]

/-- Where it has none, nor have they. -/
theorem serve_of_not_asked_by_get (h : asked? "GET" target = none) {verb : String} {t : Target}
    (hreceived : received? method target = some (verb, t)) (site : Site) (db : Database) :
    serve site db method target = (.notFound, measured t.displayPath method 404) := by
  obtain rfl := method_of_received hmethod hreceived
  have hroute : Route.ofTarget? t = none := by
    refine Option.eq_none_iff_forall_ne_some.2 fun route hroute => ?_
    have hnowhere : Route.ofTarget? ⟨['*'], []⟩ = none := by decide +kernel
    have hstar : t ≠ ⟨['*'], []⟩ := by
      rintro rfl
      rw [hnowhere] at hroute
      cases hroute
    have hget : received? "GET" target = some ("GET", t) :=
      received?_congr hmethod (by decide) hconnect (by decide) hreturn (fun _ => hstar) hreceived
    have hasked : asked? "GET" target = some ⟨"GET", t, route⟩ :=
      asked?_eq_some.2 ⟨hget, hroute, List.mem_cons_of_mem _ List.mem_cons_self⟩
    rw [h] at hasked
    cases hasked
  rw [serve_of_other_method hreceived hother, if_pos hroute]

end Other

end Http

namespace World

open Http

end World

end PersistentId
