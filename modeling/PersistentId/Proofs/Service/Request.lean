import Mathlib
import PersistentId.Http.Service

/-!
# PersistentId.Proofs.Service.Request

Requests, taken apart.

What a request asks for can be told from its text alone (`Http.asked?`): a method, a target and
a route that answers the method. Only such a request gets as far as the settings and the
database. It is answered by its route (`Http.respond`), and what is sent and measured follows
from what the route gives. All others are refused alike, whatever there is to find.
-/

namespace PersistentId

namespace Http

/-- What a request asks for. -/
structure Asked where
  method : String
  target : Target
  route : Route
  deriving DecidableEq, Repr

/-- What a request asks for, if its line can be read, its target has a route, and the route
answers its method. -/
def asked? (method target : String) : Option Asked :=
  match RequestLine.read (RequestLine.octets method target) with
  | .error _ => none
  | .ok line =>
    match Target.ofLine? line with
    | none => none
    | some t =>
      match Route.ofTarget? t with
      | none => none
      | some route =>
        if Route.methods.contains line.method then some ⟨line.method, t, route⟩ else none

/-- What is sent for the result of a route. -/
def sent (method : String) (result : Except Fault Response) : Response :=
  let response := match result with
    | .ok response => response
    | .error _ => .serverError
  if method = "HEAD" then response.withoutBody else response

@[simp] theorem status_sent_ok (method : String) (response : Response) :
    (sent method (.ok response)).status = response.status := by
  unfold sent
  by_cases h : method = "HEAD" <;> simp [h]

@[simp] theorem status_sent_error (method : String) (fault : Fault) :
    (sent method (.error fault)).status = 500 := by
  unfold sent
  by_cases h : method = "HEAD" <;> simp [h] <;> rfl

/-- What is sent for the outcome of the route that a request asks for, and all that is told on
the way. -/
def close (a : Asked) (o : Outcome Fault Response) : Response × List Event :=
  (sent a.method o.result, o.events ++ account a.route.pattern a.method o.result)

/-- A request is answered by the route that it asks for, on the registry of the service. -/
theorem Service.serve_of_asked {method target : String} {a : Asked}
    (h : asked? method target = some a) (s : Service) (db : Database) :
    s.serve db method target = close a (respond s.registry db a.target a.route) := by
  unfold asked? at h
  unfold serve
  cases hread : RequestLine.read (RequestLine.octets method target) with
  | error misread => simp [hread] at h
  | ok line =>
      cases htarget : Target.ofLine? line with
      | none => simp [hread, htarget] at h
      | some t =>
          cases hroute : Route.ofTarget? t with
          | none => simp [hread, htarget, hroute] at h
          | some route =>
              simp only [hread, htarget, hroute, Option.ite_none_right_eq_some,
                Option.some.injEq] at h
              obtain ⟨hmethod, rfl⟩ := h
              simp only [hread, htarget, serveTarget, dispatch, hroute, hmethod, if_true]
              rfl

/-- A request that asks for nothing is refused: before it is accounted for, where it is no request,
and otherwise with an answer that no route gives. -/
theorem Service.refused_of_not_asked {method target : String} (h : asked? method target = none) :
    (∃ response, ∀ (s : Service) db, s.serve db method target = (response, [])) ∨
    ∃ verb path response, ∀ (s : Service) db, s.serve db method target =
      (sent verb (.ok response), account path verb (.ok response)) := by
  unfold asked? at h
  unfold serve
  cases hread : RequestLine.read (RequestLine.octets method target) with
  | error misread => exact .inl ⟨_, fun _ _ => by simp only [hread]; rfl⟩
  | ok line =>
      cases htarget : Target.ofLine? line with
      | none => exact .inl ⟨_, fun _ _ => by simp only [hread, htarget]; rfl⟩
      | some t =>
          refine .inr ⟨line.method, t.displayPath, ?_⟩
          cases hroute : Route.ofTarget? t with
          | none =>
              refine ⟨.notFound, fun _ _ => ?_⟩
              simp only [hread, htarget, serveTarget, dispatch, hroute]
              rfl
          | some route =>
              simp only [hread, htarget, hroute, ite_eq_right_iff, reduceCtorEq, imp_false] at h
              refine ⟨.methodNotAllowed, fun _ _ => ?_⟩
              simp only [hread, htarget, serveTarget, dispatch, hroute, if_neg h]
              rfl

/-- So it is refused by every service alike, without a look at the database. -/
theorem Service.serve_of_not_asked {method target : String} (h : asked? method target = none)
    (s s' : Service) (db db' : Database) :
    s.serve db method target = s'.serve db' method target := by
  rcases refused_of_not_asked h with ⟨response, hserve⟩ | ⟨verb, path, response, hserve⟩
  · rw [hserve s db, hserve s' db']
  · rw [hserve s db, hserve s' db']

/-! ### A service that was just started -/

theorem serve_of_asked {method target : String} {a : Asked} (h : asked? method target = some a)
    (site : Site) (db : Database) :
    serve site db method target = close a (respond (registryOf site) db a.target a.route) :=
  Service.serve_of_asked h (.start site) db

theorem refused_of_not_asked {method target : String} (h : asked? method target = none) :
    (∃ response, ∀ site db, serve site db method target = (response, [])) ∨
    ∃ verb path response, ∀ site db, serve site db method target =
      (sent verb (.ok response), account path verb (.ok response)) := by
  rcases Service.refused_of_not_asked h with ⟨response, hserve⟩ | ⟨verb, path, response, hserve⟩
  · exact .inl ⟨response, fun site db => hserve (.start site) db⟩
  · exact .inr ⟨verb, path, response, fun site db => hserve (.start site) db⟩

theorem serve_of_not_asked {method target : String} (h : asked? method target = none)
    (site site' : Site) (db db' : Database) :
    serve site db method target = serve site' db' method target :=
  Service.serve_of_not_asked h (.start site) (.start site') db db'

end Http

end PersistentId
