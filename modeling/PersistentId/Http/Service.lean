import PersistentId.Http.Response
import PersistentId.Http.Route
import PersistentId.Registry
import PersistentId.Site
import PersistentId.Url.Location

/-!
# PersistentId.Http.Service

Answering requests.

Design points:

* A service builds its registry when it starts, in `background_tasks`, and answers every
  request with that one (`Service`). Settings that change afterwards do not reach it.
* A route either has a response or fails unexpectedly (`Fault`). Failures of the
  registry are responses; an outage and an address that is none are faults.
* A request reads the database and never changes it, so answering one gives a response
  and events, no database.
* Every request is accounted for: one timer and one counter at its end, with the status
  of the response, or zero where a fault stood in its place.

The routes are those of `handle_handle_redirect`, `handle_internal_resolve`,
`handle_internal_handles`, `handle_internal_alive` and `handle_internal_ready`, the failures
those of `raise_for_handle_exception`, and the account is that of `sentry_middleware` and
`statsd_middleware`.
-/

namespace PersistentId

namespace Http

/-- A failure nobody expected while a request was answered. -/
inductive Fault
  | store (e : StoreError)
  /-- A setting that has to be a text is none. -/
  | setting (e : NotText)
  /-- The address of an object is no URL. -/
  | address (e : Location.Fault)
  deriving DecidableEq, Repr

/-- The name under which reports and measurements mention the fault. -/
def Fault.label : Fault → String
  | store e => e.label
  | setting _ => NotText.label
  | address .malformed => "ValueError"
  | address .missingHost => "IndexError"
  | address .badName => "UnicodeError"

/-- The events of a registry failure that is the server's own, in `raise_for_handle_exception`. -/
def errorEvents (e : HandleError) : List Event :=
  if e.category.isServerFault then
    [ .note .error ("Handle registry failure: " ++ e.category.label ++ ": " ++ e.message),
      .report e.category.label ]
  else []

/-- The response to a failure of the registry. -/
def refuse (e : HandleError) : Outcome Fault Response := ⟨.ok (.ofError e), errorEvents e⟩

/-- Answers with what becomes of the value of a registry operation. -/
def answer (o : Outcome RegistryError α) (f : α → Outcome Fault Response) :
    Outcome Fault Response :=
  match o.result with
  | .ok a => ⟨(f a).result, o.events ++ (f a).events⟩
  | .error (.handle e) => ⟨(refuse e).result, o.events ++ (refuse e).events⟩
  | .error (.store e) => ⟨.error (.store e), o.events⟩
  | .error (.setting e) => ⟨.error (.setting e), o.events⟩

/-- Sends the client to the address of an object. -/
def redirectTo (url : String) : Outcome Fault Response :=
  match Location.canonical url with
  | .ok location => pure (.found location)
  | .error e => .fail (.address e)

/-- One entry of a batch, a `ResolvedHandle`: a handle, its canonical form, and its address. -/
def entry (handle url : String) : Json :=
  .object [("handle", .text handle), ("canonical_form", .text (Handle.canonical handle)),
    ("url", .text url)]

/-- The entries of the handles that have an address, behind those that were found
before, `handle_internal_resolve`. The first failure ends the batch. -/
def resolveAll (registry : Registry) (db : Database) (entries : List Json) :
    List String → Outcome Fault Response
  | [] => pure (.json (.list entries))
  | handle :: rest =>
    answer (registry.resolveUrl db (some handle)) fun url =>
      match url with
      | some url => resolveAll registry db (entries ++ [entry handle url]) rest
      | none => resolveAll registry db entries rest

/-- The response of a route. -/
def respond (registry : Registry) (db : Database) (t : Target) : Route → Outcome Fault Response
  | .redirect handle =>
    answer (registry.resolveUrl db (some handle)) fun url =>
      match url with
      | some url => redirectTo url
      | none => pure (.unknownHandle handle)
  | .alive => pure (.bare 200)
  | .ready =>
    match db.ping with
    | .ok () => pure (.bare 200)
    | .error e => ⟨.ok (.bare 503), [.log ⟨.error, "Database not ready", some e.label⟩]⟩
  | .resolve => resolveAll registry db [] (t.values "handle")
  | .listing =>
    match (t.values "prefix").head? with
    | none => pure .missingPrefix
    | some start =>
      answer (Registry.handlesWith db (some start)) fun handles =>
        pure (.json (.list (handles.map .text)))

/-- The registry of a service that starts with the given settings: items only, published as
the settings say. -/
def registryOf (site : Site) : Registry := ⟨.items site.itemUrlPrefix, true⟩

/-- The report and the measurements at the end of a request, `sentry_middleware` and
`statsd_middleware`. -/
def account (path method : String) (result : Except Fault Response) : List Event :=
  let tags := [("path", TagValue.text path), ("method", .text method)]
  let unexpected := match result with
    | .ok _ => []
    | .error fault =>
      [ .report fault.label,
        .metric (.increment "handle.server.request.exception"
          (("exception", .text fault.label) :: tags)) ]
  let status := match result with
    | .ok response => response.status
    | .error _ => 0
  unexpected ++
    [ .metric (.timer "handle.server.request.time" tags),
      .metric (.increment "handle.server.request.count" (tags ++ [("status", .number status)])) ]

/-- A service at work. -/
structure Service where
  /-- The registry that was built at the start. -/
  registry : Registry

namespace Service

/-- A service that starts with the given settings. -/
def start (site : Site) : Service := ⟨registryOf site⟩

/-- The outcome of a request: what its route gives, or that it has none. With it goes
the path by which measurements name it. -/
def dispatch (s : Service) (db : Database) (method : String) (t : Target) :
    String × Outcome Fault Response :=
  match Route.ofTarget? t with
  | none => (t.displayPath, pure .notFound)
  | some route =>
    if Route.methods.contains method then (route.pattern, respond s.registry db t route)
    else
      -- A method that is not answered belongs to no route, so the path names the request.
      (t.displayPath, pure .methodNotAllowed)

/-- Answers a request for a target. -/
def serveTarget (s : Service) (db : Database) (method : String) (t : Target) :
    Response × List Event :=
  let (path, outcome) := s.dispatch db method t
  let response := match outcome.result with
    | .ok response => response
    | .error _ => .serverError
  (if method = "HEAD" then response.withoutBody else response,
    outcome.events ++ account path method outcome.result)

/-- Answers one request. What is no request, or asks for no target, is refused before it
is accounted for. -/
def serve (s : Service) (db : Database) (method target : String) : Response × List Event :=
  let octets := RequestLine.octets method target
  match RequestLine.read octets with
  | .error misread => (.plain 400 (misread.message octets), [])
  | .ok line =>
    match Target.ofLine? line with
    | none => (.plain 400 (String.ofList line.target), [])
    | some t => s.serveTarget db line.method t

end Service

/-- The outcome of a request at a service that was just started. -/
def dispatch (site : Site) (db : Database) (method : String) (t : Target) :
    String × Outcome Fault Response :=
  (Service.start site).dispatch db method t

/-- What a service that was just started answers to a request for a target. -/
def serveTarget (site : Site) (db : Database) (method : String) (t : Target) :
    Response × List Event :=
  (Service.start site).serveTarget db method t

/-- What a service that was just started answers to a request. -/
def serve (site : Site) (db : Database) (method target : String) : Response × List Event :=
  (Service.start site).serve db method target

end Http

end PersistentId
