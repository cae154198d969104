import PersistentId.Http.Route
import PersistentId.Logging.Setup
import PersistentId.Service.Measuring
import PersistentId.Settings.Basic

/-!
# PersistentId.Service.Startup

Starting and stopping the service.

The service is started by `start_web_server`, and from the command line by `invoke`. Its
`background_tasks` run around all requests.

The settings are read first. Then errors are reported to the tracker the settings name,
the database is opened, and the client for measurements is made. A backend for measurements
that does not exist ends the start.
-/

namespace PersistentId

namespace Startup

/-- Why the service does not start. -/
inductive StartError
  | settings (problems : List Problem)
  | logging (fault : Logging.Fault)
  /-- There is no such backend for measurements. -/
  | backend (e : Backend.Refusal)

/-- The arguments with which the client for measurements is made. -/
structure ClientRequest where
  backend : String
  host : String
  port : Int
  debug : Bool
  deriving DecidableEq, Repr

/-- What is known of a service that was started and stopped. -/
structure Started where
  /-- The method and the path pattern of every route. -/
  routes : List (String × String)
  settings : Settings
  clients : List ClientRequest
  /-- The trackers errors are reported to. -/
  trackers : List String
  /-- The databases that were opened. -/
  opened : List String

/-- The routes, in the order in which `add_routes` registers them. -/
def routes : List (String × String) :=
  Route.patterns.flatMap fun pattern => Route.methods.map fun method => (method, pattern)

/-- The messages of making a client for measurements. A client that passes measurements on
is made silently here. -/
def clientEvents (site : Site) : Outcome Backend.Refusal Unit :=
  let chosen := Backend.choose site.metricsBackend site.debug
  match chosen.result with
  | .ok .telegraf => pure ()
  | .ok .discard => ⟨.ok (), chosen.events⟩
  | .error e => ⟨.error e, chosen.events⟩

/-- The first messages of `background_tasks`, up to the client for measurements. -/
def opening (site : Site) : Outcome Backend.Refusal Unit := do
  Outcome.tell [.note .info "Starting up"]
  clientEvents site

/-- Starts the service and stops it again, `start_web_server`. -/
def run (source : Settings.Source) : Outcome StartError Started :=
  match Settings.load source with
  | .error problems => .fail (.settings problems)
  | .ok s => do
    Outcome.mapError .backend (opening s.site)
    Outcome.tell [.note .info "Startup complete", .note .info "Shutting down"]
    return { routes := routes
             settings := s
             clients := [⟨s.metricsBackend, s.statsdHost, s.statsdPort, s.debug⟩]
             trackers := s.sentryDsn.toList.filter (!·.isEmpty)
             opened := [s.pgDsn] }

/-- What is known of a service that was called from the command line: the port it listens
on, and the root of its log. -/
structure Listening where
  port : Int
  root : Logging.Root
  deriving DecidableEq, Repr

/-- Sets up the log, reads the settings and listens, `invoke`. -/
def listen (environment : List (String × String)) (loggingFile : Option String) :
    Except StartError Listening :=
  match Logging.setUp environment loggingFile with
  | .error fault => .error (.logging fault)
  | .ok root =>
    match Settings.load ⟨environment, []⟩ with
    | .error problems => .error (.settings problems)
    | .ok s => .ok ⟨s.httpPort, root⟩

end Startup

end PersistentId
