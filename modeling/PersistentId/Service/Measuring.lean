import PersistentId.Json.Basic
import PersistentId.Outcome
import PersistentId.Site
import PersistentId.Text.Lowercase

/-!
# PersistentId.Service.Measuring

Where measurements go.

Design points:

* A site chooses a backend by name, in any case. There are two: one passes measurements on
  to a Telegraf daemon (`TelegrafCompatibilityClient`), the other drops them
  (`NoOpMetricsClient`).
* What is passed on reaches the daemon unchanged, apart from defaults: a counter goes up by
  one, and a measurement without tags has an empty set of them.
* A connection that fails to close is logged and otherwise ignored.
-/

namespace PersistentId

/-- Where measurements go. -/
inductive Backend
  | telegraf
  | discard
  deriving DecidableEq, Repr

namespace Backend

/-- The name a site chooses the backend by. -/
def label : Backend → String
  | telegraf => "telegraf"
  | discard => "none"

/-- The kind of client that serves the backend. -/
def clientLabel : Backend → String
  | telegraf => "TelegrafCompatibilityClient"
  | discard => "NoOpMetricsClient"

/-- The backend of a name in lower case. -/
def ofLabel? (name : String) : Option Backend :=
  [telegraf, discard].find? fun b => b.label == name

/-- Why no backend was chosen. -/
inductive Refusal
  /-- No backend has the name, which is in lower case. -/
  | unknown (name : String)
  /-- The name is no text. -/
  | notText (e : NotText)
  deriving DecidableEq, Repr

/-- The message of a refusal. -/
def Refusal.message : Refusal → String
  | unknown name =>
    "Invalid metrics backend: " ++ name ++ ". Supported backends: 'telegraf', 'none'"
  | notText e => e.message

/-- The name of the kind of a refusal. -/
def Refusal.label : Refusal → String
  | unknown _ => "ValueError"
  | notText _ => NotText.label

/-- Chooses a backend by name, in `create_metrics_client`. -/
def choose (name : LiveValue) (debug : Bool) : Outcome Refusal Backend :=
  match name.asText "lower" with
  | .error e => .fail (.notText e)
  | .ok name =>
    let name := Text.lowercase name
    let started : List Event :=
      if debug then [.note .debug ("Creating metrics client with backend: " ++ name)] else []
    match ofLabel? name with
    | some telegraf => ⟨.ok telegraf, started⟩
    | some discard =>
      ⟨.ok discard, started ++ [.note .info "Metrics collection disabled (no-op client)"]⟩
    | none => ⟨.error (.unknown name), started⟩

end Backend

/-- Something a client is asked to do. Values and tags are passed on as they are. -/
inductive Measurement
  | connect
  | close
  | increment (name : String) (value : Option Json) (tags : Option Json)
  | timer (name : String) (value : Json) (tags : Option Json)

/-- Something the daemon's connection receives. -/
inductive Delivery
  | connect
  | close
  | increment (name : String) (value tags : Json)
  | timer (name : String) (value tags : Json)

namespace Measurement

/-- The tags that are passed on. -/
def tagsOf (tags : Option Json) : Json :=
  match tags with
  | some t => if t.isSomething then t else .object []
  | none => .object []

/-- What the daemon's connection receives. -/
def deliver : Measurement → Delivery
  | connect => .connect
  | close => .close
  | increment name value tags => .increment name (value.getD (.int 1)) (tagsOf tags)
  | timer name value tags => .timer name value (tagsOf tags)

/-- What closing a connection logs, where closing fails with a given text. -/
def warning (failure : Option String) : Measurement → List Event
  | close =>
    match failure with
    | some text => [.note .warning ("Error closing Telegraf client: " ++ text)]
    | none => []
  | _ => []

end Measurement

/-- How the daemon is reached. -/
structure Connection where
  host : Json
  port : Json
  debug : Json

namespace Connection

/-- The daemon on the same machine. -/
def standard : Connection := ⟨.text "localhost", .int 8125, .bool false⟩

/-- The message for an option that does not exist, or is given twice because the name of
the backend is no option. -/
def optionFault (name : String) : String :=
  "create_metrics_client() got " ++
    if name = "backend" then "multiple values for argument 'backend'"
    else "an unexpected keyword argument '" ++ name ++ "'"

/-- The connection that options describe. Options that are not given are as in the standard
connection. Fails with a message. -/
def ofOptions : List (String × Json) → Except String Connection
  | [] => .ok standard
  | (name, value) :: rest => do
    let known (f : Connection → Connection) : Except String Connection :=
      (ofOptions rest).map f
    match name with
    | "host" => known fun c => { c with host := value }
    | "port" => known fun c => { c with port := value }
    | "debug" => known fun c => { c with debug := value }
    | "telegraf_client" => known id
    | _ => .error (optionFault name)

end Connection

/-- What came of measurements. -/
structure Measured where
  backend : Backend
  /-- The connections that were made. -/
  created : List Connection
  /-- What they received. -/
  delivered : List Delivery

/-- Makes a client for a backend and gives it measurements. A ready connection is used
where there is one; `failure` is the text with which closing a connection fails. -/
def measure (backend : LiveValue) (connection : Connection) (ready : Bool)
    (failure : Option String) (measurements : List Measurement) :
    Outcome Backend.Refusal Measured := do
  match ← Backend.choose backend connection.debug.isSomething with
  | .discard => return ⟨.discard, [], []⟩
  | .telegraf =>
    Outcome.tell (measurements.flatMap (·.warning failure))
    return ⟨.telegraf, if ready then [] else [connection], measurements.map (·.deliver)⟩

end PersistentId
