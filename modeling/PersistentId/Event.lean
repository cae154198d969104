/-!
# PersistentId.Event

What an operation reports to the outside while it runs, as a value.

Design points:

* Log entries, measurements and error reports are **returned**, in the order in
  which they happen, never written. An operation that returns no event was
  silent, and two operations can be compared event by event.
* The three channels share one list, so that the order *between* them is kept
  too. `Event.logs`, `Event.metrics` and `Event.reports` select one of them.
* A measurement is a call of `MetricsClient`, `increment` or `timer`.
-/

namespace PersistentId

/-- How grave a log entry is. -/
inductive Level
  | debug
  | info
  | warning
  | error
  deriving DecidableEq, Repr

/-- The word a log shows for a level. -/
def Level.label : Level → String
  | debug => "DEBUG"
  | info => "INFO"
  | warning => "WARNING"
  | error => "ERROR"

/-- One entry of the log. `cause` is the label of the failure it was written
for, if there is one. -/
structure LogEntry where
  level : Level
  text : String
  cause : Option String
  deriving DecidableEq, Repr

/-- The value of one tag of a measurement. -/
inductive TagValue
  | text (s : String)
  | number (n : Nat)
  deriving DecidableEq, Repr

/-- One measurement given to the metrics sink. Durations are not part of the
model: a timer tells what was timed. -/
inductive Metric
  /-- A counter went up by one. -/
  | increment (name : String) (tags : List (String × TagValue))
  /-- A duration was taken. -/
  | timer (name : String) (tags : List (String × TagValue))
  deriving DecidableEq, Repr

/-- Something an operation tells the outside. -/
inductive Event
  | log (entry : LogEntry)
  | metric (m : Metric)
  /-- A failure was handed to the error reporter; `label` names its kind. -/
  | report (label : String)
  deriving DecidableEq, Repr

namespace Event

/-- A log entry without a failure behind it. -/
def note (level : Level) (text : String) : Event := .log ⟨level, text, none⟩

/-- The log entries among the events, in order. -/
def logs (events : List Event) : List LogEntry :=
  events.filterMap fun
    | .log entry => some entry
    | _ => none

/-- The measurements among the events, in order. -/
def metrics (events : List Event) : List Metric :=
  events.filterMap fun
    | .metric m => some m
    | _ => none

/-- The reported failures among the events, in order. -/
def reports (events : List Event) : List String :=
  events.filterMap fun
    | .report label => some label
    | _ => none

@[simp] theorem logs_nil : logs [] = [] := rfl
@[simp] theorem metrics_nil : metrics [] = [] := rfl
@[simp] theorem reports_nil : reports [] = [] := rfl

@[simp] theorem logs_append (xs ys : List Event) : logs (xs ++ ys) = logs xs ++ logs ys := by
  simp [logs]

@[simp] theorem metrics_append (xs ys : List Event) :
    metrics (xs ++ ys) = metrics xs ++ metrics ys := by
  simp [metrics]

@[simp] theorem reports_append (xs ys : List Event) :
    reports (xs ++ ys) = reports xs ++ reports ys := by
  simp [reports]

end Event

end PersistentId
