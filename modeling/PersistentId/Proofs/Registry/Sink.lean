import Mathlib
import PersistentId.Registry

/-!
# PersistentId.Proofs.Registry.Sink

The counters of the registry, and what becomes of an operation without them.

All counters of the registry have names of one root, `handle.registry`, so they can be told from
everything else an operation tells (`Event.isOfRegistry`). A registry without a `MetricsClient`
tells none of them. Otherwise it
does what it does with a sink: the same value or failure, the same database, and the same events in
the same order (`Outcome.muted`).

Leaving the counters out of an operation is leaving them out of its parts (`Outcome.muted_bind`).
So only the counting itself has to be looked at, and every operation follows part by part.
-/

namespace PersistentId

/-- Whether a measurement is a counter of the registry. -/
def Metric.isOfRegistry : Metric → Bool
  | .increment name _ => "handle.registry.".toList.isPrefixOf name.toList
  | .timer _ _ => false

namespace Event

/-- Whether an event is an increment of a counter of the registry. -/
def isOfRegistry : Event → Bool
  | .metric m => m.isOfRegistry
  | _ => false

/-- The counters of the registry among the events, in order. -/
def counters (events : List Event) : List Event := events.filter isOfRegistry

/-- The events without the counters of the registry. -/
def muted (events : List Event) : List Event := events.filter (!·.isOfRegistry)

@[simp] theorem counters_nil : counters [] = [] := rfl
@[simp] theorem muted_nil : muted [] = [] := rfl

@[simp] theorem counters_append (xs ys : List Event) :
    counters (xs ++ ys) = counters xs ++ counters ys := List.filter_append xs ys

@[simp] theorem muted_append (xs ys : List Event) : muted (xs ++ ys) = muted xs ++ muted ys :=
  List.filter_append xs ys

theorem counters_muted (events : List Event) : counters (muted events) = [] := by
  simp [counters, muted, List.filter_filter]

/-- What is read off other events is the same without the counters. -/
theorem filterMap_muted {f : Event → Option α} (h : ∀ e, e.isOfRegistry = true → f e = none)
    (events : List Event) : (muted events).filterMap f = events.filterMap f := by
  unfold muted
  rw [List.filterMap_filter]
  refine List.filterMap_congr fun e _ => ?_
  cases he : e.isOfRegistry with
  | true => rw [h e he]; rfl
  | false => rfl

theorem logs_muted (events : List Event) : logs (muted events) = logs events :=
  filterMap_muted (by rintro (_ | _ | _) h <;> first | rfl | cases h) events

theorem reports_muted (events : List Event) : reports (muted events) = reports events :=
  filterMap_muted (by rintro (_ | _ | _) h <;> first | rfl | cases h) events

theorem metrics_muted (events : List Event) :
    metrics (muted events) = (metrics events).filter (!·.isOfRegistry) := by
  unfold metrics muted
  rw [List.filterMap_filter, List.filter_filterMap]
  refine List.filterMap_congr fun e _ => ?_
  cases e with
  | metric m => cases h : m.isOfRegistry <;> simp [isOfRegistry, Option.filter, h]
  | log | report => rfl

end Event

namespace Outcome

/-- The outcome without the counters of the registry. -/
def muted (o : Outcome ε α) : Outcome ε α := ⟨o.result, Event.muted o.events⟩

@[simp] theorem result_muted (o : Outcome ε α) : o.muted.result = o.result := rfl
@[simp] theorem events_muted (o : Outcome ε α) : o.muted.events = Event.muted o.events := rfl
@[simp] theorem muted_pure (a : α) : (pure a : Outcome ε α).muted = pure a := rfl
@[simp] theorem muted_ofExcept (r : Except ε α) : (ofExcept r).muted = ofExcept r := rfl
@[simp] theorem muted_mapError (f : ε → δ) (o : Outcome ε α) :
    (o.mapError f).muted = o.muted.mapError f := rfl

/-- An operation that is what it is without the counters has none. -/
theorem counters_of_muted {o : Outcome ε α} (h : o.muted = o) : Event.counters o.events = [] := by
  rw [← h]
  exact Event.counters_muted o.events

/-- An operation without the counters is made of its parts without theirs. -/
@[simp] theorem muted_bind (o : Outcome ε α) (f : α → Outcome ε β) :
    (o >>= f).muted = o.muted >>= fun a => (f a).muted := by
  cases ho : o.result with
  | error e => rw [bind_of_error ho, bind_of_error (o := o.muted) ho]; rfl
  | ok a =>
      rw [bind_of_ok ho, bind_of_ok (o := o.muted) ho]
      exact ext rfl (Event.muted_append _ _)

end Outcome

namespace Registry

/-- The registry without a sink for counters. -/
def unmeasured (r : Registry) : Registry := { r with measured := false }

@[simp] theorem muted_debug (text : String) : (debug text).muted = debug text := rfl

@[simp] theorem muted_execute (r : Except StoreError α) : (execute r).muted = execute r := rfl

/-- Without a sink nothing is counted. -/
theorem count_unmeasured (r : Registry) {counter : String} (tag value : String)
    (h : "handle.registry.".toList.isPrefixOf counter.toList = true) :
    r.unmeasured.count counter tag value = (r.count counter tag value).muted := by
  have hcounter : (Event.metric (.increment counter [(tag, .text value)])).isOfRegistry = true := h
  unfold count
  cases hmeasured : r.measured with
  | false => simp [unmeasured, Outcome.muted, Outcome.tell]
  | true => simp [unmeasured, Outcome.muted, Outcome.tell, Event.muted, hcounter]

theorem findRecord_unmeasured (r : Registry) (db : Database) (handle : Option String) :
    r.unmeasured.findRecord db handle = (r.findRecord db handle).muted := by
  unfold findRecord
  cases present? handle with
  | none => rfl
  | some text =>
      simp (disch := decide) only [Outcome.muted_bind, muted_execute, Outcome.muted_pure,
        count_unmeasured]

theorem resolveUrl_unmeasured (r : Registry) (db : Database) (handle : Option String) :
    r.unmeasured.resolveUrl db handle = (r.resolveUrl db handle).muted := by
  unfold resolveUrl
  rw [findRecord_unmeasured, Outcome.muted_bind]
  congr 1
  funext found
  cases found with
  | none => rfl
  | some record =>
      simp only [Outcome.muted_bind, Outcome.muted_mapError, Outcome.muted_ofExcept, muted_debug,
        Outcome.muted_pure]
      rfl

theorem resolveObject_unmeasured (r : Registry) (db : Database) (handle : Option String) :
    r.unmeasured.resolveObject db handle = (r.resolveObject db handle).muted := by
  unfold resolveObject
  rw [findRecord_unmeasured, Outcome.muted_bind]
  congr 1
  funext found
  cases found with
  | none => rfl
  | some record =>
      have hdispatch : r.unmeasured.dispatch record = r.dispatch record := rfl
      simp only [Outcome.muted_bind, Outcome.muted_mapError, Outcome.muted_ofExcept, hdispatch]
      congr 1
      funext chosen
      cases chosen.1.find db.session.items chosen.2 with
      | some object =>
          simp only [Option.isNone_some, Bool.false_eq_true, if_false, Outcome.muted_bind,
            muted_debug, Outcome.muted_pure]
      | none =>
          simp (disch := decide) only [Option.isNone_none, if_true, Outcome.muted_bind, muted_debug,
            Outcome.muted_pure, count_unmeasured]

/-- Looking for the handle of an object counts nothing. -/
theorem muted_findHandle (r : Registry) (db : Database) (object : Resource) :
    (r.findHandle db object).muted = r.findHandle db object := by
  unfold findHandle
  cases r.table.identify? object <;> rfl

/-- Nor does listing handles. -/
theorem muted_handlesWith (db : Database) (start : Option String) :
    (handlesWith db start).muted = handlesWith db start := by
  cases start <;> rfl

theorem createHandle_unmeasured (r : Registry) (site : LiveValue) (db : Database)
    (object : Resource) :
    r.unmeasured.createHandle site db object =
      ((r.createHandle site db object).1, (r.createHandle site db object).2.muted) := by
  have hmintable : r.unmeasured.mintable site object = r.mintable site object := rfl
  unfold createHandle
  rw [hmintable]
  cases r.mintable site object with
  | error e => rfl
  | ok found =>
      dsimp only
      cases db.allocate with
      | error e => rfl
      | ok drawn =>
          dsimp only
          cases settingText site with
          | error e => rfl
          | ok text =>
              dsimp only
              cases drawn.2.insertRecord _ with
              | error e => rfl
              | ok stored =>
                  simp (disch := decide) only [Outcome.muted_bind, muted_debug, Outcome.muted_pure,
                    count_unmeasured]

end Registry

end PersistentId
