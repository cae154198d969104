import Mathlib
import PersistentId.Proofs.Registry.Sink
import PersistentId.World

/-!
# PersistentId.Proofs.Run.Sink

**Counting changes nothing** but the counters.

Run a site twice through the same steps, once with a sink for the counters of its registry and once
without one. Both runs go through the same worlds, up to the sink (`World.unmeasured`), and a step
answers in the second run as it does in the first one, without the counters (`Step.muted`). Requests
are the exception: the service has a sink of its own and counts in both runs alike.

One step is shown to keep the two worlds together, and the run follows by induction.
-/

namespace PersistentId

theorem Outcome.muted_tell (events : List Event) :
    (tell events : Outcome ε Unit).muted = tell (Event.muted events) := rfl

namespace CommandLine

/-- The lines of handles without a sink. -/
theorem resolveAll_unmeasured (r : Registry) (db : Database) (handles : List String) :
    resolveAll r.unmeasured db handles = (resolveAll r db handles).muted := by
  induction handles with
  | nil => rfl
  | cons handle rest ih =>
      unfold resolveAll
      rw [r.resolveUrl_unmeasured]
      simp only [Outcome.result_muted, Outcome.events_muted]
      cases (r.resolveUrl db (some handle)).result with
      | ok url => simp only [ih, Outcome.muted_bind, Outcome.muted_tell, Outcome.muted_pure]
      | error e =>
          cases e with
          | store e => rfl
          | setting e => rfl
          | handle e =>
              simp only [ih, Outcome.muted_bind, Outcome.muted_tell, Event.muted_append]
              rfl

/-- What needs the database counts nothing where its body does not. -/
theorem muted_runOn (environment : List (String × String))
    {body : Registry → Outcome RunError (List String)}
    (h : ∀ site, (body (registryOf site)).muted = body (registryOf site)) :
    (runOn environment body).muted = runOn environment body := by
  unfold runOn
  cases Settings.load ⟨environment, []⟩ with
  | error problems => rfl
  | ok settings => simp only [Outcome.muted_bind, h, Outcome.muted_pure]

/-- The program has no sink, so it counts nothing. -/
theorem muted_run (db : Database) (environment : List (String × String))
    (arguments : List String) :
    (run db environment arguments).muted = run db environment arguments := by
  unfold run
  cases Request.ofArguments arguments with
  | help text => rfl
  | misuse text => rfl
  | run command =>
      cases command with
      | canonical handles => rfl
      | resolve handles =>
          exact muted_runOn environment fun site =>
            (resolveAll_unmeasured (registryOf site) db handles).symm
      | list start =>
          refine muted_runOn environment fun site => ?_
          cases db.findHandlesWith start <;> rfl

end CommandLine

/-- What is left of the answer to a step without a sink. The service has a sink of its own. -/
def Step.muted : Step → Outcome StepError Answer → Outcome StepError Answer
  | .http _ _, o => o
  | _, o => o.muted

/-- What is left of the measurements of a step. -/
def Step.mutedMetrics : Step → List Metric → List Metric
  | .http _ _, ms => ms
  | _, ms => ms.filter (!·.isOfRegistry)

namespace Step

theorem result_muted (s : Step) (o : Outcome StepError Answer) :
    (s.muted o).result = o.result := by
  cases s <;> rfl

theorem logs_muted (s : Step) (o : Outcome StepError Answer) :
    Event.logs (s.muted o).events = Event.logs o.events := by
  cases s <;> first | rfl | exact Event.logs_muted o.events

theorem reports_muted (s : Step) (o : Outcome StepError Answer) :
    Event.reports (s.muted o).events = Event.reports o.events := by
  cases s <;> first | rfl | exact Event.reports_muted o.events

theorem metrics_muted (s : Step) (o : Outcome StepError Answer) :
    Event.metrics (s.muted o).events = s.mutedMetrics (Event.metrics o.events) := by
  cases s <;> first | rfl | exact Event.metrics_muted o.events

end Step

namespace World

/-- The world whose registry has no sink for counters. -/
def unmeasured (w : World) : World := { w with registry := w.registry.unmeasured }

/-! ### One step -/

theorem ask_unmeasured (w : World) {o o' : Outcome RegistryError α} (ho : o' = o.muted)
    (f : α → Answer) :
    w.unmeasured.ask o' f = ((w.ask o f).1.unmeasured, (w.ask o f).2.muted) := by
  rw [ho]
  unfold ask
  simp only [Outcome.result_muted, Outcome.events_muted]
  split <;> rfl

theorem query_unmeasured (w : World) (r : Except StoreError α) (f : α → Answer) :
    w.unmeasured.query r f = ((w.query r f).1.unmeasured, (w.query r f).2.muted) :=
  ask_unmeasured w (Registry.muted_execute r).symm f

theorem change_unmeasured (w : World) (r : Except StoreError Database) (a : Answer) :
    w.unmeasured.change r a = ((w.change r a).1.unmeasured, (w.change r a).2.muted) := by
  cases r <;> rfl

theorem createHandle_unmeasured (w : World) (object : Resource) :
    w.unmeasured.step (.createHandle object) =
      ((w.step (.createHandle object)).1.unmeasured, (w.step (.createHandle object)).2.muted) := by
  have hmint := w.registry.createHandle_unmeasured w.site.handlePrefix w.db object
  have hdb := congrArg Prod.fst hmint
  have ho := congrArg Prod.snd hmint
  calc w.unmeasured.step (.createHandle object)
      = ({ w with db := (w.registry.unmeasured.createHandle w.site.handlePrefix w.db object).1 } :
          World).unmeasured.ask
          (w.registry.unmeasured.createHandle w.site.handlePrefix w.db object).2 .text := rfl
    _ = _ := by
        rw [hdb]
        exact ask_unmeasured _ ho _

/-- The program is answered as it is, since nobody counts there. -/
theorem muted_ofCommand (w : World) {o : Outcome CommandLine.RunError CommandLine.Report}
    (h : o.muted = o) : (w.ofCommand o).2.muted = (w.ofCommand o).2 := by
  have hevents : Event.muted o.events = o.events := congrArg Outcome.events h
  unfold ofCommand
  refine Outcome.ext rfl ?_
  split <;> exact hevents

/-- **One step** leads worlds that differ in the sink to worlds that differ in the sink. -/
theorem step_unmeasured (w : World) (s : Step) :
    w.unmeasured.step s = ((w.step s).1.unmeasured, s.muted (w.step s).2) := by
  cases s with
  | createHandle object => exact createHandle_unmeasured w object
  | resolveUrl handle => exact ask_unmeasured w (w.registry.resolveUrl_unmeasured w.db handle) _
  | resolveObject handle =>
      exact ask_unmeasured w (w.registry.resolveObject_unmeasured w.db handle) _
  | findHandle object => exact ask_unmeasured w (w.registry.muted_findHandle w.db object).symm _
  | listPrefix start => exact ask_unmeasured w (Registry.muted_handlesWith w.db start).symm _
  | storeFind | storeFindResource | storeFindPrefix | findItem =>
      exact query_unmeasured w _ _
  | storeInsert | addItem | deleteItem | insertRecord | insertWithoutHandle =>
      exact change_unmeasured w _ _
  | storeAllocate =>
      have h : w.unmeasured.db.allocate = w.db.allocate := rfl
      simp only [step, h]
      cases w.db.allocate <;> rfl
  | setSetting name value =>
      have h : w.unmeasured.site.set? name value = w.site.set? name value := rfl
      simp only [step, h]
      cases w.site.set? name value <;> rfl
  | command arguments environment =>
      exact Prod.ext rfl
        (muted_ofCommand _ (CommandLine.muted_run w.db.commit environment arguments)).symm
  | canonical | commit | rollback | setSequence | setReachable | rebuild | http => rfl

/-! ### Runs -/

/-- A run without a sink answers every step as the run with one does, without the counters, and
ends in the same world. -/
theorem run_unmeasured (w : World) (ss : List Step) :
    w.unmeasured.run ss = ((w.run ss).1.unmeasured, List.zipWith Step.muted ss (w.run ss).2) := by
  induction ss generalizing w with
  | nil => rfl
  | cons s rest ih => rw [run_cons, run_cons, step_unmeasured, ih, List.zipWith_cons_cons]

/-- What does not depend on the counters of an answer is the same for all answers of the run. -/
theorem map_run_unmeasured {f : Outcome StepError Answer → β} (h : ∀ s o, f (Step.muted s o) = f o)
    (w : World) (ss : List Step) : (w.unmeasured.run ss).2.map f = (w.run ss).2.map f := by
  induction ss generalizing w with
  | nil => rfl
  | cons s rest ih => rw [run_cons, run_cons, step_unmeasured, List.map_cons, List.map_cons, h, ih]

/-- **Counting changes nothing** but the counters. Take any settings, any way of building a table,
any order in which the rows are listed, and any steps, whether they succeed or fail. With a sink for
the counters of the registry and without one:

* every step gives the same result or fails for the same reason, and the same is logged and
  reported;
* at the end there are the same rows and items, committed and in the session, and the sequence
  stands at the same value. Settings and table are the same, too;
* without a sink the counters of the registry are missing from the measurements of all steps but
  requests. Everything else is measured in both runs, in the same order. -/
theorem counting_changes_nothing (site : Site) (table : Site → ResolverTable) (scan : Scan)
    (ss : List Step) :
    let counted := (start site table true scan).run ss
    let uncounted := (start site table false scan).run ss
    uncounted.2.map (·.result) = counted.2.map (·.result) ∧
    uncounted.2.map (fun o => Event.logs o.events) = counted.2.map (fun o => Event.logs o.events) ∧
    uncounted.2.map (fun o => Event.reports o.events) =
      counted.2.map (fun o => Event.reports o.events) ∧
    uncounted.1.db = counted.1.db ∧
    uncounted.1.site = counted.1.site ∧
    uncounted.1.registry.table = counted.1.registry.table ∧
    uncounted.2.map (fun o => Event.metrics o.events) =
      List.zipWith (fun s o => s.mutedMetrics (Event.metrics o.events)) ss counted.2 := by
  intro counted uncounted
  let w := start site table true scan
  have hrun : uncounted = (counted.1.unmeasured, List.zipWith Step.muted ss counted.2) :=
    w.run_unmeasured ss
  refine ⟨map_run_unmeasured Step.result_muted w ss, map_run_unmeasured Step.logs_muted w ss,
    map_run_unmeasured Step.reports_muted w ss, ?_, ?_, ?_, ?_⟩
  · rw [hrun]
    rfl
  · rw [hrun]
    rfl
  · rw [hrun]
    rfl
  · rw [hrun, List.map_zipWith]
    simp only [Step.metrics_muted]

end World

end PersistentId
