import Mathlib
import PersistentId.Proofs.Registry.Agreement
import PersistentId.Proofs.Run.Rollback
import PersistentId.Proofs.Service.Request

/-!
# PersistentId.Proofs.Run.Outage

**An outage never yields a wrong answer.**

Whether a statement is executed for an answer can be told beforehand, from what is asked and
from the settings. Where one is, the answer is a failure while the database is out of reach, and
the failure is told: it is not taken for an empty result. Where none is, the answer is the same
whatever the database holds, and whether it is up or not (`FailsClosed`).

This is shown for the operations of `HandleRegistry` first, then for the routes of the service and
for whole steps. A request with several handles is no exception: the first of them is looked up
before any other one, and ends the request where it is refused or fails.
-/

namespace PersistentId

/-- An answer asked of a database, of which is known whether a statement is executed for it. If
none is, the answer does not depend on the database. If one is, the answer is a failure in every
outage. -/
structure FailsClosed (executes : Bool) (Failure : β → Prop) (answer : Database → β) : Prop where
  same : executes = false → ∀ db db', answer db = answer db'
  fails : executes = true → ∀ db, db.reachable = false → Failure (answer db)

/-- The outcome of an operation that failed in an outage. -/
def Outcome.IsOutage (o : Outcome RegistryError α) : Prop := o = .fail (.store .outage)

namespace FailsClosed

variable {Failure : β → Prop} {Failure' : γ → Prop} {answer : Database → β} {executes : Bool}

/-- An answer that no statement is executed for. -/
theorem constant (h : ∀ db db', answer db = answer db') : FailsClosed false Failure answer where
  same _ := h
  fails := nofun

/-- An answer that a statement is executed for. -/
theorem statement (h : ∀ db, db.reachable = false → Failure (answer db)) :
    FailsClosed true Failure answer where
  same := nofun
  fails _ := h

/-- What is made of an answer fails closed as the answer does. -/
theorem map (h : FailsClosed executes Failure answer) (f : β → γ)
    (hf : ∀ b, Failure b → Failure' (f b)) :
    FailsClosed executes Failure' fun db => f (answer db) where
  same hexecutes db db' := by rw [h.same hexecutes db db']
  fails hexecutes db hdown := hf _ (h.fails hexecutes db hdown)

/-! ### Operations of the registry -/

theorem query (read : Database → Contents → α) :
    FailsClosed true Outcome.IsOutage fun db => Registry.execute (db.query (read db)) :=
  statement fun db hdown => by
    rw [Database.query_of_outage hdown]
    rfl

/-- What fails where looking up a handle does executes a statement exactly where there is a handle
to look up. -/
theorem of_findRecord (r : Registry) (handle : Option String) {failed : RegistryError → β}
    (h : ∀ db e, r.findRecord db handle = .fail e → answer db = failed e)
    (houtage : Failure (failed (.store .outage))) :
    FailsClosed (present? handle).isSome Failure answer := by
  cases hpresent : present? handle with
  | none =>
      refine constant fun db db' => ?_
      rw [h db _ (Registry.findRecord_of_missing hpresent r db),
        h db' _ (Registry.findRecord_of_missing hpresent r db')]
  | some text =>
      refine statement fun db hdown => ?_
      rw [h db _ (Registry.findRecord_of_outage hpresent r hdown)]
      exact houtage

theorem resolveUrl (r : Registry) (handle : Option String) :
    FailsClosed (present? handle).isSome Outcome.IsOutage fun db => r.resolveUrl db handle :=
  of_findRecord r handle (fun _ _ h => (Registry.resolve_of_fail h).1) rfl

theorem resolveObject (r : Registry) (handle : Option String) :
    FailsClosed (present? handle).isSome Outcome.IsOutage fun db => r.resolveObject db handle :=
  of_findRecord r handle (fun _ _ h => (Registry.resolve_of_fail h).2) rfl

theorem findHandle (r : Registry) (object : Resource) :
    FailsClosed (r.table.identify? object).isSome Outcome.IsOutage
      fun db => r.findHandle db object := by
  unfold Registry.findHandle
  cases r.table.identify? object with
  | none => exact constant fun _ _ => rfl
  | some found => exact query _

theorem createHandle (r : Registry) (site : LiveValue) (object : Resource) :
    FailsClosed (r.mintable site object).isOk Outcome.IsOutage
      fun db => (r.createHandle site db object).2 := by
  unfold Registry.createHandle
  cases r.mintable site object with
  | error e => exact constant fun _ _ => rfl
  | ok found =>
      refine statement fun db hdown => ?_
      simp only [Database.allocate_of_outage hdown]
      rfl

theorem handlesWith (start : Option String) :
    FailsClosed start.isSome Outcome.IsOutage fun db => Registry.handlesWith db start := by
  cases start with
  | none => exact constant fun _ _ => rfl
  | some start => exact query _

end FailsClosed

/-! ### Requests -/

namespace Route

/-- Whether a statement is executed for a route. -/
def executes (t : Target) : Route → Bool
  | redirect handle => (present? (some handle)).isSome
  | alive => false
  | ready => true
  | resolve => (present? (t.values "handle").head?).isSome
  | listing => (t.values "prefix").head?.isSome

/-- What a route gives in an outage, if a statement is executed for it. -/
def cutOff : Route → Outcome Http.Fault Response
  | ready =>
    ⟨.ok (.bare 503), [.log ⟨.error, "Database not ready", some StoreError.outage.label⟩]⟩
  | _ => .fail (.store .outage)

end Route

namespace FailsClosed

/-- An answer to the service fails closed as the operation does. -/
theorem answer {executes : Bool} {o : Database → Outcome RegistryError α}
    (h : FailsClosed executes Outcome.IsOutage o) (f : α → Outcome Http.Fault Response) :
    FailsClosed executes (· = .fail (.store .outage)) fun db => Http.answer (o db) f :=
  h.map (Http.answer · f) <| by
    rintro _ rfl
    rfl

/-- A request with several handles fails closed as the look-up of the first one does. -/
theorem resolveAll (r : Registry) (handles : List String) :
    FailsClosed (present? handles.head?).isSome (· = .fail (.store .outage))
      fun db => Http.resolveAll r db [] handles := by
  cases handles with
  | nil => exact constant fun _ _ => rfl
  | cons handle rest =>
      -- The rest is not looked up where the first one cannot be.
      have hfirst : ∀ db e, r.findRecord db (some handle) = .fail e →
          Http.resolveAll r db [] (handle :: rest) =
            Http.answer (.fail e) fun _ : Unit => pure .notFound := by
        intro db e h
        rw [Http.resolveAll, (Registry.resolve_of_fail h).1]
        cases e <;> rfl
      exact of_findRecord r (some handle) hfirst rfl

theorem respond (r : Registry) (t : Target) (route : Route) :
    FailsClosed (route.executes t) (· = route.cutOff) fun db => Http.respond r db t route := by
  cases route with
  | redirect handle => exact (resolveUrl r (some handle)).answer _
  | alive => exact constant fun _ _ => rfl
  | ready =>
      refine statement fun db hdown => ?_
      have hping : db.ping = .error .outage := Database.query_of_outage hdown _
      simp only [Http.respond, hping]
      rfl
  | resolve => exact resolveAll r _
  | listing =>
      unfold Http.respond Route.executes
      cases (t.values "prefix").head? with
      | none => exact constant fun _ _ => rfl
      | some start => exact (handlesWith (some start)).answer _

theorem serve {method target : String} {a : Http.Asked} (h : Http.asked? method target = some a)
    (site : Site) :
    FailsClosed (a.route.executes a.target) (· = Http.close a a.route.cutOff)
      fun db => Http.serve site db method target := by
  simp only [Http.serve_of_asked h]
  refine (respond (Http.registryOf site) a.target a.route).map (Http.close a) ?_
  rintro _ rfl
  rfl

end FailsClosed

/-! ### Steps -/

/-- Whether a step of the work on a transaction, or a request, executes a statement. A request
is answered by a service that starts, and only where it asks for something. -/
def World.executes (w : World) : Step → Bool
  | .resolveUrl handle | .resolveObject handle => (present? handle).isSome
  | .findHandle object => (w.registry.table.identify? object).isSome
  | .createHandle object => (w.registry.mintable w.site.handlePrefix object).isOk
  | .listPrefix start => start.isSome
  | .canonical _ | .rollback => false
  | .http method target =>
    (Startup.opening w.site).result.isOk &&
      (Http.asked? method target).any fun a => a.route.executes a.target
  | s => s.isWork

/-- An answer is the failure of an outage. A request is told of it by its status. -/
def Step.FailsWithOutage : Step → Outcome StepError Answer → Prop
  | .http method target, o => ∃ a response,
    Http.asked? method target = some a ∧ o.result = .ok (.response response) ∧
      if a.route = .ready then response.status = 503
      else response.status = 500 ∧ Event.reports o.events = ["OperationalError"]
  | _, o => o = .fail (.store .outage)

/-- What is sent for an outage is told by its status. All routes but the question for it report
the failure. -/
theorem Http.close_cutOff (a : Http.Asked) :
    if a.route = .ready then (Http.close a a.route.cutOff).1.status = 503
    else (Http.close a a.route.cutOff).1.status = 500 ∧
      Event.reports (Http.close a a.route.cutOff).2 = ["OperationalError"] := by
  obtain ⟨method, target, route⟩ := a
  cases route with
  | ready => exact status_sent_ok method (.bare 503)
  | _ => exact ⟨status_sent_error method (.store .outage), rfl⟩

namespace FailsClosed

variable {executes : Bool}

/-- A step that asks fails closed as the operation does, whatever it is left with. -/
theorem ask {o : Database → Outcome RegistryError α} (h : FailsClosed executes Outcome.IsOutage o)
    (w : Database → World) (f : α → Answer) :
    FailsClosed executes (· = .fail (.store .outage)) fun db => ((w db).ask (o db) f).2 := by
  have hanswer : ∀ v v' : World, ∀ o, (v.ask o f).2 = (v'.ask o f).2 := by
    intro v v' o
    unfold World.ask
    split <;> rfl
  constructor
  · intro hexecutes db db'
    rw [h.same hexecutes db db', hanswer (w db) (w db')]
  · intro hexecutes db hdown
    rw [h.fails hexecutes db hdown]
    rfl

theorem change (w : Database → World) (write : Contents → Except StoreError Contents) (a : Answer) :
    FailsClosed true (· = .fail (.store .outage))
      fun db => ((w db).change (db.change write) a).2 :=
  statement fun db hdown => by
    rw [Database.change_of_outage hdown]
    rfl

/-- A request fails closed. Nobody looks at the database before the service starts, and before it
is known what the request asks for. -/
theorem request (w : World) (method target : String) :
    FailsClosed (w.executes (.http method target)) (Step.http method target).FailsWithOutage
      fun db => World.request { w with db := db } method target := by
  cases hopened : (Startup.opening w.site).result with
  | error e =>
      -- The service does not start, so nobody reads the request.
      have hexecutes : w.executes (.http method target) = false := by
        simp only [World.executes, hopened]
        rfl
      rw [hexecutes]
      exact constant fun db db' => by simp only [World.request, hopened]
  | ok =>
      have hrequest : ∀ db, World.request { w with db := db } method target =
          ⟨.ok (.response (Http.serve w.site db method target).1),
            (Http.serve w.site db method target).2⟩ := by
        intro db
        simp only [World.request, hopened, Http.serve]
      have hexecutes : w.executes (.http method target) =
          (Http.asked? method target).any fun a => a.route.executes a.target := by
        simp only [World.executes, hopened]
        rfl
      simp only [hrequest, hexecutes]
      cases hasked : Http.asked? method target with
      | none =>
          refine constant fun db db' => ?_
          rw [Http.serve_of_not_asked hasked w.site w.site db db']
      | some a =>
          rw [Option.any_some]
          refine (serve hasked w.site).map
            (fun sent => (⟨.ok (.response sent.1), sent.2⟩ : Outcome StepError Answer)) ?_
          rintro _ rfl
          exact ⟨a, _, hasked, rfl, Http.close_cutOff a⟩

end FailsClosed

/-- A step of the work on a transaction, or a request. -/
def Step.IsServed (s : Step) : Prop := s.isWork = true ∨ ∃ method target, s = .http method target

namespace World

/-- **Every step** of the work, and every request, fails closed. -/
theorem failsClosed_step (w : World) {s : Step} (hs : s.IsServed) :
    FailsClosed (w.executes s) s.FailsWithOutage fun db => ({ w with db := db }.step s).2 := by
  cases s with
  | resolveUrl handle => exact (FailsClosed.resolveUrl w.registry handle).ask _ _
  | resolveObject handle => exact (FailsClosed.resolveObject w.registry handle).ask _ _
  | findHandle object => exact (FailsClosed.findHandle w.registry object).ask _ _
  | createHandle object =>
      exact (FailsClosed.createHandle w.registry w.site.handlePrefix object).ask _ _
  | listPrefix start => exact (FailsClosed.handlesWith start).ask _ _
  | canonical | rollback => exact .constant fun _ _ => rfl
  | storeFind | storeFindResource | storeFindPrefix | findItem =>
      exact (FailsClosed.query _).ask _ _
  | storeAllocate =>
      refine .statement fun db hdown => ?_
      simp only [step, Database.allocate_of_outage hdown]
      rfl
  | storeInsert | addItem | deleteItem | insertRecord | insertWithoutHandle =>
      exact .change _ _ _
  | http method target =>
      -- The service sees what is committed, and reaches it where the session does.
      have hrequest := FailsClosed.request w method target
      simp only [step]
      exact ⟨fun hexecutes db db' => hrequest.same hexecutes db.commit db'.commit,
        fun hexecutes db hdown => hrequest.fails hexecutes db.commit hdown⟩
  | commit | setSequence | setReachable | setSetting | rebuild | command =>
      rcases hs with h | ⟨_, _, h⟩ <;> cases h

/-! ### The state in an outage -/

section Clean

variable {w : World} (hclean : w.db.session = w.db.committed)

include hclean

/-- Where nothing waits to be committed, neither end of a transaction changes anything. -/
theorem ends_of_clean : w.db.commit = w.db ∧ w.db.rollback = w.db := by
  obtain ⟨site, table, registry, committed, session, sequence, reachable, scan⟩ := w
  obtain rfl : session = committed := hclean
  exact ⟨rfl, rfl⟩

theorem ask_of_clean (o : Outcome RegistryError α) (f : α → Answer) : (w.ask o f).1 = w := by
  unfold ask
  rw [(ends_of_clean hclean).2]
  split <;> rfl

theorem change_of_clean (hdown : w.db.reachable = false)
    (write : Contents → Except StoreError Contents) (a : Answer) :
    (w.change (w.db.change write) a).1 = w := by
  unfold change
  rw [Database.change_of_outage hdown, (ends_of_clean hclean).2]

/-- In an outage no step of the work and no request changes anything. -/
theorem step_of_outage (hdown : w.db.reachable = false) {s : Step} (hs : s.IsServed) :
    (w.step s).1 = w := by
  cases s with
  | createHandle object =>
      obtain ⟨db, o, hends, hstep⟩ := w.step_createHandle object
      rw [hstep]
      cases hends with
      | refused => exact ask_of_clean hclean _ _
      | cutOff => exact ask_of_clean hclean _ _
      -- Behind the drawing of a value, which is the first statement, minting does not get.
      | noText _ hup | unfit _ hup | clash _ hup | stored _ hup => simp [hdown] at hup
  | resolveUrl | resolveObject | findHandle | listPrefix => exact ask_of_clean hclean _ _
  | storeFind | storeFindResource | storeFindPrefix | findItem => exact ask_of_clean hclean _ _
  | canonical handle => rfl
  | rollback => simp only [step, done, (ends_of_clean hclean).2]
  | storeAllocate =>
      simp only [step, Database.allocate_of_outage hdown, (ends_of_clean hclean).2]
  | storeInsert | addItem | deleteItem | insertRecord | insertWithoutHandle =>
      exact change_of_clean hclean hdown _ _
  | http method target => simp only [step, (ends_of_clean hclean).1]
  | commit | setSequence | setReachable | setSetting | rebuild | command =>
      rcases hs with h | ⟨_, _, h⟩ <;> cases h

end Clean

/-- The world with its database out of reach. -/
def cutOff (w : World) : World := { w with db := { w.db with reachable := false } }

/-- **An outage never yields a wrong answer.** Take a world where nothing waits to be committed,
and the same world with its database out of reach. For every step of the work on a transaction
and every request:

* in the outage nothing changes: no row, no item, and no value of the sequence is used up;
* a step that executes a statement fails in the outage, and says so: a step with the failure
  itself, a request with status 500 and a report of the failure, and the question whether the
  database is there with status 503;
* a step that executes none answers in the outage as it does without one, and as it does with any
  other database.

So what is answered in the outage is either the answer of the other world, or the failure. -/
theorem outage_never_misleads {w : World} (hclean : w.db.session = w.db.committed) {s : Step}
    (hs : s.IsServed) :
    (w.cutOff.step s).1 = w.cutOff ∧
    (w.executes s = true → s.FailsWithOutage (w.cutOff.step s).2) ∧
    (w.executes s = false → (w.cutOff.step s).2 = (w.step s).2 ∧
      ∀ db, ({ w with db := db }.step s).2 = (w.step s).2) := by
  have hclosed := w.failsClosed_step hs
  refine ⟨step_of_outage (w := w.cutOff) hclean rfl hs, ?_, ?_⟩
  · exact fun hexecutes => hclosed.fails hexecutes _ rfl
  · exact fun hexecutes => ⟨hclosed.same hexecutes _ _, fun db => hclosed.same hexecutes _ _⟩

/-- A request that comes to a handle fails, one that is refused before that is refused as it always
is, and a value that is not drawn is not used up. -/
theorem outage_never_misleads_midway :
    let w := ((start ⟨.text "10.1", .text "http://a", .text "none", false⟩ defaultTable true).run
      [.insertRecord ⟨1, "a", some 2, some 7⟩, .commit]).1
    let failing := Step.http "GET" "/internal/api/resolve?handle=a&handle="
    let refused := Step.http "GET" "/internal/api/resolve?handle=&handle=a"
    let minting := Step.createHandle (.item (some 7))
    w.db.session = w.db.committed ∧ w.executes failing = true ∧ w.executes refused = false ∧
    failing.FailsWithOutage (w.cutOff.step failing).2 ∧
    (w.cutOff.step refused).2 = (w.step refused).2 ∧
    (w.cutOff.step minting).2 = .fail (.store .outage) ∧
    (w.cutOff.step minting).1 = w.cutOff := by
  intro w failing refused minting
  have hclean : w.db.session = w.db.committed := rfl
  have hfailing : w.executes failing = true := by decide +kernel
  have hrefused : w.executes refused = false := by decide +kernel
  have hminting : w.executes minting = true := by decide +kernel
  obtain ⟨-, hfails, -⟩ := outage_never_misleads hclean (s := failing) (.inr ⟨_, _, rfl⟩)
  obtain ⟨-, -, hsame⟩ := outage_never_misleads hclean (s := refused) (.inr ⟨_, _, rfl⟩)
  obtain ⟨hkept, hcutOff, -⟩ := outage_never_misleads hclean (s := minting) (.inl rfl)
  exact ⟨hclean, hfailing, hrefused, hfails hfailing, (hsame hrefused).1, hcutOff hminting, hkept⟩

end World

end PersistentId
