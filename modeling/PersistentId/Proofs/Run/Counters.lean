import Mathlib
import PersistentId.Proofs.Run.Permanence
import PersistentId.Proofs.Run.Sink
import PersistentId.Proofs.Service.Counters

/-!
# PersistentId.Proofs.Run.Counters

**The counters add up**: what a run has counted is what its steps have done.

The registry has three counters, and each of them is compared with something that a step has done,
which is told without a look at what the step counted:

* `handle.registry.resolve` with the handles that `_find_record` looked up, and whether there was a
  row of them (`Passage.lookups`);
* `handle.registry.dangling` with `resolve_to_object` of a handle whose object is gone
  (`Passage.dangles`);
* `handle.registry.mint` with the handles that `create_handle` gave out, by the type of the resolver
  (`Passage.mintedType?`).

Together they settle all counters of the step (`Passage.tells`), and the counters of a run are those
of its steps.

Nothing is taken back from a counter. A rollback that follows, a failure in the same step and a
batch that stops halfway leave what was counted before them.
-/

namespace PersistentId

/-- Minting counts what it has minted. -/
theorem Registry.counters_mintEvents {r : Registry} (hmeasured : r.measured = true)
    (type : ResourceType) (handle : String) :
    Event.counters (r.mintEvents type handle) = [.minted type] := by
  unfold mintEvents
  rw [hmeasured]
  rfl

/-- Whether a resolution failed behind the look-up: the row was corrupt or its type has no resolver,
or there is no address to publish its object under. -/
def StepError.isOfRow : StepError → Bool
  | .handle e => e.category != .invalidHandle
  | .setting _ => true
  | _ => false

namespace Passage

/-- The handles that a step has looked up, one by one. A request looks nothing up unless the service
starts. -/
def sought (p : Passage) : List (Option String) :=
  match p.step with
  | .resolveUrl handle => [handle]
  | .resolveObject handle => [handle]
  | .http method target =>
    match (Startup.opening p.before.site).result, Http.asked? method target with
    | .ok (), some a => (Http.sought p.before.site p.before.db.commit a).map some
    | _, _ => []
  | _ => []

/-- Whether there was a row, for every handle that a step has looked up in the database. -/
def lookups (p : Passage) : List Bool := p.sought.filterMap p.before.db.lookUp?

/-- Whether a step was to find the object of a handle that is stored, and found none. -/
def dangles (p : Passage) : Bool :=
  match p.step, p.answer.result with
  | .resolveObject handle, .ok .nothing => p.before.db.lookUp? handle == some true
  | _, _ => false

/-- The type of the resolver that recognised the object of a step which has minted a handle. -/
def mintedType? (p : Passage) : Option ResourceType :=
  match p.step, p.answer.result with
  | .createHandle object, .ok _ =>
    (p.before.registry.table.identify? object).map fun found => found.1.type
  | _, _ => none

theorem lookups_of_resolution {p : Passage} {handle : Option String}
    (h : p.step = .resolveUrl handle ∨ p.step = .resolveObject handle) :
    p.lookups = (p.before.db.lookUp? handle).toList := by
  unfold lookups sought
  rcases h with h | h <;> rw [h] <;> cases hlook : p.before.db.lookUp? handle <;> simp [hlook]

/-- What a step tells the sink of the registry: all that it has looked up, then an object that was
gone, then what it has minted. Behind a handle without an object it tells nothing else at all. -/
structure Tells (p : Passage) : Prop where
  counters : ∃ gone : Option ResourceType, gone.isSome = p.dangles ∧
    Event.counters p.answer.events = p.lookups.map Event.resolved ++
      (gone.toList.map Event.dangling ++ p.mintedType?.toList.map Event.minted)
  dangling : p.dangles = true → Registry.IsDangling p.answer.events

/-- Most steps find no object gone. -/
theorem Tells.plainly {p : Passage} (h : p.dangles = false)
    (hcounters : Event.counters p.answer.events =
      p.lookups.map Event.resolved ++ p.mintedType?.toList.map Event.minted) : p.Tells where
  counters := ⟨none, h.symm, hcounters⟩
  dangling hdangles := by simp [h] at hdangles

/-- Only a resolution to an object can find the object gone. -/
theorem dangles_of_not_sought {p : Passage} (h : p.sought = []) : p.dangles = false := by
  unfold dangles
  split
  · next handle hs _ => simp [sought, hs] at h
  · rfl

theorem mintedType?_of_ne {p : Passage} (h : ∀ object, p.step ≠ .createHandle object) :
    p.mintedType? = none := by
  unfold mintedType?
  split
  · next object _ hs _ => exact absurd hs (h object)
  · rfl

/-- Most steps look nothing up and mint nothing, either. -/
theorem Tells.nothing {p : Passage} (hsought : p.sought = []) (hminted : p.mintedType? = none)
    (hcounters : Event.counters p.answer.events = []) : p.Tells := by
  refine .plainly (dangles_of_not_sought hsought) ?_
  rw [hcounters, lookups, hsought, hminted]
  rfl

end Passage

namespace World

/-! ### One step -/

/-- A step answers that it has nothing where what it asks for is nothing. -/
theorem result_ask_ofObject (w : World) (o : Outcome RegistryError (Option Resource)) :
    (w.ask o .ofObject).2.result = .ok .nothing ↔ o.result = .ok none := by
  rw [result_ask]
  rcases o.result with e | _ | object <;> simp [Except.map, Except.mapError, Answer.ofObject]

/-- A step that asks fails for the reason of what it asks for. -/
theorem error_of_ask {w : World} {o : Outcome RegistryError α} {f : α → Answer} {e : StepError}
    (h : (w.ask o f).2.result = .error e) (hrow : e.isOfRow = true) :
    ∃ cause, o.result = .error cause ∧ cause.category? ≠ some .invalidHandle ∧
      ∀ fault, cause ≠ .store fault := by
  rw [result_ask] at h
  rcases ho : o.result with (cause | fault | kind) | a <;> rw [ho] at h <;> cases h
  · refine ⟨_, rfl, ?_, nofun⟩
    simpa [StepError.ofRegistry, StepError.isOfRow, RegistryError.category?] using hrow
  · cases hrow
  · exact ⟨_, rfl, nofun, nofun⟩

theorem counters_change (w : World) (r : Except StoreError Database) (a : Answer) :
    Event.counters (w.change r a).2.events = [] := by
  cases r <;> rfl

theorem counters_ofCommand (w : World) (o : Outcome CommandLine.RunError CommandLine.Report) :
    Event.counters (w.ofCommand o).2.events = Event.counters o.events := by
  unfold ofCommand
  split <;> rfl

theorem counters_query (w : World) (r : Except StoreError α) (f : α → Answer) :
    Event.counters (w.query r f).2.events = [] := by
  rw [query, events_ask]
  rfl

end World

namespace Passage

variable {w : World}

theorem tells_resolveUrl (hmeasured : w.registry.measured = true) (handle : Option String) :
    Tells ⟨w, .resolveUrl handle⟩ := by
  refine .plainly rfl ?_
  have hcounters := Registry.counters_resolveUrl hmeasured w.db handle
  rw [lookups_of_resolution (.inl rfl)]
  simp only [answer, World.step, World.events_ask, hcounters, mintedType?, Option.toList_none,
    List.map_nil, List.append_nil]

theorem tells_resolveObject (hmeasured : w.registry.measured = true) (handle : Option String) :
    Tells ⟨w, .resolveObject handle⟩ := by
  obtain ⟨-, hdangling, hcounters⟩ := (w.registry.agree w.db handle).counters hmeasured
  have hanswer := w.result_ask_ofObject (w.registry.resolveObject w.db handle)
  have hevents := w.events_ask (w.registry.resolveObject w.db handle) .ofObject
  have hdangles : dangles ⟨w, .resolveObject handle⟩ = true ↔
      (w.registry.resolveObject w.db handle).result = .ok none ∧
        w.db.lookUp? handle = some true := by
    rw [← hanswer]
    unfold dangles answer
    simp only [World.step]
    split <;> simp_all
  by_cases h : dangles ⟨w, .resolveObject handle⟩ = true
  · obtain ⟨hgone, hlook⟩ := hdangles.1 h
    rw [← hevents] at hdangling
    have htold := hdangling hgone hlook
    refine ⟨?_, fun _ => htold⟩
    obtain ⟨type, text, htold⟩ := htold
    refine ⟨some type, h.symm, ?_⟩
    rw [lookups_of_resolution (.inr rfl), hlook]
    exact congrArg Event.counters htold
  · refine .plainly (by simpa using h) ?_
    rw [← hevents] at hcounters
    refine (hcounters (mt hdangles.2 h)).trans ?_
    rw [lookups_of_resolution (.inr rfl)]
    exact (List.append_nil _).symm

theorem tells_createHandle (hmeasured : w.registry.measured = true) (object : Resource) :
    Tells ⟨w, .createHandle object⟩ := by
  obtain ⟨db, o, hends, hstep⟩ := w.step_createHandle object
  have hanswer : Passage.answer ⟨w, .createHandle object⟩ =
      (({ w with db := db } : World).ask o .text).2 := congrArg Prod.snd hstep
  refine .plainly rfl ?_
  simp only [lookups, sought, mintedType?, hanswer, World.events_ask]
  cases hends with
  | stored hm hup hsite ht =>
      have hfound := (Registry.mintable_eq_ok.1 hm).2
      rw [Registry.counters_mintEvents hmeasured]
      simp only [World.ask, hfound]
      rfl
  | refused => rfl
  | cutOff => rfl
  | noText => rfl
  | unfit => rfl
  | clash => rfl

theorem tells_http (method target : String) : Tells ⟨w, .http method target⟩ := by
  refine .plainly rfl ?_
  simp only [answer, World.step, World.request, lookups, sought, mintedType?, List.append_nil,
    Option.toList_none, List.map_nil]
  cases (Startup.opening w.site).result with
  | error e => exact Startup.counters_opening w.site
  | ok started =>
      cases hasked : Http.asked? method target with
      | none => exact Http.counters_serve_of_not_asked hasked w.site w.db.commit
      | some a =>
          refine (Http.counters_serve_of_asked hasked w.site w.db.commit).trans ?_
          rw [List.filterMap_map]
          rfl

/-- **Every step** counts what it has looked up and what it has minted. -/
theorem tells {p : Passage} (hmeasured : p.before.registry.measured = true) : p.Tells := by
  obtain ⟨w, s⟩ := p
  cases s with
  | resolveUrl handle => exact tells_resolveUrl hmeasured handle
  | resolveObject handle => exact tells_resolveObject hmeasured handle
  | createHandle object => exact tells_createHandle hmeasured object
  | http method target => exact tells_http method target
  | findHandle object =>
      refine .nothing rfl rfl ?_
      exact (congrArg Event.counters (World.events_ask _ _ _)).trans
        (Outcome.counters_of_muted (w.registry.muted_findHandle w.db object))
  | listPrefix start =>
      refine .nothing rfl rfl ?_
      exact (congrArg Event.counters (World.events_ask _ _ _)).trans
        (Outcome.counters_of_muted (Registry.muted_handlesWith w.db start))
  | storeFind | storeFindResource | storeFindPrefix | findItem =>
      exact .nothing rfl rfl (World.counters_query _ _ _)
  | storeInsert | addItem | deleteItem | insertRecord | insertWithoutHandle =>
      exact .nothing rfl rfl (World.counters_change _ _ _)
  | storeAllocate =>
      refine .nothing rfl rfl ?_
      simp only [answer, World.step]
      cases w.db.allocate <;> rfl
  | setSetting name value =>
      refine .nothing rfl rfl ?_
      simp only [answer, World.step]
      cases w.site.set? name value <;> rfl
  | command arguments environment =>
      refine .nothing rfl rfl ?_
      exact (World.counters_ofCommand _ _).trans
        (Outcome.counters_of_muted (CommandLine.muted_run w.db.commit environment arguments))
  | canonical | commit | rollback | setSequence | setReachable | rebuild =>
      exact .nothing rfl rfl rfl

/-! ### Counting the counters of a step -/

variable {p : Passage}

/-- A step that found no object gone and minted nothing has counted what it looked up. -/
theorem Tells.counters_eq (h : p.Tells) (hdangles : p.dangles = false)
    (hminted : p.mintedType? = none) :
    Event.counters p.answer.events = p.lookups.map Event.resolved := by
  obtain ⟨gone, hgone, hcounters⟩ := h.counters
  rw [hdangles, Option.isSome_eq_false_iff, Option.isNone_iff_eq_none] at hgone
  rw [hcounters, hgone, hminted]
  exact List.append_nil _

/-- So has a step that failed. -/
theorem Tells.counters_of_error (h : p.Tells) {e : StepError} (he : p.answer.result = .error e) :
    Event.counters p.answer.events = p.lookups.map Event.resolved := by
  refine h.counters_eq ?_ ?_
  · unfold dangles
    rw [he]
    cases p.step <;> rfl
  · unfold mintedType?
    rw [he]
    cases p.step <;> rfl

/-- There are three kinds of counters. -/
theorem Tells.cases (h : p.Tells) {e : Event} (he : e ∈ Event.counters p.answer.events) :
    (∃ type, e = .minted type) ∨ (∃ found, e = .resolved found) ∨ ∃ type, e = .dangling type := by
  obtain ⟨gone, -, hcounters⟩ := h.counters
  rw [hcounters, List.mem_append, List.mem_append, List.mem_map, List.mem_map, List.mem_map] at he
  rcases he with ⟨found, -, rfl⟩ | ⟨type, -, rfl⟩ | ⟨type, -, rfl⟩
  · exact .inr (.inl ⟨found, rfl⟩)
  · exact .inr (.inr ⟨type, rfl⟩)
  · exact .inl ⟨type, rfl⟩

/-- A resolution that failed behind the look-up has found its handle. -/
theorem lookups_of_error {handle : Option String} {e : StepError}
    (hstep : p.step = .resolveUrl handle ∨ p.step = .resolveObject handle)
    (he : p.answer.result = .error e) (hrow : e.isOfRow = true) : p.lookups = [true] := by
  obtain ⟨w, s⟩ := p
  have hagree := w.registry.agree w.db handle
  rw [lookups_of_resolution hstep, Option.toList_eq_singleton_iff]
  rcases hstep with rfl | rfl
  · obtain ⟨cause, hcause, hargument, hstore⟩ := World.error_of_ask he hrow
    exact hagree.found_of_error (.inl hcause) hargument hstore
  · obtain ⟨cause, hcause, hargument, hstore⟩ := World.error_of_ask he hrow
    exact hagree.found_of_error (.inr hcause) hargument hstore

/-- So a kind of counter is counted among what was looked up, what was gone and what was minted. -/
theorem Tells.countP (h : p.Tells) {kind : Event → Bool}
    (hkind : ∀ e, kind e = true → e.isOfRegistry = true) :
    ∃ gone : Option ResourceType, gone.isSome = p.dangles ∧
      p.answer.events.countP kind = p.lookups.countP (kind ∘ Event.resolved) +
        (gone.toList.countP (kind ∘ Event.dangling) +
          p.mintedType?.toList.countP (kind ∘ Event.minted)) := by
  obtain ⟨gone, hgone, hcounters⟩ := h.counters
  refine ⟨gone, hgone, ?_⟩
  rw [← Event.countP_counters hkind, hcounters]
  simp only [List.countP_append, List.countP_map]

theorem Tells.count_minted (h : p.Tells) (type : ResourceType) :
    p.answer.events.count (.minted type) = [p].countP (·.mintedType? = some type) := by
  have hkind : ∀ e, (e == Event.minted type) = true → e.isOfRegistry = true := by
    intro e he
    rw [beq_iff_eq.1 he, Event.isOfRegistry_minted]
  obtain ⟨gone, -, hcount⟩ := h.countP hkind
  have hlookups : p.lookups.countP ((· == Event.minted type) ∘ Event.resolved) = 0 :=
    List.countP_eq_zero.2 fun found _ => by simp [(Event.minted_ne_resolved type found).symm]
  have hgone : gone.toList.countP ((· == Event.minted type) ∘ Event.dangling) = 0 :=
    List.countP_eq_zero.2 fun other _ => by simp [(Event.minted_ne_dangling type other).symm]
  refine hcount.trans ?_
  rw [hlookups, hgone, Nat.zero_add, Nat.zero_add, List.countP_singleton]
  cases p.mintedType? with
  | none => rfl
  | some other => simp [List.countP_singleton, Event.minted_injective.eq_iff]

theorem Tells.count_resolved (h : p.Tells) (found : Bool) :
    p.answer.events.count (.resolved found) = p.lookups.count found := by
  have hkind : ∀ e, (e == Event.resolved found) = true → e.isOfRegistry = true := by
    intro e he
    rw [beq_iff_eq.1 he, Event.isOfRegistry_resolved]
  obtain ⟨gone, -, hcount⟩ := h.countP hkind
  have hgone : gone.toList.countP ((· == Event.resolved found) ∘ Event.dangling) = 0 :=
    List.countP_eq_zero.2 fun other _ => by simp [(Event.resolved_ne_dangling found other).symm]
  have hminted : p.mintedType?.toList.countP ((· == Event.resolved found) ∘ Event.minted) = 0 :=
    List.countP_eq_zero.2 fun other _ => by simp [Event.minted_ne_resolved other found]
  refine hcount.trans ?_
  rw [hgone, hminted]
  refine List.countP_congr fun other _ => ?_
  simp [Event.resolved_injective.eq_iff]

theorem Tells.count_dangling (h : p.Tells) :
    p.answer.events.countP (Event.counts "handle.registry.dangling") = [p].countP dangles := by
  obtain ⟨gone, hgone, hcount⟩ := h.countP fun _ => Event.isOfRegistry_of_counts_dangling
  have hlookups :
      p.lookups.countP (Event.counts "handle.registry.dangling" ∘ Event.resolved) = 0 :=
    List.countP_eq_zero.2 fun _ _ => nofun
  have hminted :
      p.mintedType?.toList.countP (Event.counts "handle.registry.dangling" ∘ Event.minted) = 0 :=
    List.countP_eq_zero.2 fun _ _ => nofun
  refine hcount.trans ?_
  rw [hlookups, hminted, Nat.zero_add, Nat.add_zero, List.countP_singleton, ← hgone]
  cases gone <;> rfl

end Passage

namespace World

/-! ### Runs -/

/-- A sink stays where it is, so every step of a run tells it what it has to tell. -/
theorem tells_of_mem_passages {w : World} (h : w.registry.measured = true) {ss : List Step}
    {p : Passage} (hp : p ∈ w.passages ss) : p.Tells :=
  Passage.tells (passages_keep (motive := fun v => v.registry.measured = true)
    (fun s _ v hv => (v.registry_step s).2.1.trans hv) h p hp)

/-- What a run tells is what its steps tell, one after the other. -/
theorem flatMap_events_run (w : World) (ss : List Step) :
    (w.run ss).2.flatMap (·.events) = (w.passages ss).flatMap (·.answer.events) := by
  rw [← map_answer_passages, List.flatMap_map]

/-- What is counted of every step can be counted of the run. -/
theorem countP_run {w : World} {ss : List Step} {kind : Event → Bool} {f : Passage → List α}
    {what : α → Bool}
    (h : ∀ p ∈ w.passages ss, p.answer.events.countP kind = (f p).countP what) :
    ((w.run ss).2.flatMap (·.events)).countP kind = ((w.passages ss).flatMap f).countP what := by
  rw [flatMap_events_run, List.countP_flatMap, List.countP_flatMap]
  exact congrArg List.sum (List.map_congr_left h)

end World

end PersistentId
