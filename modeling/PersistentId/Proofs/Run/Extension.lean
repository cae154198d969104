import Mathlib
import PersistentId.Proofs.Registry.Extension
import PersistentId.Proofs.Run.Effect

/-!
# PersistentId.Proofs.Run.Extension

**The table of resolvers is open.** A kind of object is added by an entry of a new key, a
`ResourceResolver`, and nothing changes for the kinds that were there.

Two worlds are compared that differ in the new entry only (`World.extended`). A step that the old
table does not leave open goes the same way in both, and leads to two worlds of this kind again. It
leaves a step open in three cases (`World.Open`): a handle is resolved whose row asks for the new
key, or a handle is minted or looked for, for an object that nobody recognises. What becomes of
these is up to the new entry alone.

Where the old table refuses nothing for its type and is asked for recognised objects only, no step
is left open, and so both tables make the same run.
-/

namespace PersistentId

namespace Step

/-- The new entry of the registry behind a step, where `built` is the one that would be built from
the settings: building the registry anew builds the entry anew. -/
def entryBehind (e built : ResolverEntry) : Step → ResolverEntry
  | .rebuild => built
  | _ => e

/-- What a step answers where a table without an entry of a key leaves it open: it refuses what
needs a resolver, and an object without one has no handle. -/
def declined (key : ResourceType) : Step → Except StepError Answer
  | .createHandle object => .error (.handle (.unsupportedResource object.kindName))
  | .findHandle _ => .ok .nothing
  | _ => .error (.handle (.unsupportedType key.code))

end Step

/-- A step is served by the table in use: it is refused for no type and no kind, and if it looks for
the handle of an object, somebody recognises the object. -/
structure Passage.Served (p : Passage) : Prop where
  supported : ∀ e, p.answer.result = .error (.handle e) → e.category ≠ .unsupportedResourceType
  recognised : ∀ object, p.step = .findHandle object →
    ∃ e ∈ p.before.registry.table.entries, e.resolver.identify object ≠ none

namespace World

/-- The world with one more entry: `e` in the table of the registry, and `entry` in every table that
is built from settings. -/
def extended (w : World) (e : ResolverEntry) (entry : Site → ResolverEntry) : World :=
  { w with
    table := fun site => (w.table site).set (entry site)
    registry := w.registry.extended e }

/-- A new site with a wider table is a new site with one more entry. -/
theorem extended_start (site : Site) (table : Site → ResolverTable) (measured : Bool) (scan : Scan)
    (entry : Site → ResolverEntry) :
    (start site table measured scan).extended (entry site) entry =
      start site (fun s => (table s).set (entry s)) measured scan := rfl

/-- The world whose registry has one entry for a table. -/
def only (w : World) (e : ResolverEntry) : World := { w with registry := w.registry.only e }

/-- The keys of the new entries are new. -/
structure Admits (w : World) (e : ResolverEntry) (entry : Site → ResolverEntry) : Prop where
  now : e.key ∉ w.registry.table.keys
  built : ∀ site, (entry site).key ∉ (w.table site).keys

/-- The table in use leaves a step open to an entry of a new key. -/
def Open (w : World) (key : ResourceType) : Step → Prop
  | .resolveUrl handle | .resolveObject handle => Registry.AsksFor w.db handle key
  | .findHandle object => ∀ e ∈ w.registry.table.entries, e.resolver.identify object = none
  | .createHandle object =>
    w.site.handlePrefix.isEmpty = false ∧
      ∀ e ∈ w.registry.table.entries, e.resolver.identify object = none
  | _ => False

/-! ### One step -/

variable {w : World} {e : ResolverEntry} {entry : Site → ResolverEntry}

theorem ask_extended (w : World) (e : ResolverEntry) (entry : Site → ResolverEntry)
    {o o' : Outcome RegistryError α} (ho : o' = o) (f : α → Answer) :
    (w.extended e entry).ask o' f = ((w.ask o f).1.extended e entry, (w.ask o f).2) := by
  rw [ho]
  unfold ask
  split <;> rfl

/-- The same for the registry that has the new entry alone. -/
theorem ask_extended_only (w : World) (e : ResolverEntry) (entry : Site → ResolverEntry)
    {o o' : Outcome RegistryError α} (ho : o' = o) (f : α → Answer) :
    (w.extended e entry).ask o' f =
      ({ w with db := ((w.only e).ask o f).1.db }.extended e entry, ((w.only e).ask o f).2) := by
  rw [ho]
  unfold ask
  split <;> rfl

/-- A refusal of the registry leaves everything alone. -/
theorem ask_of_refused (w : World) {o : Outcome RegistryError α} {refusal : HandleError}
    (h : o.result = .error (.handle refusal)) (f : α → Answer) :
    (w.ask o f).1 = w ∧ (w.ask o f).2.result = .error (.handle refusal) := by
  simp [ask, h]

theorem change_extended (w : World) (e : ResolverEntry) (entry : Site → ResolverEntry)
    (r : Except StoreError Database) (a : Answer) :
    (w.extended e entry).change r a = ((w.change r a).1.extended e entry, (w.change r a).2) := by
  cases r <;> rfl

/-- Minting goes the same way where it is refused for its prefix or the object is recognised. -/
theorem createHandle_extended (h : e.key ∉ w.registry.table.keys) {object : Resource}
    (hserved : ¬w.Open e.key (.createHandle object)) :
    (w.registry.extended e).createHandle w.site.handlePrefix w.db object =
      w.registry.createHandle w.site.handlePrefix w.db object := by
  cases hempty : w.site.handlePrefix.isEmpty with
  | true => rw [Registry.createHandle_of_isEmpty hempty, Registry.createHandle_of_isEmpty hempty]
  | false =>
      cases hfound : w.registry.table.identify? object with
      | none => exact absurd ⟨hempty, ResolverTable.identify?_eq_none.1 hfound⟩ hserved
      | some found =>
          exact Registry.createHandle_congr (Registry.identify?_extended_of_some h hfound) rfl _ _

/-- **A step that is not left open** goes the same way with the new entry. -/
theorem step_extended (h : e.key ∉ w.registry.table.keys) {s : Step}
    (hserved : ¬w.Open e.key s) :
    (w.extended e entry).step s =
      ((w.step s).1.extended (s.entryBehind e (entry w.site)) entry, (w.step s).2) := by
  cases s with
  | resolveUrl handle =>
      exact ask_extended w e entry (Registry.resolve_extended_of_not_asksFor h hserved).1 _
  | resolveObject handle =>
      exact ask_extended w e entry (Registry.resolve_extended_of_not_asksFor h hserved).2 _
  | findHandle object =>
      cases hfound : w.registry.table.identify? object with
      | none => exact absurd (ResolverTable.identify?_eq_none.1 hfound) hserved
      | some found =>
          exact ask_extended w e entry
            (Registry.findHandle_congr (Registry.identify?_extended_of_some h hfound) w.db) _
  | createHandle object =>
      -- Minting changes the database before it is asked what became of it.
      let created := w.registry.createHandle w.site.handlePrefix w.db object
      calc (w.extended e entry).step (.createHandle object)
          = (({ w with db := ((w.registry.extended e).createHandle w.site.handlePrefix w.db
              object).1 } : World).extended e entry).ask
              ((w.registry.extended e).createHandle w.site.handlePrefix w.db object).2 .text := rfl
        _ = (({ w with db := created.1 } : World).extended e entry).ask created.2 .text := by
            rw [createHandle_extended h hserved]
        _ = _ := ask_extended _ e entry rfl _
  | listPrefix | storeFind | storeFindResource | storeFindPrefix | findItem =>
      exact ask_extended w e entry rfl _
  | storeInsert | addItem | deleteItem | insertRecord | insertWithoutHandle =>
      exact change_extended w e entry _ _
  | storeAllocate =>
      have hallocate : (w.extended e entry).db.allocate = w.db.allocate := rfl
      simp only [step, hallocate]
      cases w.db.allocate <;> rfl
  | setSetting name value =>
      have hset : (w.extended e entry).site.set? name value = w.site.set? name value := rfl
      simp only [step, hset]
      cases w.site.set? name value <;> rfl
  | canonical | commit | rollback | setSequence | setReachable | rebuild | http | command => rfl

/-- A step that is left open is declined by the old table, and leaves its world alone. -/
theorem declined_of_open (h : e.key ∉ w.registry.table.keys) {s : Step} (hopen : w.Open e.key s) :
    (w.step s).1 = w ∧ (w.step s).2.result = s.declined e.key := by
  cases s with
  | resolveUrl handle => exact ask_of_refused w (Registry.unsupported_of_asksFor h hopen).1 _
  | resolveObject handle => exact ask_of_refused w (Registry.unsupported_of_asksFor h hopen).2 _
  | findHandle object =>
      have hnothing : w.registry.findHandle w.db object = pure none := by
        rw [Registry.findHandle, ResolverTable.identify?_eq_none.2 hopen]
      rw [step, hnothing]
      exact ⟨rfl, rfl⟩
  | createHandle object =>
      have hnobody := ResolverTable.identify?_eq_none.2 hopen.2
      rw [step, Registry.createHandle_of_unrecognised hopen.1 hnobody]
      exact ⟨rfl, rfl⟩
  | _ => cases hopen

/-- **A step that is left open** does to the database, and answers, with the new entry what it does
with the new entry alone. -/
theorem step_of_open (h : e.key ∉ w.registry.table.keys) {s : Step} (hopen : w.Open e.key s) :
    (w.extended e entry).step s =
      ({ w with db := ((w.only e).step s).1.db }.extended e entry, ((w.only e).step s).2) := by
  cases s with
  | resolveUrl handle =>
      exact ask_extended_only w e entry (Registry.resolve_extended_of_asksFor h hopen).1 _
  | resolveObject handle =>
      exact ask_extended_only w e entry (Registry.resolve_extended_of_asksFor h hopen).2 _
  | findHandle object =>
      have hnobody := ResolverTable.identify?_eq_none.2 hopen
      exact ask_extended_only w e entry
        (Registry.findHandle_congr (Registry.identify?_extended_of_none h hnobody) w.db) _
  | createHandle object =>
      have hnobody := ResolverTable.identify?_eq_none.2 hopen.2
      let created := (w.registry.only e).createHandle w.site.handlePrefix w.db object
      calc (w.extended e entry).step (.createHandle object)
          = (({ w with db := ((w.registry.extended e).createHandle w.site.handlePrefix w.db
              object).1 } : World).extended e entry).ask
              ((w.registry.extended e).createHandle w.site.handlePrefix w.db object).2 .text := rfl
        _ = (({ w with db := created.1 } : World).extended e entry).ask created.2 .text := by
            rw [Registry.createHandle_congr (Registry.identify?_extended_of_none h hnobody) rfl]
        _ = _ := ask_extended_only _ e entry rfl _
  | _ => cases hopen

/-! ### Runs -/

/-- Behind a step, the keys of the new entries are new still. -/
theorem Admits.step (h : w.Admits e entry) (s : Step) :
    (w.step s).1.Admits (s.entryBehind e (entry w.site)) entry := by
  cases s with
  | rebuild => exact ⟨h.built w.site, h.built⟩
  | _ =>
      rcases w.frame _ with ⟨db, hstep⟩ | ⟨name, value, site, -, -, hstep⟩ | ⟨hrebuild, -⟩
      · rw [hstep]
        exact ⟨h.now, h.built⟩
      · rw [hstep]
        exact ⟨h.now, h.built⟩
      · cases hrebuild

/-- What the old table serves it does not leave open. -/
theorem not_open_of_served (h : e.key ∉ w.registry.table.keys) {s : Step}
    (hserved : Passage.Served ⟨w, s⟩) : ¬w.Open e.key s := by
  intro hopen
  have hdeclined := (declined_of_open h hopen).2
  cases s with
  | findHandle object =>
      obtain ⟨x, hx, hid⟩ := hserved.recognised object rfl
      exact hid (hopen x hx)
  | resolveUrl | resolveObject | createHandle => exact hserved.supported _ hdeclined rfl
  | _ => cases hopen

/-- The new entry of the registry behind a run. -/
def entryAfter (w : World) (e : ResolverEntry) (entry : Site → ResolverEntry) :
    List Step → ResolverEntry
  | [] => e
  | s :: rest => (w.step s).1.entryAfter (s.entryBehind e (entry w.site)) entry rest

/-- The keys of the new entries stay new. -/
theorem Admits.run (h : w.Admits e entry) (ss : List Step) :
    (w.run ss).1.Admits (w.entryAfter e entry ss) entry := by
  induction ss generalizing w e with
  | nil => exact h
  | cons s rest ih =>
      rw [run_cons]
      exact ih (h.step s)

/-- A run whose steps are all served goes the same way with the new entry. -/
theorem run_extended (h : w.Admits e entry) {ss : List Step}
    (hserved : ∀ p ∈ w.passages ss, p.Served) :
    (w.extended e entry).run ss =
      ((w.run ss).1.extended (w.entryAfter e entry ss) entry, (w.run ss).2) := by
  -- The entry is carried along, since a registry that is built anew has another one.
  induction ss generalizing w e with
  | nil => rfl
  | cons s rest ih =>
      have hclosed := not_open_of_served h.now (hserved ⟨w, s⟩ List.mem_cons_self)
      have hrest := ih (h.step s) fun p hp => hserved p (List.mem_cons_of_mem _ hp)
      rw [run_cons, run_cons, step_extended h.now hclosed, hrest, entryAfter]

/-- **The table of resolvers is open.** Take any world, whatever has happened to it, and an entry
under a key that its tables do not have.

* A step that the old table does not leave open gives the same answer with both tables, and the
  same world but for the new entry.
* A step that it leaves open is one of three: resolving a handle whose row has the new key for its
  type, minting for an object that nobody recognises, and looking for the handle of such an object.
  The old table declines it and nothing changes; with both tables it goes as it would with the new
  entry alone.
* A run in which the old table refuses nothing for its type or kind, and the handles of recognised
  objects only are looked for, gives the same answers with both tables, and ends in the same world
  but for the new entry. -/
theorem resolver_table_open (h : w.Admits e entry) :
    (∀ s, ¬w.Open e.key s → (w.extended e entry).step s =
      ((w.step s).1.extended (s.entryBehind e (entry w.site)) entry, (w.step s).2)) ∧
    (∀ s, w.Open e.key s → (w.step s).1 = w ∧ (w.step s).2.result = s.declined e.key ∧
      (w.extended e entry).step s =
        ({ w with db := ((w.only e).step s).1.db }.extended e entry, ((w.only e).step s).2)) ∧
    ∀ ss, (∀ p ∈ w.passages ss, p.Served) → (w.extended e entry).run ss =
      ((w.run ss).1.extended (w.entryAfter e entry ss) entry, (w.run ss).2) :=
  ⟨fun _ => step_extended h.now,
    fun _ hopen => ⟨(declined_of_open h.now hopen).1, (declined_of_open h.now hopen).2,
      step_of_open h.now hopen⟩,
    fun _ => run_extended h⟩

/-- Collections are added, whose resolver puts the type of items on its records. Items keep their
answers, also when the registry is built anew. A row with the type of collections is resolved now;
and the handle of a collection is looked for as that of an item. -/
theorem resolver_table_open_beside_items :
    let entry : Site → ResolverEntry := fun _ =>
      ⟨.collection, .collection .item ["COLLECTION"] [5] (.text "http://c") "collection.url"⟩
    let site : Site := ⟨.text "10.1", .text "http://a", .text "none", false⟩
    let w := start site defaultTable true
    let wider := start site (fun s => (defaultTable s).set (entry s)) true
    let past := [Step.insertRecord ⟨7, "10.1/7", some 3, some 5⟩, .createHandle (.item (some 5)),
      .findHandle (.item (some 5)), .setSetting "handle_item_url_prefix" (.text "http://b"),
      .rebuild, .resolveUrl (some "10.1/1")]
    let resolve := Step.resolveUrl (some "10.1/7")
    let find := Step.findHandle (.tagged "COLLECTION" (some 5))
    (wider.run past).2 = (w.run past).2 ∧
    ((w.run past).1.step resolve).2.result = .error (.handle (.unsupportedType 3)) ∧
    ((wider.run past).1.step resolve).2.result = .ok (.text "http://c/10.1/7") ∧
    ((w.run past).1.step find).2.result = .ok .nothing ∧
    ((wider.run past).1.step find).2.result = .ok (.text "10.1/1") := by
  intro entry site w wider past resolve find
  have hbuilt : ∀ s, (entry s).key ∉ (defaultTable s).keys := by
    intro s
    show ResourceType.collection ∉ [ResourceType.item]
    decide
  have hok : ∀ p ∈ w.passages past, p.answer.result.isOk = true := by decide +kernel
  have hknown : ∀ p ∈ w.passages past,
      (p.before.registry.table.identify? (.item (some 5))).isSome = true := by decide +kernel
  have hserved : ∀ p ∈ w.passages past, p.Served := by
    intro p hp
    refine ⟨fun refusal hrefused => ?_, fun object hstep => ?_⟩
    · have hanswered := hok p hp
      rw [hrefused] at hanswered
      cases hanswered
    · have hobject : object = .item (some 5) := by
        have hmem := step_of_mem_passages hp
        rw [hstep] at hmem
        simpa [past] using hmem
      by_contra hnobody
      have hnone := ResolverTable.identify?_eq_none.2 (by simpa using hnobody)
      simpa [← hobject, hnone] using hknown p hp
  have hadmits : w.Admits (entry site) entry := ⟨hbuilt site, hbuilt⟩
  have hafter : (w.run past).1.Admits (entry site) entry := hadmits.run past
  have hwider : wider = w.extended (entry site) entry := (extended_start ..).symm
  have hrun : wider.run past =
      ((w.run past).1.extended (w.entryAfter (entry site) entry past) entry, (w.run past).2) := by
    rw [hwider]
    exact (resolver_table_open hadmits).2.2 past hserved
  have hentry : w.entryAfter (entry site) entry past = entry site := rfl
  obtain ⟨-, hopen, -⟩ := resolver_table_open hafter
  have hasks : (w.run past).1.Open .collection resolve :=
    ⟨⟨7, "10.1/7", some 3, some 5⟩, ⟨by decide +kernel, by decide +kernel, by decide⟩, rfl, rfl,
      nofun⟩
  have hnobody : (w.run past).1.Open .collection find := by
    show ∀ e ∈ (w.run past).1.registry.table.entries, _
    decide +kernel
  have hresolved : (((w.run past).1.only (entry site)).step resolve).2.result =
      .ok (.text "http://c/10.1/7") := by decide +kernel
  have hfound : (((w.run past).1.only (entry site)).step find).2.result =
      .ok (.text "10.1/1") := by decide +kernel
  obtain ⟨-, hresolve, hresolve'⟩ := hopen resolve hasks
  obtain ⟨-, hfind, hfind'⟩ := hopen find hnobody
  rw [hrun, hentry]
  generalize w.run past = behind at hresolve hresolve' hresolved hfind hfind' hfound ⊢
  refine ⟨rfl, hresolve, ?_, hfind, ?_⟩
  · rw [hresolve']
    exact hresolved
  · rw [hfind']
    exact hfound

end World

end PersistentId
