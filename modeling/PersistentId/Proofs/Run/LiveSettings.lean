import Mathlib
import PersistentId.Proofs.Registry.Resolution
import PersistentId.Proofs.Run.Effect
import PersistentId.Proofs.Run.View
import PersistentId.Proofs.Service.Endpoints

/-!
# PersistentId.Proofs.Run.LiveSettings

**Live and captured settings.** A site at work has settings that can be assigned at any time.
Minting reads the prefix of handles whenever `create_handle` is called. The base of the addresses
of items is copied into the table by `default_resolvers`, where the registry is built, so
resolving keeps the base of that time. A service builds its registry in `background_tasks`, and
keeps it: its answers use the base of its start, whatever is assigned while it runs.

What is in force can be read off the steps so far (`Step.inForce`): it is the last value that was
assigned, or the first one of all. Up to the last rebuild, this gives what the registry has captured
(`Step.upToRebuild`). That both are so is an invariant of runs, shown by induction on the steps.

That an assignment to the base goes unnoticed until the next rebuild is shown with two worlds that
differ in the live base only (`World.withItemUrl`). A step that neither builds the registry nor is a
request answers alike in both, and leads to two worlds of this kind again.
-/

namespace PersistentId

namespace Step

/-- The value that a step assigns to the setting of a name. -/
def assigned? (name : String) : Step → Option LiveValue
  | .setSetting assigned value => if assigned = name then some value else none
  | _ => none

/-- The value of a setting behind some steps: the one that was assigned last, if there is any. -/
def inForce (name : String) (initial : LiveValue) (ss : List Step) : LiveValue :=
  (ss.filterMap (·.assigned? name)).getLast?.getD initial

def isRebuild : Step → Bool
  | .rebuild => true
  | _ => false

/-- Whether a step assigns the base of the addresses of items. -/
def assignsItemUrl (s : Step) : Bool := (s.assigned? "handle_item_url_prefix").isSome

/-- Whether a step reads the base of the addresses of items that is in force: to build the registry
anew, or to answer a request. -/
def readsItemUrl : Step → Bool
  | .rebuild => true
  | .http _ _ => true
  | _ => false

/-- The steps up to the last one that built the registry. If none did, the registry is that of the
start, and there are no steps before it. -/
def upToRebuild (ss : List Step) : List Step := ss.rdropWhile (!·.isRebuild)

/-- A step at the end has the last word. -/
theorem inForce_concat (name : String) (initial : LiveValue) (ss : List Step) (s : Step) :
    inForce name initial (ss ++ [s]) = (s.assigned? name).getD (inForce name initial ss) := by
  unfold inForce
  rw [List.filterMap_append, List.getLast?_append]
  cases h : s.assigned? name <;> simp [h]

theorem upToRebuild_concat_of_isRebuild {s : Step} (h : s.isRebuild = true) (ss : List Step) :
    upToRebuild (ss ++ [s]) = ss ++ [s] :=
  List.rdropWhile_concat_neg _ _ _ (by simp [h])

theorem upToRebuild_concat_of_not_isRebuild {s : Step} (h : s.isRebuild = false)
    (ss : List Step) : upToRebuild (ss ++ [s]) = upToRebuild ss :=
  List.rdropWhile_concat_pos _ _ _ (by simp [h])

end Step

namespace Site

/-- The site with a setting assigned. An assignment to what is no setting fails. -/
def assign (site : Site) (name : String) (value : LiveValue) : Site :=
  (site.set? name value).getD site

theorem handlePrefix_assign (site : Site) (name : String) (value : LiveValue) :
    (site.assign name value).handlePrefix =
      if name = "handle_prefix" then value else site.handlePrefix := by
  unfold assign set?
  split
  · rfl
  · rfl
  · rfl
  · rfl
  · next h _ _ _ =>
      rw [if_neg h]
      split <;> rfl

theorem itemUrlPrefix_assign (site : Site) (name : String) (value : LiveValue) :
    (site.assign name value).itemUrlPrefix =
      if name = "handle_item_url_prefix" then value else site.itemUrlPrefix := by
  unfold assign set?
  split
  · rfl
  · rfl
  · rfl
  · rfl
  · next h _ _ =>
      rw [if_neg h]
      split <;> rfl

/-- An assignment to another setting goes its way whatever the base is. -/
theorem set?_withItemUrl (site : Site) {name : String} (h : name ≠ "handle_item_url_prefix")
    (v value : LiveValue) :
    ({ site with itemUrlPrefix := v } : Site).set? name value =
      (site.set? name value).map fun assigned => { assigned with itemUrlPrefix := v } := by
  unfold set?
  split
  · rfl
  · exact absurd rfl h
  · rfl
  · rfl
  · split <;> rfl

end Site

namespace Http

/-- What is sent of a response, which has no body where only its head is asked for. -/
def cut (method : String) (response : Response) : Response :=
  if method = "HEAD" then response.withoutBody else response

theorem sent_eq_cut (method : String) (result : Except Fault Response) :
    sent method result = cut method (sent "GET" result) := rfl

/-- A redirect sends what the address of its handle says, whatever the method. -/
theorem close_redirect {a : Asked} {handle : String} (h : a.route = .redirect handle)
    (r : Registry) (db : Database) :
    (close a (respond r db a.target a.route)).1 =
      cut a.method (ofLookup (leadFrom handle) (r.resolveUrl db (some handle)).result) := by
  rw [h, close, sent_eq_cut, sent_redirect]

end Http

namespace World

/-! ### What is in force, and what is captured -/

/-- Settings change by assignments only. -/
theorem site_step (w : World) (s : Step) :
    (w.step s).1.site = match s with
      | .setSetting name value => w.site.assign name value
      | _ => w.site := by
  rcases w.frame s with ⟨db, h⟩ | ⟨name, value, site, rfl, hset, h⟩ | ⟨rfl, -⟩
  · cases s with
    | setSetting name value =>
        simp only [step, Site.assign]
        cases w.site.set? name value <;> rfl
    | _ => rw [h]
  · simp only [h, Site.assign, hset, Option.getD_some]
  · rfl

theorem handlePrefix_step (w : World) (s : Step) :
    (w.step s).1.site.handlePrefix = (s.assigned? "handle_prefix").getD w.site.handlePrefix := by
  rw [site_step]
  cases s with
  | setSetting name value =>
      simp only [Site.handlePrefix_assign, Step.assigned?]
      split <;> rfl
  | _ => rfl

theorem itemUrlPrefix_step (w : World) (s : Step) :
    (w.step s).1.site.itemUrlPrefix =
      (s.assigned? "handle_item_url_prefix").getD w.site.itemUrlPrefix := by
  rw [site_step]
  cases s with
  | setSetting name value =>
      simp only [Site.itemUrlPrefix_assign, Step.assigned?]
      split <;> rfl
  | _ => rfl

/-- The registry changes where it is built anew, and nowhere else. -/
theorem registry_of_not_isRebuild (w : World) {s : Step} (h : s.isRebuild = false) :
    (w.step s).1.registry = w.registry := by
  rcases w.frame s with ⟨db, hstep⟩ | ⟨name, value, site, -, -, hstep⟩ | ⟨rfl, -⟩
  · rw [hstep]
  · rw [hstep]
  · cases h

/-- What is known of a site behind some steps: the settings in force are the last ones assigned, and
the registry has the base that was in force when it was built. -/
structure Configured (site : Site) (measured : Bool) (past : List Step) (w : World) : Prop where
  table : w.table = defaultTable
  handlePrefix : w.site.handlePrefix = Step.inForce "handle_prefix" site.handlePrefix past
  itemUrlPrefix :
    w.site.itemUrlPrefix = Step.inForce "handle_item_url_prefix" site.itemUrlPrefix past
  registry : w.registry =
    ⟨.items (Step.inForce "handle_item_url_prefix" site.itemUrlPrefix (Step.upToRebuild past)),
      measured⟩

theorem configured_step {site : Site} {measured : Bool} {past : List Step} {w : World}
    (h : Configured site measured past w) (s : Step) :
    Configured site measured (past ++ [s]) (w.step s).1 where
  table := (w.registry_step s).1.trans h.table
  handlePrefix := by rw [handlePrefix_step, Step.inForce_concat, h.handlePrefix]
  itemUrlPrefix := by rw [itemUrlPrefix_step, Step.inForce_concat, h.itemUrlPrefix]
  registry := by
    cases hs : s.isRebuild with
    | false =>
        rw [registry_of_not_isRebuild w hs, Step.upToRebuild_concat_of_not_isRebuild hs, h.registry]
    | true =>
        obtain rfl : s = .rebuild := by cases s <;> first | rfl | cases hs
        rw [Step.upToRebuild_concat_of_isRebuild hs, Step.inForce_concat, ← h.itemUrlPrefix]
        have hbuilt : (w.step .rebuild).1.registry = ⟨w.table w.site, w.registry.measured⟩ := rfl
        rw [hbuilt, h.table, h.registry]
        rfl

/-- Every new site stays configured. -/
theorem configured_run (site : Site) (measured : Bool) (scan : Scan) (past : List Step) :
    Configured site measured past ((start site defaultTable measured scan).run past).1 := by
  induction past using List.reverseRecOn with
  | nil => exact ⟨rfl, rfl, rfl, rfl⟩
  | append_singleton past s ih =>
      rw [run_append]
      exact configured_step ih s

/-! ### Assignments that go unnoticed -/

/-- The world with another base in force for the addresses of items. -/
def withItemUrl (w : World) (v : LiveValue) : World :=
  { w with site := { w.site with itemUrlPrefix := v } }

theorem ask_withItemUrl (w : World) (v : LiveValue) (o : Outcome RegistryError α)
    (f : α → Answer) :
    (w.withItemUrl v).ask o f = ((w.ask o f).1.withItemUrl v, (w.ask o f).2) := by
  unfold ask
  split <;> rfl

theorem change_withItemUrl (w : World) (v : LiveValue) (r : Except StoreError Database)
    (a : Answer) :
    (w.withItemUrl v).change r a = ((w.change r a).1.withItemUrl v, (w.change r a).2) := by
  cases r <;> rfl

/-- A step that does not read the base goes the same way whatever the base is. -/
theorem step_withItemUrl (w : World) (v : LiveValue) {s : Step} (h : s.readsItemUrl = false) :
    (w.withItemUrl v).step s =
      ((w.step s).1.withItemUrl ((s.assigned? "handle_item_url_prefix").getD v), (w.step s).2) := by
  cases s with
  | rebuild | http => cases h
  | resolveUrl | resolveObject | findHandle | listPrefix => exact ask_withItemUrl w v _ _
  | storeFind | storeFindResource | storeFindPrefix | findItem => exact ask_withItemUrl w v _ _
  | createHandle object =>
      exact ask_withItemUrl
        { w with db := (w.registry.createHandle w.site.handlePrefix w.db object).1 } v _ _
  | storeInsert | addItem | deleteItem | insertRecord | insertWithoutHandle =>
      exact change_withItemUrl w v _ _
  | storeAllocate =>
      have hallocate : (w.withItemUrl v).db.allocate = w.db.allocate := rfl
      simp only [step, hallocate]
      cases w.db.allocate <;> rfl
  | setSetting name value =>
      by_cases hname : name = "handle_item_url_prefix"
      · subst hname
        rfl
      · have hset := w.site.set?_withItemUrl hname v value
        simp only [step, withItemUrl, hset, Step.assigned?, if_neg hname]
        cases w.site.set? name value <;> rfl
  | canonical | commit | rollback | setSequence | setReachable | command => rfl

/-- A request goes another way, but leads to the same world. -/
theorem world_step_withItemUrl (w : World) (v : LiveValue) {s : Step} (h : s.isRebuild = false) :
    ((w.withItemUrl v).step s).1 =
      (w.step s).1.withItemUrl ((s.assigned? "handle_item_url_prefix").getD v) := by
  cases hreads : s.readsItemUrl with
  | false => exact congrArg Prod.fst (w.step_withItemUrl v hreads)
  | true =>
      cases s with
      | http => rfl
      | rebuild => cases h
      | _ => cases hreads

theorem step_of_assignsItemUrl (w : World) {s : Step} (h : s.assignsItemUrl = true) :
    (w.step s).1 =
      w.withItemUrl ((s.assigned? "handle_item_url_prefix").getD w.site.itemUrlPrefix) := by
  cases s with
  | setSetting name value =>
      by_cases hname : name = "handle_item_url_prefix"
      · subst hname
        rfl
      · simp [Step.assignsItemUrl, Step.assigned?, hname] at h
  | _ => cases h

/-- The answers of the steps that neither assign the base of the addresses of items nor read the one
in force. -/
def settledAnswers (w : World) (ss : List Step) : List (Outcome StepError Answer) :=
  ((w.passages ss).filter fun p => !p.step.assignsItemUrl && !p.step.readsItemUrl).map
    Passage.answer

theorem settledAnswers_cons (w : World) (s : Step) (rest : List Step) :
    w.settledAnswers (s :: rest) =
      (if !s.assignsItemUrl && !s.readsItemUrl then [(w.step s).2] else []) ++
        (w.step s).1.settledAnswers rest := by
  unfold settledAnswers
  rw [passages_cons, List.filter_cons]
  split <;> rfl

/-- Without a rebuild, these answers are what they are without any assignment to the base. -/
theorem settledAnswers_withItemUrl (w : World) (v : LiveValue) {ss : List Step}
    (h : ∀ s ∈ ss, s.isRebuild = false) :
    (w.withItemUrl v).settledAnswers ss =
      w.settledAnswers (ss.filter (!·.assignsItemUrl)) := by
  induction ss generalizing w v with
  | nil => rfl
  | cons s rest ih =>
      have hrest := fun t ht => h t (List.mem_cons_of_mem s ht)
      rw [settledAnswers_cons]
      cases hassigns : s.assignsItemUrl with
      | true =>
          -- The base is another one now, and nothing else is.
          rw [List.filter_cons_of_neg (by simp [hassigns]), step_of_assignsItemUrl _ hassigns]
          exact ih w _ hrest
      | false =>
          rw [List.filter_cons_of_pos (by simp [hassigns]), settledAnswers_cons, hassigns,
            w.world_step_withItemUrl v (h s List.mem_cons_self), ih _ _ hrest]
          cases hreads : s.readsItemUrl with
          | true => rfl
          | false => rw [w.step_withItemUrl v hreads]

/-- So two runs that differ in assignments to the base only give the same answers, but for requests.
-/
theorem settledAnswers_eq (w : World) {ss ss' : List Step} (h : ∀ s ∈ ss, s.isRebuild = false)
    (h' : ∀ s ∈ ss', s.isRebuild = false)
    (hsame : ss.filter (!·.assignsItemUrl) = ss'.filter (!·.assignsItemUrl)) :
    w.settledAnswers ss = w.settledAnswers ss' := by
  have hss := w.settledAnswers_withItemUrl w.site.itemUrlPrefix h
  have hss' := w.settledAnswers_withItemUrl w.site.itemUrlPrefix h'
  rw [hsame] at hss
  exact hss.trans hss'.symm

/-! ### Minting, resolving and requests -/

/-- Minting goes by a prefix: a handle that is given out begins with it, nothing is minted without
it, and where there is a text, only the database or the kind of the object can stand in the way. -/
structure MintsUnder (w : World) (prefixed : LiveValue) (object : Resource) : Prop where
  minted : ∀ handle, (w.step (.createHandle object)).2.result = .ok (.text handle) →
    ∃ text, prefixed = .text text ∧ text ≠ "" ∧ handle = Handle.compose text w.db.sequence
  refused : prefixed.isEmpty = true →
    (w.step (.createHandle object)).2 = .fail (.handle (.settingNotSet "handle.prefix"))
  misconfigured : ∀ kind, prefixed = .other kind false →
    ∀ answer, (w.step (.createHandle object)).2.result ≠ .ok answer
  mints : ∀ text, prefixed = .text text → text ≠ "" → w.db.reachable = true →
    w.registry.table.identify? object ≠ none →
    (w.step (.createHandle object)).2.result = .ok (.text (Handle.compose text w.db.sequence)) ∨
      (w.step (.createHandle object)).2.result = .error (.store .conflict) ∨
      (w.step (.createHandle object)).2.result = .error (.store .unfit)

/-- A prefix that passes the checks of the registry is no empty text. -/
theorem ne_empty_of_mintable {r : Registry} {text : String} {object : Resource}
    {found : Resolver × Int} (h : r.mintable (.text text) object = .ok found) : text ≠ "" := by
  rintro rfl
  exact absurd (Registry.mintable_eq_ok.1 h).1 (by decide)

/-- Minting goes by the prefix that is in force at the call. -/
theorem mintsUnder_handlePrefix (w : World) (object : Resource) :
    w.MintsUnder w.site.handlePrefix object := by
  obtain ⟨db, o, hends, hstep⟩ := w.step_createHandle object
  refine ⟨fun handle h => ?_, fun h => ?_, fun kind h answer hanswer => ?_,
    fun text h hne hup hkind => ?_⟩
  · rw [hstep] at h
    cases hends with
    | stored hm _ hsite =>
        cases h
        exact ⟨_, hsite, ne_empty_of_mintable (hsite ▸ hm), rfl⟩
    | refused => cases h
    | cutOff => cases h
    | noText => cases h
    | unfit => cases h
    | clash => cases h
  · simp only [step, Registry.createHandle, Registry.mintable, h, if_true]
    rfl
  · rw [hstep] at hanswer
    cases hends with
    | stored _ _ hsite => simp [h] at hsite
    | refused => cases hanswer
    | cutOff => cases hanswer
    | noText => cases hanswer
    | unfit => cases hanswer
    | clash => cases hanswer
  · rw [hstep]
    obtain ⟨found, hfound⟩ := Option.ne_none_iff_exists'.1 hkind
    have hm : w.registry.mintable w.site.handlePrefix object = .ok found :=
      Registry.mintable_eq_ok.2 ⟨by simpa [h] using hne, hfound⟩
    cases hends with
    | stored _ _ hsite =>
        obtain rfl := LiveValue.text.inj (h.symm.trans hsite)
        exact .inl rfl
    | clash => exact .inr (.inl rfl)
    | unfit => exact .inr (.inr rfl)
    | refused hrefused => simp [hm] at hrefused
    | cutOff _ hdown => simp [hup] at hdown
    | noText _ _ hsite => simp [h] at hsite

/-- Resolving a handle goes by a base, under which its object is published. -/
structure PublishesUnder (w : World) (base : LiveValue) (handle : String) : Prop where
  address : ∀ text, base = .text text → text ≠ "" →
    (w.step (.resolveUrl (some handle))).2.result =
      .ok (.text (Handle.withTrailingSlash text ++ handle))
  unpublished : base.isEmpty = true →
    (w.step (.resolveUrl (some handle))).2.result =
      .error (.handle (.settingNotSet "handle.item.url.prefix"))
  misconfigured : ∀ kind, base = .other kind false →
    (w.step (.resolveUrl (some handle))).2.result =
      .error (.setting ⟨kind, Registry.slashOperation⟩)

theorem publishesUnder_of_row {w : World} {base : LiveValue} {record : Record} {id : Int}
    (htable : w.registry.table = .items base) (hup : w.db.reachable = true)
    (hrow : record ∈ w.db.session.records.rows) (hhandle : record.handle ≠ "")
    (htype : record.type = some ResourceType.item.code) (hresource : record.resource = some id) :
    w.PublishesUnder base record.handle := by
  have hentry : (⟨.item, .items base⟩ : ResolverEntry) ∈ w.registry.table.entries := by
    rw [htable]
    exact List.mem_singleton.2 rfl
  have hstands := Registry.standsFor_of_row hup hrow hhandle hentry htype hresource
  constructor
  · intro text htext hne
    exact (result_ask _ _ _).trans (by rw [hstands.address text htext hne]; rfl)
  · intro hempty
    exact (result_ask _ _ _).trans (by rw [hstands.unpublished hempty]; rfl)
  · intro kind hkind
    exact (result_ask _ _ _).trans (by rw [hstands.misconfigured kind hkind]; rfl)

/-- A request that asks for something is answered by the service that is started for it. -/
theorem step_http_of_asked {w : World} {method target : String} {a : Http.Asked}
    (hstart : (Startup.opening w.site).result = .ok ())
    (hasked : Http.asked? method target = some a) :
    let served := Http.close a
      (Http.respond ⟨.items w.site.itemUrlPrefix, true⟩ w.db a.target a.route)
    (w.step (.http method target)).2 = ⟨.ok (.response served.1), served.2⟩ := by
  have hview : w.db.commit.SameView w.db := ⟨rfl, rfl, rfl⟩
  simp only [step, request, hstart, Http.Service.serve_of_asked hasked, hview.respond]
  rfl

/-- No service is started for a request that the settings give no backend for. -/
theorem step_http_of_not_started {w : World} {e : Backend.Refusal}
    (hstart : (Startup.opening w.site).result = .error e) (method target : String) :
    (w.step (.http method target)).2.result = .error (.backend e) := by
  simp only [step, request, hstart]

/-- A redirect to an address has its text in a header, whatever the method. -/
theorem location_cut_leadFrom {handle url location : String} (method : String)
    (h : Location.canonical url = .ok location) :
    let response := Http.cut method (Http.ofLookup (Http.leadFrom handle) (.ok (some url)))
    response.status = 302 ∧ response.location = some location := by
  simp only [Http.cut, Http.ofLookup, Http.leadFrom, h, Http.follow]
  split <;> exact ⟨rfl, rfl⟩

/-- **Live and captured settings.** Take a new site with the default table and any steps, among them
any assignments to its settings. Let a prefix of handles and a base of addresses be in force behind
them, and let a base have been in force when the registry was built last. Then:

* minting goes by the prefix in force;
* resolving goes by the base of the registry. Whatever happens from now on without another rebuild,
  two runs that differ in assignments to the base only give the same answers to all steps but
  these assignments and requests;
* a service that was started behind any steps answers every request as the registry built from
  the settings of that moment would, whatever steps follow;
* the request of a step is answered by a service that starts with the settings in force, if it
  starts;
* right after building the registry anew, it has the base in force. So has a service that starts
  now: where the registry gives an address, its redirect leads there. -/
theorem settings_live_and_captured (site : Site) (measured : Bool) (scan : Scan)
    (past : List Step) :
    let first := start site defaultTable measured scan
    let w := (first.run past).1
    let prefixNow := Step.inForce "handle_prefix" site.handlePrefix past
    let baseNow := Step.inForce "handle_item_url_prefix" site.itemUrlPrefix past
    let baseBuilt :=
      Step.inForce "handle_item_url_prefix" site.itemUrlPrefix (Step.upToRebuild past)
    let rebuilt := (w.step .rebuild).1
    (∀ object, w.MintsUnder prefixNow object) ∧
    (w.db.reachable = true → ∀ record ∈ w.db.session.records.rows, record.handle ≠ "" →
      record.type = some ResourceType.item.code → record.resource ≠ none →
      w.PublishesUnder baseBuilt record.handle) ∧
    (∀ ss ss', (∀ s ∈ ss, s.isRebuild = false) → (∀ s ∈ ss', s.isRebuild = false) →
      ss.filter (!·.assignsItemUrl) = ss'.filter (!·.assignsItemUrl) →
      w.settledAnswers ss = w.settledAnswers ss') ∧
    (∀ earlier,
      let service := Http.Service.start (first.run earlier).1.site
      let builtThen := (first.run (earlier ++ [.rebuild])).1.registry
      let baseThen := Step.inForce "handle_item_url_prefix" site.itemUrlPrefix earlier
      builtThen = ⟨.items baseThen, measured⟩ ∧
      ∀ later method target a, Http.asked? method target = some a →
        let db := (first.run (earlier ++ later)).1.db
        service.serve db method target =
          Http.close a (Http.respond ⟨builtThen.table, true⟩ db a.target a.route)) ∧
    (∀ method target,
      (∀ e, (Startup.opening w.site).result = .error e →
        (w.step (.http method target)).2.result = .error (.backend e)) ∧
      ∀ a, (Startup.opening w.site).result = .ok () → Http.asked? method target = some a →
        let served := Http.close a (Http.respond ⟨.items baseNow, true⟩ w.db a.target a.route)
        (w.step (.http method target)).2 = ⟨.ok (.response served.1), served.2⟩) ∧
    rebuilt.registry = ⟨.items baseNow, measured⟩ ∧
    ∀ handle,
      let address := (rebuilt.registry.resolveUrl rebuilt.db (some handle)).result
      (rebuilt.step (.resolveUrl (some handle))).2.result =
        (address.map Answer.ofText).mapError .ofRegistry ∧
      ∀ method target a, Http.asked? method target = some a → a.route = .redirect handle →
        let response := ((Http.Service.start rebuilt.site).serve rebuilt.db method target).1
        response = Http.cut a.method (Http.ofLookup (Http.leadFrom handle) address) ∧
        ∀ url location, address = .ok (some url) → Location.canonical url = .ok location →
          response.status = 302 ∧ response.location = some location := by
  intro first w prefixNow baseNow baseBuilt rebuilt
  have hnow : Configured site measured past w := configured_run site measured scan past
  have hbuilt : rebuilt.registry = ⟨.items baseNow, measured⟩ := by
    have hregistry : rebuilt.registry = ⟨w.table w.site, w.registry.measured⟩ := rfl
    rw [hregistry, hnow.table, hnow.registry, defaultTable, hnow.itemUrlPrefix]
  refine ⟨fun object => ?_, fun hup record hrow hhandle htype hresource => ?_,
    fun ss ss' h h' => w.settledAnswers_eq h h', fun earlier => ?_,
    fun method target => ⟨fun e hstart => step_http_of_not_started hstart method target,
      fun a hstart hasked => ?_⟩, hbuilt,
    fun handle => ⟨result_ask _ _ _, fun method target a hasked hroute => ?_⟩⟩
  · have hmint := w.mintsUnder_handlePrefix object
    rwa [hnow.handlePrefix] at hmint
  · obtain ⟨id, hid⟩ := Option.ne_none_iff_exists'.1 hresource
    exact publishesUnder_of_row (congrArg Registry.table hnow.registry) hup hrow hhandle htype hid
  · intro service builtThen baseThen
    have hthen : Configured site measured earlier (first.run earlier).1 :=
      configured_run site measured scan earlier
    have hrebuilt : builtThen = ⟨.items baseThen, measured⟩ := by
      have hafter : Configured site measured (earlier ++ [.rebuild])
          (first.run (earlier ++ [.rebuild])).1 :=
        configured_run site measured scan (earlier ++ [.rebuild])
      rw [show builtThen = _ from hafter.registry, Step.upToRebuild_concat_of_isRebuild rfl,
        Step.inForce_concat]
      rfl
    refine ⟨hrebuilt, ?_⟩
    intro later method target a hasked db
    -- The service has a registry of its own, of the same table.
    have hservice : service.registry = ⟨builtThen.table, true⟩ := by
      rw [hrebuilt]
      exact congrArg (fun base => (⟨.items base, true⟩ : Registry)) hthen.itemUrlPrefix
    rw [Http.Service.serve_of_asked hasked, hservice]
  · have hanswer := step_http_of_asked hstart hasked
    rwa [hnow.itemUrlPrefix] at hanswer
  · intro response
    have hresponse : response = Http.cut a.method (Http.ofLookup (Http.leadFrom handle)
        (rebuilt.registry.resolveUrl rebuilt.db (some handle)).result) := by
      have hserved : response = (Http.close a
          (Http.respond ⟨.items rebuilt.site.itemUrlPrefix, true⟩ rebuilt.db a.target a.route)).1 :=
        congrArg Prod.fst (Http.Service.serve_of_asked hasked (.start rebuilt.site) rebuilt.db)
      rw [hserved, Http.close_redirect hroute, hbuilt,
        ← Registry.result_resolveUrl_measured _ true measured]
      exact congrArg (fun base => Http.cut a.method (Http.ofLookup (Http.leadFrom handle)
        ((⟨.items base, true⟩ : Registry).resolveUrl rebuilt.db (some handle)).result))
        hnow.itemUrlPrefix
    refine ⟨hresponse, fun url location haddress hlocation => ?_⟩
    rw [hresponse, haddress]
    exact location_cut_leadFrom a.method hlocation

/-- The base is assigned twice, and the registry is built in between. A handle is resolved with the
first base and followed to the second one, until the registry is built again. A service that was
started before all of this still leads to the base of its start. Minting goes by the new prefix at
once. -/
theorem settings_live_and_captured_at_work :
    let site : Site := ⟨.text "10.1", .text "http://a", .text "none", false⟩
    let past := [Step.createHandle (.item (some 7)), .commit,
      .setSetting "handle_item_url_prefix" (.text "http://b"), .rebuild,
      .setSetting "handle_item_url_prefix" (.text "http://c"),
      .setSetting "handle_prefix" (.text "20.2")]
    let first := start site defaultTable true
    let w := (first.run past).1
    let rebuilt := (w.step .rebuild).1
    let resolve := Step.resolveUrl (some "10.1/1")
    (w.step resolve).2.result = .ok (.text "http://b/10.1/1") ∧
    ((Http.Service.start first.site).serve w.db "GET" "/handle/10.1/1").1.location =
      some "http://a/10.1/1" ∧
    ((Http.Service.start rebuilt.site).serve rebuilt.db "GET" "/handle/10.1/1").1.location =
      some "http://c/10.1/1" ∧
    (w.step (.createHandle (.item (some 8)))).2.result = .ok (.text "20.2/2") ∧
    w.settledAnswers [resolve, .setSetting "handle_item_url_prefix" .missing, resolve] =
      w.settledAnswers [resolve, resolve] := by
  intro site past first w rebuilt resolve
  have hlive := settings_live_and_captured site true .byId past
  have hrow : ⟨1, "10.1/1", some 2, some 7⟩ ∈ w.db.session.records.rows := by decide +kernel
  have hasked : Http.asked? "GET" "/handle/10.1/1" =
      some ⟨"GET", ⟨"/handle/10.1/1".toList, []⟩, .redirect "10.1/1"⟩ := by decide +kernel
  have hup : w.db.reachable = true := by decide +kernel
  have hkind : w.registry.table.identify? (.item (some 8)) ≠ none := by decide +kernel
  have hhandle : Handle.compose "20.2" w.db.sequence = "20.2/2" := by decide +kernel
  have hminted : (w.step (.createHandle (.item (some 8)))).2.result.isOk = true := by
    decide +kernel
  have haddress : ((⟨.items (.text "http://a"), true⟩ : Registry).resolveUrl w.db
      (some "10.1/1")).result = .ok (some "http://a/10.1/1") := by decide +kernel
  have haddress' : (rebuilt.registry.resolveUrl rebuilt.db (some "10.1/1")).result =
      .ok (some "http://c/10.1/1") := by decide +kernel
  have hlocation : Location.canonical "http://a/10.1/1" = .ok "http://a/10.1/1" := by
    decide +kernel
  have hlocation' : Location.canonical "http://c/10.1/1" = .ok "http://c/10.1/1" := by
    decide +kernel
  obtain ⟨hmint, hresolve, hsettled, hserved, -, -, hrebuilt⟩ := hlive
  refine ⟨(hresolve hup _ hrow (by decide) (by decide) nofun).address "http://b" rfl (by decide),
    ?_, ?_, ?_, hsettled _ _ (by decide) (by decide) rfl⟩
  · obtain ⟨hbase, hanswer⟩ := hserved []
    have hsent : ((Http.Service.start first.site).serve w.db "GET" "/handle/10.1/1").1 =
        Http.cut "GET" (Http.ofLookup (Http.leadFrom "10.1/1") (.ok (some "http://a/10.1/1"))) := by
      refine (congrArg Prod.fst (hanswer past "GET" _ _ hasked)).trans ?_
      rw [Http.close_redirect rfl, hbase]
      exact congrArg (fun result => Http.cut "GET" (Http.ofLookup (Http.leadFrom "10.1/1") result))
        haddress
    rw [hsent]
    exact (location_cut_leadFrom "GET" hlocation).2
  · exact (((hrebuilt "10.1/1").2 "GET" _ _ hasked rfl).2 _ _ haddress' hlocation').2
  · rcases (hmint (.item (some 8))).mints "20.2" rfl (by decide) hup hkind with h | h | h
    · rwa [hhandle] at h
    · rw [h] at hminted
      cases hminted
    · rw [h] at hminted
      cases hminted

/-- A service at work does not notice an assignment to the base, which a registry that is built now
does. And where the settings name no backend, no service starts that could answer. -/
theorem running_service_keeps_its_base :
    let first := start ⟨.text "10.1", .text "http://a", .text "none", false⟩ defaultTable true
    let service := Http.Service.start first.site
    let w := (first.run [.createHandle (.item (some 7)), .commit,
      .setSetting "handle_item_url_prefix" (.text "http://b"), .rebuild]).1
    let broken := (w.step (.setSetting "metrics_backend" (.text "bad"))).1
    let resolve := Step.resolveUrl (some "10.1/1")
    (w.step resolve).2.result = .ok (.text "http://b/10.1/1") ∧
    (service.serve w.db "GET" "/handle/10.1/1").1.location = some "http://a/10.1/1" ∧
    (broken.step resolve).2.result = .ok (.text "http://b/10.1/1") ∧
    (broken.step (.http "GET" "/handle/10.1/1")).2.result = .error (.backend (.unknown "bad")) :=
  ⟨by decide +kernel, by decide +kernel, by decide +kernel, by decide +kernel⟩

end World

end PersistentId
