import PersistentId.CommandLine.Run
import PersistentId.Http.Service
import PersistentId.Service.Startup

/-!
# PersistentId.World

A site at work: its live settings, its registry and its database, and the steps that
happen to them.

Design points:

* A step gives an answer and the world behind it. A run is a list of steps; each one
  starts where the one before it ended, whether that one failed or not.
* A step that fails in the store is followed by a rollback.
* Settings can be changed at any time. Minting uses the prefix in force; the registry
  keeps the table it was built with until it is built anew.
* A request and a command have sessions of their own, which see what is committed. It is a
  **convention of the runs**, and nothing the program does, that the caller commits before
  either of them: so there is one session to follow, and a run in which the caller does not
  commit is one with a rollback in front of the step.
* A request is answered by a service that is started for it, if it starts, and a command
  builds a registry from its own settings. A service that stays at work while settings
  change is `Http.Service`.
* A new site keeps its rows by id, unless another scan is given.
-/

namespace PersistentId

/-- A site at work. -/
structure World where
  /-- The live settings. -/
  site : Site
  /-- How the table of resolvers is built from the settings. -/
  table : Site → ResolverTable
  registry : Registry
  db : Database

/-- Something that happens to a site. -/
inductive Step
  | resolveUrl (handle : Option String)
  | resolveObject (handle : Option String)
  | findHandle (object : Resource)
  | createHandle (object : Resource)
  | listPrefix (start : Option String)
  | canonical (handle : String)
  | storeFind (handle : String)
  | storeFindResource (type : ResourceType) (resource : Int)
  | storeFindPrefix (start : String)
  | storeAllocate
  | storeInsert (id : Int) (handle : String) (type : ResourceType) (resource : Int)
  | findItem (id : Int)
  | addItem (id : Int)
  | deleteItem (id : Int)
  /-- A row that was not minted. -/
  | insertRecord (record : Record)
  /-- A row that has no handle. -/
  | insertWithoutHandle
  | commit
  | rollback
  /-- Sets the next value of the sequence. -/
  | setSequence (next : Int)
  /-- Whether the database can be reached from now on. -/
  | setReachable (reachable : Bool)
  /-- Sets a setting at work, without a check of the value. -/
  | setSetting (name : String) (value : LiveValue)
  /-- Builds the registry anew. -/
  | rebuild
  | http (method target : String)
  | command (arguments : List String) (environment : List (String × String))

/-- What a step answers. -/
inductive Answer
  | nothing
  | text (s : String)
  | texts (ss : List String)
  | number (n : Int)
  | object (r : Resource)
  | record (r : Record)
  | response (r : Response)
  | report (r : CommandLine.Report)
  deriving DecidableEq

/-- Why a step failed. -/
inductive StepError
  | handle (e : HandleError)
  | store (e : StoreError)
  | settings (problems : List Problem)
  /-- A setting that has to be a text is none. -/
  | setting (e : NotText)
  /-- There is no setting of a name. -/
  | unknownSetting (name : String)
  /-- The service does not start. -/
  | backend (e : Backend.Refusal)
  deriving DecidableEq

namespace Answer

/-- The answer of a look-up for a text. -/
def ofText : Option String → Answer
  | some s => text s
  | none => nothing

/-- The answer of a look-up for an object. -/
def ofObject : Option Resource → Answer
  | some r => object r
  | none => nothing

/-- The answer of a look-up for a record. -/
def ofRecord : Option Record → Answer
  | some r => record r
  | none => nothing

/-- The answer of a listing whose order does not matter: by code point. -/
def sorted (ss : List String) : Answer := texts (ss.mergeSort fun a b => decide (a ≤ b))

end Answer

namespace World

/-- The table used unless another one is given: items only. -/
def defaultTable (site : Site) : ResolverTable := .items site.itemUrlPrefix

/-- The world with its registry built anew. -/
def rebuild (w : World) : World :=
  { w with registry := { w.registry with table := w.table w.site } }

/-- A new site, with or without a sink for counters, whose listings meet the rows in the
order of a scan. -/
def start (site : Site) (table : Site → ResolverTable) (measured : Bool) (scan : Scan := .byId) :
    World where
  site := site
  table := table
  registry := ⟨table site, measured⟩
  db := { Database.empty with scan := scan }

/-- A step that only asks the registry. -/
def ask (w : World) (o : Outcome RegistryError α) (f : α → Answer) :
    World × Outcome StepError Answer :=
  match o.result with
  | .ok a => (w, ⟨.ok (f a), o.events⟩)
  | .error (.handle e) => (w, ⟨.error (.handle e), o.events⟩)
  | .error (.store e) => ({ w with db := w.db.rollback }, ⟨.error (.store e), o.events⟩)
  | .error (.setting e) => (w, ⟨.error (.setting e), o.events⟩)

/-- A step that only asks the store. -/
def query (w : World) (r : Except StoreError α) (f : α → Answer) :
    World × Outcome StepError Answer :=
  w.ask (Registry.execute r) f

/-- A step that changes the database, or fails and is rolled back. -/
def change (w : World) (r : Except StoreError Database) (a : Answer) :
    World × Outcome StepError Answer :=
  match r with
  | .ok db => ({ w with db := db }, pure a)
  | .error e => ({ w with db := w.db.rollback }, .fail (.store e))

/-- A step that cannot fail. -/
def done (w : World) : World × Outcome StepError Answer := (w, pure .nothing)

/-- What a command comes to as a step. -/
def ofCommand (w : World) (o : Outcome CommandLine.RunError CommandLine.Report) :
    World × Outcome StepError Answer :=
  (w, match o.result with
    | .ok report => ⟨.ok (.report report), o.events⟩
    | .error (.settings problems) => ⟨.error (.settings problems), o.events⟩
    | .error (.store e) => ⟨.error (.store e), o.events⟩
    | .error (.setting e) => ⟨.error (.setting e), o.events⟩)

/-- What a request comes to. A service is started for it, which is not told unless it
fails. -/
def request (w : World) (method target : String) : Outcome StepError Answer :=
  let opened := Startup.opening w.site
  match opened.result with
  | .error e => ⟨.error (.backend e), opened.events⟩
  | .ok () =>
    let (response, events) := (Http.Service.start w.site).serve w.db method target
    ⟨.ok (.response response), events⟩

/-- One step: the world behind it, and its answer. -/
def step (w : World) : Step → World × Outcome StepError Answer
  | .resolveUrl handle => w.ask (w.registry.resolveUrl w.db handle) .ofText
  | .resolveObject handle => w.ask (w.registry.resolveObject w.db handle) .ofObject
  | .findHandle object => w.ask (w.registry.findHandle w.db object) .ofText
  | .createHandle object =>
    let (db, o) := w.registry.createHandle w.site.handlePrefix w.db object
    { w with db := db }.ask o .text
  | .listPrefix start => w.ask (Registry.handlesWith w.db start) .sorted
  | .canonical handle => (w, pure (.text (Handle.canonical handle)))
  | .storeFind handle => w.query (w.db.findRecord handle) .ofRecord
  | .storeFindResource type resource => w.query (w.db.findHandle type resource) .ofText
  | .storeFindPrefix start => w.query (w.db.findHandlesWith start) .sorted
  | .storeAllocate =>
    match w.db.allocate with
    | .ok (n, db) => ({ w with db := db }, pure (.number n))
    | .error e => ({ w with db := w.db.rollback }, .fail (.store e))
  | .storeInsert id handle type resource =>
    let record : Record := ⟨id, handle, some type.code, some resource⟩
    w.change (w.db.insertRecord record) (.text record.cut.handle)
  | .findItem id =>
    w.query (w.db.hasItem id) fun found => if found then .object (.item (some id)) else .nothing
  | .addItem id => w.change (w.db.addItem id) .nothing
  | .deleteItem id => w.change (w.db.deleteItem id) .nothing
  | .insertRecord record => w.change (w.db.insertRecord record) .nothing
  | .insertWithoutHandle => w.change w.db.insertWithoutHandle .nothing
  | .commit => { w with db := w.db.commit }.done
  | .rollback => { w with db := w.db.rollback }.done
  | .setSequence next => { w with db := { w.db with sequence := next } }.done
  | .setReachable reachable => { w with db := { w.db with reachable := reachable } }.done
  | .setSetting name value =>
    match w.site.set? name value with
    | some site => { w with site := site }.done
    | none => (w, .fail (.unknownSetting name))
  | .rebuild => w.rebuild.done
  | .http method target =>
    -- The caller commits, so that the session of the service sees the same rows.
    let w := { w with db := w.db.commit }
    (w, w.request method target)
  | .command arguments environment =>
    let w := { w with db := w.db.commit }
    w.ofCommand (CommandLine.run w.db environment arguments)

/-- A run: the world behind the last step, and the answer of every step. -/
def run (w : World) : List Step → World × List (Outcome StepError Answer)
  | [] => (w, [])
  | s :: rest =>
    let (next, answer) := w.step s
    let (last, answers) := next.run rest
    (last, answer :: answers)

@[simp] theorem run_nil (w : World) : w.run [] = (w, []) := rfl

theorem run_cons (w : World) (s : Step) (rest : List Step) :
    w.run (s :: rest) =
      (((w.step s).1.run rest).1, (w.step s).2 :: ((w.step s).1.run rest).2) := rfl

/-- A run of two lists of steps is the run of the second where the first one ended. -/
theorem run_append (w : World) (ss ts : List Step) :
    w.run (ss ++ ts) = (((w.run ss).1.run ts).1, (w.run ss).2 ++ ((w.run ss).1.run ts).2) := by
  induction ss generalizing w with
  | nil => rfl
  | cons s ss ih => simp [run_cons, ih]

end World

end PersistentId
