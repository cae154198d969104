import PersistentId.CommandLine.Request
import PersistentId.Registry
import PersistentId.Settings.Basic

/-!
# PersistentId.CommandLine.Run

Carrying out what a command line of `handle-util` asks for.

Design points:

* Showing canonical forms needs neither settings nor a database. The other commands take
  their settings from the environment and open the database the settings name.
* A handle that cannot be resolved is logged, and the next one follows. An outage ends
  the run.

The commands are carried out by `realMain`, by way of `resolveHandles` and `listHandles`.
-/

namespace PersistentId

namespace CommandLine

/-- What a run left behind. -/
structure Report where
  exit : Nat
  stdout : String
  stderr : String
  /-- The databases that were opened. -/
  opened : List String
  deriving DecidableEq, Repr

/-- Why a run ended early. -/
inductive RunError
  | settings (problems : List Problem)
  | store (e : StoreError)
  /-- A setting that has to be a text is none. -/
  | setting (e : NotText)
  deriving DecidableEq, Repr

/-- Lines of output. -/
def lines (ls : List String) : String := String.join (ls.map (· ++ "\n"))

/-- The registry behind the program: items only, published as the settings say, without a
sink for counters. -/
def registryOf (site : Site) : Registry := ⟨.items site.itemUrlPrefix, false⟩

/-- The line of a handle. -/
def resolvedLine (handle : String) (url : Option String) : String :=
  Handle.canonical handle ++ " " ++ url.getD "None"

/-- The lines of handles, each with its address, `resolveHandles`. -/
def resolveAll (registry : Registry) (db : Database) :
    List String → Outcome RunError (List String)
  | [] => pure []
  | handle :: rest =>
    let o := registry.resolveUrl db (some handle)
    match o.result with
    | .error (.store e) => ⟨.error (.store e), o.events⟩
    | .error (.setting e) => ⟨.error (.setting e), o.events⟩
    | .error (.handle e) => do
      Outcome.tell (o.events ++
        [.log ⟨.error, "Exception resolving handle " ++ handle, some e.category.label⟩])
      resolveAll registry db rest
    | .ok url => do
      Outcome.tell o.events
      let ls ← resolveAll registry db rest
      return resolvedLine handle url :: ls

/-- Runs a command that needs the database. -/
def runOn (environment : List (String × String))
    (body : Registry → Outcome RunError (List String)) : Outcome RunError Report :=
  match Settings.load ⟨environment, []⟩ with
  | .error problems => .fail (.settings problems)
  | .ok settings => do
    let ls ← body (registryOf settings.site)
    return ⟨0, lines ls, "", [settings.pgDsn]⟩

/-- Carries out a command, `realMain`. -/
def Command.run (db : Database) (environment : List (String × String)) :
    Command → Outcome RunError Report
  | .canonical handles => pure ⟨0, lines (handles.map Handle.canonical), "", []⟩
  | .resolve handles => runOn environment fun registry => resolveAll registry db handles
  | .list start => runOn environment fun _ =>
    match db.findHandlesWith start with
    | .ok handles => pure handles
    | .error e => .fail (.store e)

/-- Carries out what a command line asks for. -/
def run (db : Database) (environment : List (String × String)) (arguments : List String) :
    Outcome RunError Report :=
  match Request.ofArguments arguments with
  | .run command => command.run db environment
  | .help text => pure ⟨0, text, "", []⟩
  | .misuse text => pure ⟨2, "", text, []⟩

end CommandLine

end PersistentId
