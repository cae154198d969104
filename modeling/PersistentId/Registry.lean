import PersistentId.Handle
import PersistentId.Outcome
import PersistentId.Resolver
import PersistentId.Store.Database

/-!
# PersistentId.Registry

The registry: resolving handles, finding the handle of an object, minting handles
and listing them.

Design points:

* The registry holds no data. Every operation runs on the database passed to it, and
  only minting changes it; no operation ends a transaction.
* Arguments and configuration are checked before any statement is executed, so these
  checks answer the same while the database is out of reach.
* "Not found" is an answer, not a failure.
* Counters are written only where the registry has a sink for them. Nothing else
  depends on the sink.

The operations are those of `HandleRegistry`: `resolve_to_url`, `resolve_to_object`,
`find_handle`, `create_handle` and `get_handles_for_prefix`, with `_find_record`,
`_resolver_for` and `_identify` behind them.
-/

namespace PersistentId

/-- The registry of one site, `HandleRegistry`. -/
structure Registry where
  table : ResolverTable
  /-- Whether there is a sink for counters. -/
  measured : Bool

/-- The text of an optional value, unless it is missing or empty. -/
def present? : Option String → Option String
  | some s => if s.isEmpty then none else some s
  | none => none

namespace Registry

/-- A failure by the registry's own rules. -/
def refuse (e : HandleError) : Outcome RegistryError α := .fail (.handle e)

/-- A statement of the store, as a step of an operation. -/
def execute (r : Except StoreError α) : Outcome RegistryError α := .ofExcept (r.mapError .store)

/-- Counts something, where there is a sink. -/
def count (r : Registry) (name : String) (tag value : String) : Outcome RegistryError Unit :=
  .tell (if r.measured then [.metric (.increment name [(tag, .text value)])] else [])

/-- Writes an entry into the debug log. -/
def debug (text : String) : Outcome RegistryError Unit := .tell [.note .debug text]

/-! ### Resolution -/

/-- The record of a handle, `_find_record`. A text that is missing or empty is refused before the
store is asked. -/
def findRecord (r : Registry) (db : Database) (handle : Option String) :
    Outcome RegistryError (Option Record) :=
  match present? handle with
  | none => refuse .missingHandle
  | some handle => do
    let found ← execute (db.findRecord handle)
    r.count "handle.registry.resolve" "outcome" (if found.isSome then "found" else "not_found")
    return found

/-- The resolver for a record, `_resolver_for`, and the id of the record's object. -/
def dispatch (r : Registry) (record : Record) : Except HandleError (Resolver × Int) :=
  match record.type, record.resource with
  | some code, some id =>
    match r.table.get? code with
    | some resolver => .ok (resolver, id)
    | none => .error (.unsupportedType code)
  | _, _ => .error (.missingResource record.handle)

/-- How a value is looked at to see whether it ends in a slash. -/
def slashOperation : String := "endswith"

/-- The value of a setting that has to be a text. -/
def settingText (value : LiveValue) : Except RegistryError String :=
  (value.asText slashOperation).mapError .setting

/-- The address under which the object of a record is published. -/
def publish (resolver : Resolver) (handle : String) : Except RegistryError String :=
  if resolver.urlPrefix.isEmpty then .error (.handle (.settingNotSet resolver.urlPrefixSetting))
  else (settingText resolver.urlPrefix).map fun base => Handle.withTrailingSlash base ++ handle

/-- The address under which the object of a handle is published, `resolve_to_url`. -/
def resolveUrl (r : Registry) (db : Database) (handle : Option String) :
    Outcome RegistryError (Option String) := do
  match ← r.findRecord db handle with
  | none => return none
  | some record =>
    let (resolver, _) ← Outcome.mapError .handle (.ofExcept (r.dispatch record))
    let url ← .ofExcept (publish resolver record.handle)
    debug ("Resolved " ++ record.handle ++ " to " ++ url)
    return some url

/-- The object of a handle, `resolve_to_object`. An object that no longer exists is not
found. -/
def resolveObject (r : Registry) (db : Database) (handle : Option String) :
    Outcome RegistryError (Option Resource) := do
  match ← r.findRecord db handle with
  | none => return none
  | some record =>
    let (resolver, id) ← Outcome.mapError .handle (.ofExcept (r.dispatch record))
    let found := resolver.find db.session.items id
    if found.isNone then
      r.count "handle.registry.dangling" "resource_type" resolver.type.label
    -- The log shows an id that no object has in place of one that is gone.
    debug ("Resolved handle " ++ record.handle ++ " to " ++ resolver.type.label ++ " " ++
      toString (if found.isSome then id else -1))
    return found

/-! ### Handles of objects -/

/-- The handle of an object, `find_handle`. An object of a kind nobody recognises has none. -/
def findHandle (r : Registry) (db : Database) (object : Resource) :
    Outcome RegistryError (Option String) :=
  match r.table.identify? object with
  | none => pure none
  | some (resolver, id) => execute (db.findHandle resolver.type id)

/-- What minting asks before it executes a statement: whether there is a site prefix, and
who recognises the object, `_identify`. -/
def mintable (r : Registry) (site : LiveValue) (object : Resource) :
    Except HandleError (Resolver × Int) :=
  if site.isEmpty then .error (.settingNotSet "handle.prefix")
  else
    match r.table.identify? object with
    | none => .error (.unsupportedResource object.kindName)
    | some found => .ok found

/-- Mints a handle for an object under the site prefix and stores it, `create_handle`. The
value drawn from the sequence is used up even where storing fails, or the prefix is no
text. A sequence counts in 64 bits, so no value is too long to be written. -/
def createHandle (r : Registry) (site : LiveValue) (db : Database) (object : Resource) :
    Database × Outcome RegistryError String :=
  match r.mintable site object with
  | .error e => (db, refuse e)
  | .ok (resolver, id) =>
    match db.allocate with
    | .error e => (db, execute (.error e))
    | .ok (n, db) =>
      -- The value is used up from here on, whatever becomes of the record.
      match settingText site with
      | .error e => (db, .fail e)
      | .ok site =>
        let handle := Handle.compose site n
        match db.insertRecord ⟨n, handle, some resolver.type.code, some id⟩ with
        | .error e => (db, execute (.error e))
        | .ok db => (db, do
            r.count "handle.registry.mint" "resource_type" resolver.type.label
            debug ("Created new handle " ++ handle)
            return handle)

/-! ### Listing -/

/-- The handles that start with a given text, `get_handles_for_prefix`, as the scan of the
database meets them. -/
def handlesWith (db : Database) (start : Option String) : Outcome RegistryError (List String) :=
  match start with
  | none => refuse .missingListPrefix
  | some start => execute (db.findHandlesWith start)

end Registry

end PersistentId
