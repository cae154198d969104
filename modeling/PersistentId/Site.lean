/-!
# PersistentId.Site

The settings of a site that matter while it runs.

Design points:

* All of them can change while the site runs. Nothing checks a value that is set then, so
  it need not be a text (`LiveValue`).
* A value that is no text does no harm until it is used as one (`NotText`).
-/

namespace PersistentId

/-- The value of a setting at work. -/
inductive LiveValue
  | text (s : String)
  /-- A value that is no text, of which only the name of its kind is known, and whether
  it is empty. -/
  | other (kind : String) (isEmpty : Bool)
  deriving DecidableEq, Repr

/-- A value that is no text was used as one. -/
structure NotText where
  /-- The name of the kind of the value. -/
  kind : String
  /-- What a text can do and the value cannot. -/
  operation : String
  deriving DecidableEq, Repr

namespace NotText

/-- The name under which metrics and reports mention the failure. -/
def label : String := "AttributeError"

/-- The message of the failure. -/
def message (e : NotText) : String :=
  "'" ++ e.kind ++ "' object has no attribute '" ++ e.operation ++ "'"

end NotText

namespace LiveValue

/-- No value. -/
def missing : LiveValue := other "NoneType" true

/-- A text that may be missing. -/
def ofText? : Option String → LiveValue
  | some s => text s
  | none => missing

/-- Whether the value is empty. -/
def isEmpty : LiveValue → Bool
  | text s => s.isEmpty
  | other _ isEmpty => isEmpty

/-- The value used as a text, by an operation that a text has. -/
def asText (operation : String) : LiveValue → Except NotText String
  | text s => .ok s
  | other kind _ => .error ⟨kind, operation⟩

@[simp] theorem asText_text (operation s : String) : (text s).asText operation = .ok s := rfl
@[simp] theorem isEmpty_text (s : String) : (text s).isEmpty = s.isEmpty := rfl
@[simp] theorem isEmpty_missing : missing.isEmpty = true := rfl

end LiveValue

/-- The settings of a site that matter while it runs. -/
structure Site where
  /-- Where minted handles begin. -/
  handlePrefix : LiveValue
  /-- The base of the addresses under which items are published. -/
  itemUrlPrefix : LiveValue
  /-- The name of the backend for measurements. -/
  metricsBackend : LiveValue
  /-- Whether the making of a backend is logged. -/
  debug : Bool
  deriving DecidableEq, Repr

namespace Site

/-- The names of the settings that have no bearing on a running site. -/
def inertNames : List String := ["http_port", "sentry_dsn", "pg_dsn", "statsd_host", "statsd_port"]

/-- The site with one setting set, if there is a setting of the name. A name that begins
with an underscore is nobody's concern. -/
def set? (site : Site) (name : String) (value : LiveValue) : Option Site :=
  match name with
  | "handle_prefix" => some { site with handlePrefix := value }
  | "handle_item_url_prefix" => some { site with itemUrlPrefix := value }
  | "metrics_backend" => some { site with metricsBackend := value }
  | "debug" => some { site with debug := !value.isEmpty }
  | _ =>
    if inertNames.contains name || name.toList.head? = some '_' then some site else none

/-- The message for a name that is no setting. -/
def unknownSetting (name : String) : String :=
  "\"Settings\" object has no field \"" ++ name ++ "\""

@[simp] theorem set?_handlePrefix (site : Site) (value : LiveValue) :
    site.set? "handle_prefix" value = some { site with handlePrefix := value } := rfl

@[simp] theorem set?_itemUrlPrefix (site : Site) (value : LiveValue) :
    site.set? "handle_item_url_prefix" value = some { site with itemUrlPrefix := value } := rfl

end Site

end PersistentId
