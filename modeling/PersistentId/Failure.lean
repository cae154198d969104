import PersistentId.Site

/-!
# PersistentId.Failure

Why an operation can fail.

Design points:

* A failure of the registry is a **cause** (`HandleError`): what was missing or
  wrong, with the data the message needs. Message, category and response status
  are functions of the cause, each in one place. Every cause is one way to make a
  `HandleException`, and its category is the class of the exception.
* "Not found" is never a failure: look-ups answer `none`.
* The store fails for three reasons only (`StoreError`): it cannot be reached, a
  value does not fit its column, or a row breaks one of its constraints.
-/

namespace PersistentId

/-- What callers tell failures of the registry apart by. -/
inductive ErrorCategory
  /-- A null or empty text was passed to a look-up. -/
  | invalidHandle
  /-- No resolver is registered for the kind of a record or an object. -/
  | unsupportedResourceType
  /-- A stored record lacks its resource type or resource id. -/
  | corruptRecord
  /-- A required configuration property is not set. -/
  | configurationMissing
  /-- A failure of the registry of no closer description. -/
  | general
  deriving DecidableEq, Repr

namespace ErrorCategory

/-- The name under which responses, logs and reports mention the category. -/
def label : ErrorCategory → String
  | invalidHandle => "InvalidHandle"
  | unsupportedResourceType => "UnsupportedResourceType"
  | corruptRecord => "CorruptRecord"
  | configurationMissing => "ConfigurationMissing"
  | general => "HandleException"

/-- Every category. -/
def all : List ErrorCategory :=
  [invalidHandle, unsupportedResourceType, corruptRecord, configurationMissing, general]

/-- The category of a given label, if there is one. -/
def ofLabel? (s : String) : Option ErrorCategory := all.find? (fun c => c.label == s)

@[simp] theorem ofLabel?_label (c : ErrorCategory) : ofLabel? c.label = some c := by
  cases c <;> decide

/-- The response status of a failure, as `raise_for_handle_exception` chooses it. Bad input and
unsupported kinds are the client's problem, everything else is the server's. -/
def status : ErrorCategory → Nat
  | invalidHandle => 400
  | unsupportedResourceType => 422
  | corruptRecord => 500
  | configurationMissing => 500
  | general => 500

/-- Failures that are the server's fault are logged and reported. -/
def isServerFault (c : ErrorCategory) : Bool := c.status == 500

/-- Only a null or empty argument is a fault of the value that was passed. -/
def isValueFault (c : ErrorCategory) : Bool := c == invalidHandle

end ErrorCategory

/-- Why the registry refused an operation. -/
inductive HandleError
  /-- The handle is null or empty, `InvalidHandle.missing`. -/
  | missingHandle
  /-- The prefix to list is null, `InvalidHandle.missing_prefix`. -/
  | missingListPrefix
  /-- No resolver is registered for the type code of a record,
  `UnsupportedResourceType.for_type`. -/
  | unsupportedType (code : Int)
  /-- No resolver recognises an object, `UnsupportedResourceType.for_resource`; `kind` is how
  messages name its kind. -/
  | unsupportedResource (kind : String)
  /-- The record of `handle` lacks its resource type or resource id,
  `CorruptRecord.missing_resource`. -/
  | missingResource (handle : String)
  /-- The configuration property `name` is not set, `ConfigurationMissing.setting`. -/
  | settingNotSet (name : String)
  /-- A failure of a given category with a text of its own. -/
  | other (category : ErrorCategory) (text : String)
  deriving DecidableEq, Repr

namespace HandleError

/-- The category of a cause. -/
def category : HandleError → ErrorCategory
  | missingHandle => .invalidHandle
  | missingListPrefix => .invalidHandle
  | unsupportedType _ => .unsupportedResourceType
  | unsupportedResource _ => .unsupportedResourceType
  | missingResource _ => .corruptRecord
  | settingNotSet _ => .configurationMissing
  | other c _ => c

/-- The message of a cause. -/
def message : HandleError → String
  | missingHandle => "error-handle-1000 Handle is null or empty"
  | missingListPrefix => "error-handle-1004 Handle prefix is null"
  | unsupportedType code => "error-handle-1001 Unsupported resource type " ++ toString code
  | unsupportedResource kind => "error-handle-1001 Unsupported resource " ++ kind
  | missingResource handle =>
    "error-handle-1002 No associated resource type or id for " ++ handle
  | settingNotSet name => "error-handle-1003 Configuration property " ++ name ++ " is not set"
  | other _ text => text

end HandleError

/-- Why the store refused a statement. -/
inductive StoreError
  /-- The database cannot be reached. -/
  | outage
  /-- A row would break a uniqueness or a not-null constraint. -/
  | conflict
  /-- A number is out of the range of its column, or a text is too long for it. -/
  | unfit
  deriving DecidableEq, Repr

/-- The name under which logs, metrics and reports mention the failure. -/
def StoreError.label : StoreError → String
  | outage => "OperationalError"
  | conflict => "IntegrityError"
  | unfit => "DataError"

/-- Why an operation of the registry failed: by its own rules, in the store below
it, or for a setting that is no text. -/
inductive RegistryError
  | handle (e : HandleError)
  | store (e : StoreError)
  /-- A setting that has to be a text is none. -/
  | setting (e : NotText)
  deriving DecidableEq, Repr

/-- The name under which logs, metrics and reports mention the failure. -/
def RegistryError.label : RegistryError → String
  | handle e => e.category.label
  | store e => e.label
  | setting _ => NotText.label

end PersistentId
