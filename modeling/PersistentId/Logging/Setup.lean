import PersistentId.Logging.Fault
import PersistentId.Logging.Parts

/-!
# PersistentId.Logging.Setup

Setting up the log from a configuration file, `configure_logging`.

Design points:

* Without a file everything is logged, by one handler. A file is a JSON document that
  names its version and says what becomes of the root of the log: from which level on it
  logs, and by which handlers.
* Formatters come first, then filters, handlers, loggers and the root. The first fault ends
  the setting up.
* An incremental configuration changes levels only.
* The root can also be set up as a logger, by its name or by none.
-/

namespace PersistentId

namespace Logging

/-- The state of the root of the log. -/
structure Root where
  level : Threshold
  handlers : List String
  deriving DecidableEq, Repr

/-- The root before anything is set up. -/
def Root.initial : Root := ⟨.number 30, []⟩

/-- The root that logs everything. -/
def Root.verbose : Root := ⟨.number 10, [""]⟩

/-! ### Sections -/

/-- What stands in a section: its names and parts, or the names alone where there can be no
parts to them. -/
inductive Section
  | parts (fields : Fields)
  | names (items : List Json)

/-- The section of some sort. It is empty where it is missing. -/
def sectionOf (config : Config) (sort : String) : Except Fault Section := do
  match ← (fieldValue? config config sort).mapError .lookup with
  | none => return .parts []
  | some value =>
    match value.fields?, items? value with
    | some fields, _ => return .parts fields
    | none, some items => return .names items
    | none, none => throw (.noParts value.kind)

/-- The names in a section. -/
def Section.items : Section → List Json
  | parts fields => fields.map fun f => .text f.1
  | names items => items

/-- Makes the parts of a section, one after another. Names without parts fail. -/
def Section.each (sort : String) (isMade : String → Json → Bool) : Section → Except Fault Unit
  | parts [] => .ok ()
  | parts ((name, j) :: rest) =>
    if isMade name j then each sort isMade (parts rest)
    else .error (.part sort (Text.quoted name))
  | names [] => .ok ()
  | names (first :: _) => .error (.part sort (quoted first))

/-- The number a name is, for sorting. -/
def numberOf? : Json → Option Int
  | .number (.integer n) => some n
  | .bool b => some (if b then 1 else 0)
  | _ => none

/-- The first two neighbours among names that have no order. -/
def unordered? : List Json → Option (Json × Json)
  | x :: y :: rest =>
    let ordered := match x, y with
      | .text _, .text _ => true
      | _, _ => (numberOf? x).isSome && (numberOf? y).isSome
    if ordered then unordered? (y :: rest) else some (x, y)
  | _ => none

/-- Whether a name comes before another one or is the same. -/
def comesFirst : Json → Json → Bool
  | .text s, .text t => s ≤ t
  | x, y => (numberOf? x).getD 0 ≤ (numberOf? y).getD 0

/-- The section in ascending order of names. -/
def Section.sorted : Section → Except Fault Section
  | parts fields => .ok (parts (fields.mergeSort fun a b => a.1 ≤ b.1))
  | names items =>
    match unordered? items with
    | some (x, y) => .error (.order y.kindName x.kindName)
    | none => .ok (names (items.mergeSort comesFirst))

/-! ### Handlers -/

/-- Makes handlers, one after another: those that are made, and those that wait. -/
def makeHandlers (config : Config) (made waiting : List String) :
    Fields → Except Fault (List String × List String)
  | [] => .ok (made, waiting)
  | (name, j) :: rest =>
    match makeHandler config made j with
    | .made => makeHandlers config (made ++ [name]) waiting rest
    | .waits => makeHandlers config made (waiting ++ [name]) rest
    | .failed => .error (.part "handler" (Text.quoted name))

/-- Makes the handlers of a section. Those that have to wait get a second chance. -/
def makeSection (config : Config) : Section → Except Fault Unit
  | .names [] => .ok ()
  | .names (first :: _) => .error (.part "handler" (quoted first))
  | .parts fields => do
    let (made, waiting) ← makeHandlers config [] [] fields
    let (_, left) ← makeHandlers config made [] (fields.filter fun f => waiting.contains f.1)
    match left with
    | [] => return ()
    | name :: _ => throw (.part "handler" (Text.quoted name))

/-! ### Loggers -/

/-- What a logger becomes by its fields. -/
def configureLogger (config : Config) (incremental : Bool) (fields : Fields) (before : Root) :
    Option Root := do
  let level := (← level? config fields).getD before.level
  if incremental then return { before with level := level }
  else
    let handlers ← references? config fields "handlers"
    let _ ← references? config fields "filters"
    return ⟨level, (handlers.filterMap fun | .text name => some name | _ => none).eraseDups⟩

/-- Whether a logger is the root. -/
def isRootName (name : String) : Bool := name = "" || name = "root"

/-- Sets up a logger, which may be the root. -/
def setLogger (config : Config) (incremental : Bool) (root : Root) (name : String) (j : Json) :
    Option Root := do
  let fields ← (follow config j).toOption.bind Value.fields?
  let after ← configureLogger config incremental fields root
  let _ ← valueOr config fields "propagate" .null
  return if isRootName name then after else root

/-- Sets up loggers, one after another. -/
def setLoggers (config : Config) (incremental : Bool) (root : Root) : Section → Except Fault Root
  | .names [] | .parts [] => .ok root
  | .names (first :: _) => .error (.part "logger" (quoted first))
  | .parts ((name, j) :: rest) =>
    match setLogger config incremental root name j with
    | some root => setLoggers config incremental root (.parts rest)
    | none => .error (.part "logger" (Text.quoted name))

/-- Sets up the root, where the configuration says something of it. -/
def setRoot (config : Config) (incremental : Bool) (root : Root) : Except Fault Root := do
  match ← (fieldValue? config config "root").mapError .lookup with
  | none => return root
  | some value =>
    if !value.isSomething then return root
    else
      match value.fields?.bind (configureLogger config incremental · root) with
      | some root => return root
      | none => throw .root

/-! ### Configurations -/

/-- A number that is one. -/
def isOne : Value → Bool
  | .data (.number (.integer n)) => n == 1
  | .data (.number (.decimal lexeme)) =>
    Number.binary? lexeme = some (.nearest 1 1) && !Number.isNegative lexeme
  | .data (.bool b) => b
  | _ => false

/-- Whether a value can be a name at all. -/
def isName : Json → Bool
  | .list _ | .object _ => false
  | _ => true

/-- Complains about the handlers an incremental configuration names. There is none yet. -/
def refuseHandlers : Section → Except Fault Unit
  | .parts [] | .names [] => .ok ()
  | .parts ((name, _) :: _) => .error (.missingHandler (Text.quoted name))
  | .names (first :: _) =>
    if isName first then .error (.missingHandler (quoted first))
    else .error (.name first.kindName)

/-- The configuration with a section that is empty where it was missing. -/
def withSection (sort : String) (config : Config) : Config :=
  if config.any (·.1 == sort) then config else config ++ [(sort, .object [])]

/-- Makes everything a configuration describes, apart from loggers. A section is there from
the time on when it is looked at. -/
def makeParts (config : Config) : Except Fault Unit := do
  let _ ← (fieldValue? config config "disable_existing_loggers").mapError .lookup
  let config := withSection "formatters" (without ["disable_existing_loggers"] config)
  (← sectionOf config "formatters").each "formatter" fun _ j => isFormatter config j
  let config := withSection "filters" config
  (← sectionOf config "filters").each "filter" fun _ j => isFilter config j
  let config := withSection "handlers" config
  makeSection config (← (← sectionOf config "handlers").sorted)

/-- Sets up the log by a configuration. -/
def configure (config : Config) : Except Fault Root := do
  match ← (fieldValue? config config "version").mapError .lookup with
  | none => throw .noVersion
  | some version =>
    if !isOne version then throw (.version version.shown)
    let asked ← (fieldValue? config config "incremental").mapError .lookup
    let incremental := (asked.map Value.isSomething).getD false
    let config := without ["incremental"] config
    if incremental then refuseHandlers (← sectionOf config "handlers")
    else makeParts config
    let sections := if incremental then [] else ["formatters", "filters"]
    let config := (sections ++ ["handlers", "loggers"]).foldr withSection config
    let root ← setLoggers config incremental .initial (← sectionOf config "loggers")
    setRoot config incremental root

/-! ### Documents -/

/-- The name and the part of an element of a list that is a pair of them. -/
def pairOf (index : Nat) (j : Json) : Except Fault (Json × Json) :=
  match items? (.data j) with
  | none => .error (.noPair index)
  | some [name, part] => if isName name then .ok (name, part) else .error (.name name.kindName)
  | some items => .error (.pairLength index items.length)

/-- A list of pairs as parts with names. -/
def ofPairs (config : Config) (index : Nat) : List Json → Except Fault Config
  | [] => .ok config
  | j :: rest => do
    match ← pairOf index j with
    | (.text name, part) => ofPairs (Json.setField name part config) (index + 1) rest
    -- Nobody asks for a part whose name is no text.
    | _ => ofPairs config (index + 1) rest

/-- A document as a configuration: its fields, or the pairs it consists of. -/
def ofDocument : Json → Except Fault Config
  | .object fields => .ok fields
  | j =>
    match items? (.data j) with
    | some items => ofPairs [] 0 items
    | none => .error (.noParts j.kindName)

/-- The text of a file: every kind of line end is one line feed. -/
def unifyLines : List Char → List Char
  | '\r' :: '\n' :: rest => '\n' :: unifyLines rest
  | '\r' :: rest => '\n' :: unifyLines rest
  | c :: rest => c :: unifyLines rest
  | [] => []

/-- How deep a document may be nested. -/
def deepest : Nat := 985

/-- Sets up the log by the text of a file. -/
def ofText (text : String) : Except Fault Root := do
  let document := unifyLines text.toList
  let j ← (Json.readWithin deepest document).mapError (.document · document)
  configure (← ofDocument j)

/-- The variable that names the file. -/
def fileVariable : String := "LOGGING_CONFIG_FILE"

/-- The directories that are there wherever the program runs. -/
def directories : List String :=
  ["/", ".", "..", "./", "../", "/tmp", "/tmp/", "/etc", "/etc/", "/dev", "/dev/", "/usr", "/var",
   "/home", "/proc", "/sys"]

/-- The files that are there wherever the program runs. No document begins in them. -/
def fillerFiles : List String := ["/dev/null", "/etc/passwd"]

/-- Sets up the log by the text of a file, or without one. A file that is named and was not
given does not exist, apart from those that always do. -/
def setUp (environment : List (String × String)) (file : Option String) : Except Fault Root :=
  match file, environment.lookup fileVariable with
  | some text, _ => ofText text
  | none, none | none, some "" => .ok .verbose
  | none, some path =>
    if fillerFiles.contains path then ofText ""
    else .error (if directories.contains path then .directory path else .noFile path)

end Logging

end PersistentId
