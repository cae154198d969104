import PersistentId.Logging.Format

/-!
# PersistentId.Logging.Parts

The formatters, filters and handlers of a configuration: whether each of them can be made.

Design points:

* A part names the class it is made of, or a maker, or neither where there is a class to
  fall back on. The other fields are the arguments; each class takes some and needs some.
* A part may refer to other parts. Formatters and filters refer to none, handlers to
  formatters and filters, and a handler that collects messages to the handler behind it. It
  waits for that one (`Making.waits`).
-/

namespace PersistentId

namespace Logging

/-- The fields of a part. -/
abbrev Fields := List (String × Json)

/-- The section of a configuration that holds the parts of some sort. -/
def section? (config : Config) (sort : String) : Option Fields := do
  let value ← (fieldValue? config config sort).toOption.join
  value.fields?

/-- Whether a section holds a part. -/
def hasPart (config : Config) (sort : String) (name : Json) : Bool :=
  match name, section? config sort with
  | .text name, some fields => fields.any fun f => f.1 == name
  | _, _ => false

/-- What can be gone through in a value: the names of its fields, its elements, or its
characters. -/
def items? : Value → Option (List Json)
  | .data (.object fields) => some (fields.map fun f => .text f.1)
  | .data (.list elements) => some elements
  | .data (.text s) => some (s.toList.map fun c => .text (String.singleton c))
  | _ => none

/-- The value of a field, or another one where it is missing. Nothing where a reference
leads nowhere. -/
def valueOr (config : Config) (fields : Fields) (name : String) (default : Json) :
    Option Value :=
  (fieldValue? config fields name).toOption.map (·.getD (.data default))

/-- Whether a text can name an argument. -/
def isArgumentName (s : String) : Bool :=
  match s.toList with
  | [] => false
  | c :: rest =>
    let rest := if rest.getLast? = some '\n' then rest.dropLast else rest
    (c.isAlpha || c = '_') && rest.all fun c => c.isAlphanum || c = '_'

/-- The fields that are neither arguments nor of use to any class. -/
def without (names : List String) (fields : Fields) : Fields :=
  fields.filter fun f => !names.contains f.1

/-- The arguments among the fields that are left of a part, each followed. -/
def arguments? (config : Config) (fields : Fields) : Option (List (String × Value)) :=
  (without ["."] fields).mapM fun f => do
    guard (isArgumentName f.1)
    let value ← (follow config f.2).toOption
    return (f.1, value)

/-- Whether the properties that are set at the end are fields. -/
def hasProperties (config : Config) (fields : Fields) : Bool :=
  match valueOr config fields "." .null with
  | some value => !value.isSomething || value.fields?.isSome
  | none => false

/-- The name of the class that a value names, or is. -/
def className? : Value → Option String
  | .outside "type" name => some name
  | .data (.text name) => if classes.contains name then some name else none
  | _ => none

/-- The level a value names: an integer, or the name of a level. -/
inductive Threshold
  | number (n : Int)
  /-- Yes and no stand for one and zero, but are shown as they are. -/
  | flag (b : Bool)
  deriving DecidableEq, Repr

/-- The names of levels. Of two names for one level the first is shown. -/
def levelNames : List (String × Int) :=
  [ ("CRITICAL", 50), ("FATAL", 50), ("ERROR", 40), ("WARNING", 30), ("WARN", 30), ("INFO", 20),
    ("DEBUG", 10), ("NOTSET", 0) ]

/-- How a level is shown. -/
def Threshold.shown : Threshold → String
  | number n => named n (toString n)
  | flag true => named 1 "True"
  | flag false => named 0 "False"
where
  named (n : Int) (spelled : String) : String :=
    match levelNames.find? (·.2 == n) with
    | some (name, _) => name
    | none => "Level " ++ spelled

/-- The level a value names. -/
def threshold? : Value → Option Threshold
  | .data (.number (.integer n)) => some (.number n)
  | .data (.bool b) => some (.flag b)
  | .data (.text s) => (levelNames.find? (·.1 == s)).map fun n => .number n.2
  | _ => none

/-- The level that a part names, which may be missing. -/
def level? (config : Config) (fields : Fields) : Option (Option Threshold) :=
  match valueOr config fields "level" .null with
  | none => none
  | some (.data .null) => some none
  | some value => (threshold? value).map some

/-- The names a part refers to, each of which has to be that of a part of some sort. -/
def references? (config : Config) (fields : Fields) (sort : String) : Option (List Json) := do
  let value ← valueOr config fields sort .null
  if value.isSomething then
    let names ← items? value
    guard (names.all (hasPart config sort))
    return names
  else return []

/-! ### Formatters and filters -/

/-- Whether a formatter can be made of a format, a style and whether to check them. -/
def canFormat (format style validate : Value) : Bool :=
  match style.text?.bind Style.ofMark? with
  | none => false
  | some style =>
    -- Without a format each style has one of its own.
    !format.isSomething || !validate.isSomething ||
      match format.text? with
      | some s => style.accepts s.toList
      | none => false

/-- Whether a formatter can be made by its class. -/
def isPlainFormatter (config : Config) (fields : Fields) : Option Unit := do
  let format ← valueOr config fields "format" .null
  let _ ← valueOr config fields "datefmt" .null
  let style ← valueOr config fields "style" (.text "%")
  let cls ← valueOr config fields "class" .null
  guard (!cls.isSomething || cls.text? = some "logging.Formatter")
  let validate ← valueOr config fields "validate" (.bool true)
  guard (canFormat format style validate)

/-- The argument of a name, or another value where it is missing. -/
def argument (arguments : List (String × Value)) (name : String) (default : Json) : Value :=
  match arguments.find? (·.1 == name) with
  | some (_, value) => value
  | none => .data default

/-- Whether a value is a name for a filter: anything that has a length. -/
def hasLength (value : Value) : Bool := (items? value).isSome

/-! ### Handlers -/

/-- A class of handlers: the arguments it needs, and the others it takes. -/
structure HandlerClass where
  name : String
  needed : List String
  optional : List String

/-- The arguments of handlers that write to files. -/
def fileOptions : List String := ["encoding", "delay", "errors"]

/-- The classes of handlers. -/
def handlerClasses : List HandlerClass :=
  [ ⟨"logging.Handler", [], []⟩, ⟨"logging.NullHandler", [], []⟩,
    ⟨"logging.StreamHandler", [], ["stream"]⟩,
    ⟨"logging.FileHandler", ["filename"], "mode" :: fileOptions⟩,
    ⟨"logging.handlers.WatchedFileHandler", ["filename"], "mode" :: fileOptions⟩,
    ⟨"logging.handlers.BaseRotatingHandler", ["filename", "mode"], fileOptions⟩,
    ⟨"logging.handlers.RotatingFileHandler", ["filename"],
      ["mode", "maxBytes", "backupCount"] ++ fileOptions⟩,
    ⟨"logging.handlers.TimedRotatingFileHandler", ["filename"],
      ["when", "interval", "backupCount", "utc", "atTime"] ++ fileOptions⟩,
    ⟨"logging.handlers.BufferingHandler", ["capacity"], []⟩,
    ⟨"logging.handlers.MemoryHandler", ["capacity"], ["flushLevel", "target", "flushOnClose"]⟩,
    ⟨"logging.handlers.SocketHandler", ["host", "port"], []⟩,
    ⟨"logging.handlers.DatagramHandler", ["host", "port"], []⟩,
    ⟨"logging.handlers.SMTPHandler", ["mailhost", "fromaddr", "toaddrs", "subject"],
      ["credentials", "secure", "timeout"]⟩,
    ⟨"logging.handlers.HTTPHandler", ["host", "url"],
      ["method", "secure", "credentials", "context"]⟩,
    ⟨"logging.handlers.QueueHandler", ["queue"], []⟩,
    ⟨"logging.handlers.SysLogHandler", [], ["address", "facility", "socktype"]⟩,
    ⟨"logging.handlers.NTEventLogHandler", ["appname"], ["dllname", "logtype"]⟩ ]

/-- Where files can be written: in the current directory and in that for temporary ones. -/
def canOpen (filename : String) : Bool :=
  let s := filename.toList
  let folder := (s.reverse.dropWhile (· ≠ '/')).reverse
  let file := s.drop folder.length
  filename = "/dev/null" ||
    (!(["", ".", ".."]).contains (String.ofList file) && !s.contains '\x00' &&
      ["", "./", "/tmp/"].contains (String.ofList folder))

/-- The modes in which a file can be opened for writing. -/
def writingModes : List String := ["a", "w", "a+", "w+", "at", "wt"]

/-- The encodings of files, in lower case. -/
def encodings : List String :=
  ["utf-8", "utf8", "utf_8", "ascii", "us-ascii", "latin-1", "latin1", "iso-8859-1", "utf-16"]

/-- Whether a value is the name of an encoding, or none. -/
def isEncoding : Value → Bool
  | .data .null => true
  | .data (.text s) => encodings.contains (String.ofList (s.toList.map Char.toLower))
  | _ => false

/-- The units of time after which a file is changed. Days of the week have a number. -/
def isRotationTime (s : String) : Bool :=
  let s := s.toList.map Char.toUpper
  ["S", "M", "H", "D", "MIDNIGHT"].contains (String.ofList s) ||
    match s with
    | ['W', day] => '0' ≤ day && day ≤ '6'
    | _ => false

/-- Whether a value is missing or a pair. -/
def isPairOrPlain : Value → Bool
  | .data (.list elements) => elements.length = 2
  | _ => true

/-- The mode in which a handler opens its file. One that changes files by their size only
ever adds to them. -/
def fileMode? (cls : String) (arguments : List (String × Value)) : Option String :=
  let mode := (argument arguments "mode" (.text "a")).text?
  if cls = "logging.handlers.RotatingFileHandler" then
    match argument arguments "maxBytes" (.int 0) with
    | .data (.number (.integer n)) => if 0 < n then some "a" else mode
    | .data (.bool b) => if b then some "a" else mode
    | _ => none
  else mode

/-- Whether a class of handlers accepts arguments, apart from their names. -/
def HandlerClass.accepts (c : HandlerClass) (arguments : List (String × Value)) : Bool :=
  let get := argument arguments
  if c.needed.contains "filename" then
    match get "filename" .null with
    | .data (.text filename) =>
      match fileMode? c.name arguments with
      | none => false
      | some mode =>
        ((get "delay" (.bool false)).isSomething ||
          (canOpen filename && writingModes.contains mode && isEncoding (get "encoding" .null))) &&
          ((get "when" (.text "h")).text?.map isRotationTime).getD false
    | _ => false
  else
    match c.name with
    | "logging.handlers.HTTPHandler" =>
      let method := (get "method" (.text "GET")).text?.map fun s => s.toList.map Char.toUpper
      (method = some "GET".toList || method = some "POST".toList) &&
        ((get "secure" (.bool false)).isSomething ||
          match get "context" .null with
          | .data .null => true
          | _ => false)
    | "logging.handlers.SMTPHandler" =>
      isPairOrPlain (get "mailhost" .null) && isPairOrPlain (get "credentials" .null)
    | _ => true

/-! ### Makers -/

/-- Whether the class of formatters accepts arguments. -/
def acceptsFormatter (arguments : List (String × Value)) : Bool :=
  (arguments.all fun a => ["fmt", "datefmt", "style", "validate", "defaults"].contains a.1) &&
    canFormat (argument arguments "fmt" .null) (argument arguments "style" (.text "%"))
      (argument arguments "validate" (.bool true))

/-- Whether the class of filters accepts arguments. -/
def acceptsFilter (arguments : List (String × Value)) : Bool :=
  arguments.all (·.1 == "name") && hasLength (argument arguments "name" (.text ""))

/-- Whether a class of handlers accepts arguments. -/
def HandlerClass.canMake (c : HandlerClass) (arguments : List (String × Value)) : Bool :=
  (arguments.all fun a => c.needed.contains a.1 || c.optional.contains a.1) &&
    (c.needed.all fun name => arguments.any (·.1 == name)) && c.accepts arguments

/-- Whether a class accepts arguments. -/
def canMake (cls : String) (arguments : List (String × Value)) : Bool :=
  match cls with
  | "logging.Formatter" => acceptsFormatter arguments
  | "logging.Filter" => acceptsFilter arguments
  | _ =>
    match handlerClasses.find? (·.name == cls) with
    | some c =>
      -- A part of another sort can also be given the level a handler starts with.
      c.canMake (arguments.filter fun a => a.1 != "level")
    | none => false

/-- Whether a part can be made by its maker, which is a class. The longer name of the
format of a formatter counts where there are two. -/
def isMade (config : Config) (fields : Fields) (isFormatter : Bool) : Option Unit := do
  let cls ← className? (← valueOr config fields "()" .null)
  let arguments ← arguments? config (without ["()"] fields)
  let renamed := match arguments.find? (·.1 == "format") with
    | some (_, format) =>
      if isFormatter then
        ("fmt", format) :: arguments.filter fun a => a.1 != "fmt" && a.1 != "format"
      else arguments
    | none => arguments
  guard (canMake cls renamed && hasProperties config fields)

/-- Whether a part can be made, by its maker if it names one. -/
def isPart (config : Config) (j : Json) (isFormatter : Bool) (plain : Fields → Option Unit) :
    Bool :=
  match (follow config j).toOption.bind Value.fields? with
  | some fields =>
    (if fields.any (·.1 == "()") then isMade config fields isFormatter else plain fields).isSome
  | none => false

/-- Whether a formatter can be made. -/
def isFormatter (config : Config) (j : Json) : Bool :=
  isPart config j true (isPlainFormatter config)

/-- Whether a filter can be made. -/
def isFilter (config : Config) (j : Json) : Bool :=
  isPart config j false fun fields => do
    guard (hasLength (← valueOr config fields "name" (.text "")))

/-! ### Making handlers -/

/-- What becomes of a handler. -/
inductive Making
  | made
  /-- The handler behind it has to be made first. -/
  | waits
  | failed
  deriving DecidableEq, Repr

/-- The class of a handler, and whether it was named as a maker. -/
def handlerClass? (config : Config) (fields : Fields) : Option (HandlerClass × Bool) := do
  let isMaker := fields.any (·.1 == "()")
  let value ← valueOr config fields (if isMaker then "()" else "class") .null
  -- A class itself can be a maker, but only a name can be the class.
  let name ← if isMaker then className? value else value.text?
  let c ← handlerClasses.find? (·.name == name)
  return (c, isMaker)

/-- Whether the formatter of a handler exists. -/
def hasFormatter (config : Config) (fields : Fields) : Bool :=
  match valueOr config fields "formatter" .null with
  | none => false
  | some value =>
    !value.isSomething ||
      match value with
      | .data j => hasPart config "formatters" j
      | .outside _ _ => false

/-- The handler behind one that collects messages: whether it exists, and is made. -/
def target (config : Config) (made : List String) (c : HandlerClass) (isMaker : Bool)
    (fields : Fields) : Making :=
  if c.name = "logging.handlers.MemoryHandler" ∧ !isMaker ∧ fields.any (·.1 == "target") then
    match valueOr config fields "target" .null with
    | some (.data (.text name)) =>
      if made.contains name then .made
      else if hasPart config "handlers" (.text name) then .waits
      else .failed
    | _ => .failed
  else .made

/-- Whether the arguments of a handler are those of its class, and the rest is right. -/
def isComplete (config : Config) (c : HandlerClass) (isMaker : Bool) (fields : Fields) :
    Option Unit := do
  let rest := without ["formatter", "level", "filters", if isMaker then "()" else "class"] fields
  let arguments ← arguments? config rest
  guard (c.canMake arguments)
  let _ ← level? config fields
  let _ ← references? config fields "filters"
  guard (hasProperties config rest)

/-- What becomes of a handler, where some are made already. -/
def makeHandler (config : Config) (made : List String) (j : Json) : Making :=
  match (follow config j).toOption.bind Value.fields? with
  | none => .failed
  | some fields =>
    match handlerClass? config fields with
    | none => .failed
    | some (c, isMaker) =>
      if !hasFormatter config fields then .failed
      else
        match target config made c isMaker fields with
        | .made => if (isComplete config c isMaker fields).isSome then .made else .failed
        | other => other

end Logging

end PersistentId
