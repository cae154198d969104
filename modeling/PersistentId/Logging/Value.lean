import PersistentId.Logging.Shown
import PersistentId.Text.Blank
import PersistentId.Text.Category
import PersistentId.Text.Digit

/-!
# PersistentId.Logging.Value

Values of a configuration, and the references that stand for them.

Design points:

* A text that begins with `cfg://` stands for another part of the configuration, one that
  begins with `ext://` for something outside. Any other text stands for itself.
* A reference is followed when the value is asked for, and no sooner: one that leads
  nowhere does no harm where nobody asks.
* A path into the configuration begins with a name; names behind points and names or
  numbers in brackets follow. References along the path are followed as well.
-/

namespace PersistentId

namespace Logging

/-- A configuration: named parts. -/
abbrev Config := List (String × Json)

/-- What a value comes to. -/
inductive Value
  | data (j : Json)
  /-- Something outside the configuration: the name of its kind, and its own. -/
  | outside (kind : String) (name : String)

/-- Why a reference leads nowhere. -/
inductive LookupFault
  /-- There is no such key. -/
  | key (shown : String)
  /-- There is no such element; `kind` is what has none. -/
  | index (kind : String)
  /-- A list has no names. -/
  | listIndex
  /-- A text has no names. -/
  | textIndex
  /-- A value of this kind has no parts. -/
  | noParts (kind : String)
  /-- The path does not begin with a name. -/
  | path (path : String)
  /-- The path cannot be read from some place on. -/
  | pathAt (path rest : String)
  /-- Nothing outside has the name. -/
  | outside (name reason : String)
  /-- A reference without a name. -/
  | nameless
  /-- References that lead to each other. -/
  | endless
  deriving DecidableEq, Repr

/-- What kind of failure a fault is. -/
def LookupFault.label : LookupFault → String
  | key _ => "KeyError"
  | index _ => "IndexError"
  | listIndex | textIndex | noParts _ => "TypeError"
  | endless => "RecursionError"
  | _ => "ValueError"

/-- The message of a fault. -/
def LookupFault.message : LookupFault → String
  | key shown => shown
  | index kind => kind ++ " index out of range"
  | listIndex => "list indices must be integers or slices, not str"
  | textIndex => "string indices must be integers, not 'str'"
  | noParts kind => "'" ++ kind ++ "' object is not subscriptable"
  | path given => "Unable to convert " ++ Text.quoted given
  | pathAt given rest => "Unable to convert " ++ Text.quoted given ++ " at " ++ Text.quoted rest
  | outside name reason => "Cannot resolve " ++ Text.quoted name ++ ": " ++ reason
  | nameless => "Empty module name"
  | endless => "maximum recursion depth exceeded while calling a Python object"

namespace Value

/-- How messages name the kind of a value. -/
def kind : Value → String
  | data j => j.kindName
  | outside kind _ => kind

/-- Whether the value counts as something. -/
def isSomething : Value → Bool
  | data j => j.isSomething
  | outside _ _ => true

/-- The fields of a value that has some. -/
def fields? : Value → Option (List (String × Json))
  | data (.object fields) => some fields
  | _ => none

/-- The text of a value that is one. -/
def text? : Value → Option String
  | data (.text s) => some s
  | _ => none

/-- A value as messages show it. -/
def shown : Value → String
  | data j => Logging.shown j
  | outside kind name => "<" ++ kind ++ " '" ++ name ++ "'>"

end Value

/-! ### What is outside -/

/-- The numbers that have a name outside. -/
def numbers : List (String × Int) :=
  [ ("logging.CRITICAL", 50), ("logging.FATAL", 50), ("logging.ERROR", 40),
    ("logging.WARNING", 30), ("logging.WARN", 30), ("logging.INFO", 20), ("logging.DEBUG", 10),
    ("logging.NOTSET", 0), ("sys.maxsize", 0x7FFFFFFFFFFFFFFF) ]

/-- The places outside that hold others, and whether they hold places as well. -/
def modules : List (String × Bool) :=
  [ ("logging", true), ("logging.handlers", false), ("logging.config", false), ("sys", false),
    ("os", false), ("os.path", false), ("builtins", false) ]

/-- The places to write to. -/
def streams : List String :=
  ["sys.stdout", "sys.stderr", "sys.stdin", "sys.__stdout__", "sys.__stderr__", "sys.__stdin__"]

/-- The classes outside. -/
def classes : List String :=
  [ "logging.Handler", "logging.NullHandler", "logging.StreamHandler", "logging.FileHandler",
    "logging.Formatter", "logging.Filter", "logging.Logger", "logging.LoggerAdapter",
    "logging.LogRecord", "logging.BufferingFormatter", "logging.Filterer",
    "logging.PercentStyle", "logging.StrFormatStyle", "logging.StringTemplateStyle",
    "logging.handlers.BufferingHandler", "logging.handlers.MemoryHandler",
    "logging.handlers.SocketHandler", "logging.handlers.DatagramHandler",
    "logging.handlers.SMTPHandler", "logging.handlers.HTTPHandler",
    "logging.handlers.QueueHandler", "logging.handlers.SysLogHandler",
    "logging.handlers.RotatingFileHandler", "logging.handlers.TimedRotatingFileHandler",
    "logging.handlers.BaseRotatingHandler", "logging.handlers.WatchedFileHandler",
    "logging.handlers.NTEventLogHandler", "logging.handlers.QueueListener" ]

/-- The constants that have a name outside. -/
def constants : List (String × Json) :=
  [ ("builtins.None", .null), ("builtins.True", .bool true), ("builtins.False", .bool false),
    ("sys.byteorder", .text "little"), ("os.sep", .text "/"), ("os.name", .text "posix") ]

/-- Why nothing outside has a name: the first of its parts that leads nowhere. -/
def missingReason (found : String) (isPackage : Bool) : List String → String
  | [] => ""
  | part :: rest =>
    let name := if found.isEmpty then part else found ++ "." ++ part
    match modules.find? fun m => m.1 == name with
    | some (_, isPackage) => missingReason name isPackage rest
    | none =>
      "No module named " ++ Text.quoted name ++
        if found.isEmpty || isPackage then "" else "; " ++ Text.quoted found ++ " is not a package"

/-- What a name outside stands for. -/
def outsideValue (name : String) : Except LookupFault Value :=
  match numbers.find? (·.1 == name), constants.find? (·.1 == name) with
  | some (_, n), _ => .ok (.data (.int n))
  | none, some (_, j) => .ok (.data j)
  | none, none =>
    if modules.any (·.1 == name) then .ok (.outside "module" name)
    else if classes.contains name then .ok (.outside "type" name)
    else if streams.contains name then .ok (.outside "_io.TextIOWrapper" name)
    else
      let parts := (Text.pieces '.' name.toList).map String.ofList
      if parts.head? = some "" then .error .nameless
      else .error (.outside name (missingReason "" true parts))

/-! ### References -/

/-- The kind of a reference, and what follows it. Only one line is a reference. -/
def reference? (s : String) : Option (String × List Char) :=
  let isLetter (c : Char) : Bool := 'a' ≤ c && c ≤ 'z'
  match s.toList.takeWhile isLetter, s.toList.dropWhile isLetter with
  | kind, ':' :: '/' :: '/' :: rest =>
    let line := if rest.getLast? = some '\n' then rest.dropLast else rest
    if kind.isEmpty || line.contains '\n' then none else some (String.ofList kind, line)
  | _, _ => none

/-- The characters of names in a path. -/
def isWordChar (c : Char) : Bool :=
  c.isAlphanum || c = '_' || (0x80 ≤ c.toNat && Text.letters.holds c && !Text.isMark c)

/-- A name in front, with blanks around it, and what follows. -/
def word? (s : List Char) : Option (List Char × List Char) :=
  let s := s.dropWhile Text.isBlank
  let word := s.takeWhile isWordChar
  if word.isEmpty then none else some (word, (s.drop word.length).dropWhile Text.isBlank)

/-- One step of a path. -/
inductive PathStep
  | name (s : String)
  | number (n : Nat) (spelled : String)

/-- The step that stands in front of a path, and what follows it. -/
def pathStep? : List Char → Option (PathStep × List Char)
  | '.' :: s => (word? s).map fun (w, rest) => (.name (String.ofList w), rest)
  | '[' :: s =>
    match word? s with
    | some (w, ']' :: rest) =>
      let step : PathStep :=
        if w.all Text.isDecimalDigit then
          .number (w.foldl (fun n c => n * 10 + (Text.digitValue? c).getD 0) 0) (String.ofList w)
        else .name (String.ofList w)
      some (step, rest.dropWhile Text.isBlank)
    | _ => none
  | _ => none

/-- The part of a value that a name stands for. References in it are not followed yet. -/
def namedPart (value : Value) (name : String) : Except LookupFault Json :=
  match value with
  | .data (.object fields) =>
    match fields.find? fun f => f.1 == name with
    | some f => .ok f.2
    | none => .error (.key (Text.quoted name))
  | .data (.list _) => .error .listIndex
  | .data (.text _) => .error .textIndex
  | v => .error (.noParts v.kind)

/-- The part of a value that a step leads to. -/
def PathStep.part (value : Value) : PathStep → Except LookupFault Json
  | name s => namedPart value s
  | number n spelled =>
    match value with
    | .data (.object _) => .error (.key (toString n))
    | .data (.list elements) =>
      match elements[n]? with
      | some j => .ok j
      | none => .error (.index "list")
    | .data (.text s) =>
      match s.toList[n]? with
      | some c => .ok (.text (String.singleton c))
      | none => .error (.index "string")
    | v => namedPart v spelled

/-- The value at the end of a path that starts at a value. The number bounds the length of
the path. -/
def walk (follow : Json → Except LookupFault Value) (path : String) :
    Nat → Value → List Char → Except LookupFault Value
  | _, value, [] => .ok value
  | 0, _, rest => .error (.pathAt path (String.ofList rest))
  | n + 1, value, rest =>
    match pathStep? rest with
    | none => .error (.pathAt path (String.ofList rest))
    | some (step, rest) => do
      let part ← step.part value
      walk follow path n (← follow part) rest

/-- The value at the end of a path into a configuration. -/
def walkFrom (config : Config) (follow : Json → Except LookupFault Value) (path : List Char) :
    Except LookupFault Value :=
  match word? path with
  | none => .error (.path (String.ofList path))
  | some (first, rest) => do
    let part ← namedPart (.data (.object config)) (String.ofList first)
    walk follow (String.ofList path) rest.length (← follow part) rest

/-- What a value of a configuration comes to, following as many references as given. -/
def followWithin (config : Config) : Nat → Json → Except LookupFault Value
  | n, .text s =>
    match reference? s with
    | some ("ext", name) => outsideValue (String.ofList name)
    | some ("cfg", path) =>
      match n with
      | 0 => .error .endless
      | n + 1 => walkFrom config (followWithin config n) path
    | _ => .ok (.data (.text s))
  | _, j => .ok (.data j)

/-- What a value of a configuration comes to. -/
def follow (config : Config) (j : Json) : Except LookupFault Value := followWithin config 300 j

/-- What a field comes to, if it is there. -/
def fieldValue? (config : Config) (fields : List (String × Json)) (name : String) :
    Except LookupFault (Option Value) :=
  match fields.find? fun f => f.1 == name with
  | some f => (follow config f.2).map some
  | none => .ok none

end Logging

end PersistentId
