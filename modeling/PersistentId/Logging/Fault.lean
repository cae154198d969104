import PersistentId.Json.Reader
import PersistentId.Logging.Value

/-!
# PersistentId.Logging.Fault

Why the log cannot be set up.

What is wrong inside a part of a configuration is not told: the fault names the part, and
that is all.
-/

namespace PersistentId

namespace Logging

/-- Why a configuration cannot be used. -/
inductive Fault
  /-- There is no file of a name. -/
  | noFile (path : String)
  /-- A name is that of a directory. -/
  | directory (path : String)
  | document (fault : Json.Fault) (text : List Char)
  /-- A value of a kind that holds nothing stands where parts are expected. -/
  | noParts (kind : String)
  /-- An element of a list that should be a name and a part has another length. -/
  | pairLength (index length : Nat)
  /-- An element of a list that should be a name and a part is something else. -/
  | noPair (index : Nat)
  /-- A value of a kind that cannot be a name. -/
  | name (kind : String)
  /-- Names of two kinds that have no order. -/
  | order (first second : String)
  /-- A reference leads nowhere. -/
  | lookup (fault : LookupFault)
  | noVersion
  | version (shown : String)
  /-- An incremental configuration names a handler that does not exist. -/
  | missingHandler (quoted : String)
  /-- A part of some sort has something wrong with it. -/
  | part (sort quoted : String)
  | root

/-- What kind of failure a fault is. -/
def Fault.label : Fault → String
  | noFile _ => "FileNotFoundError"
  | directory _ => "IsADirectoryError"
  | document fault _ =>
    match fault.reason with
    | .deepList | .deepObject => "RecursionError"
    | .longInteger _ => "ValueError"
    | _ => "JSONDecodeError"
  | noParts _ | noPair _ | name _ | order _ _ => "TypeError"
  | lookup fault => fault.label
  | _ => "ValueError"

/-- The message of a fault. -/
def Fault.message : Fault → String
  | noFile path => "[Errno 2] No such file or directory: " ++ Text.quoted path
  | directory path => "[Errno 21] Is a directory: " ++ Text.quoted path
  | document fault text => fault.message text
  | noParts kind => "'" ++ kind ++ "' object is not iterable"
  | pairLength index length =>
    "dictionary update sequence element #" ++ toString index ++ " has length " ++
      toString length ++ "; 2 is required"
  | noPair index =>
    "cannot convert dictionary update sequence element #" ++ toString index ++ " to a sequence"
  | name kind => "unhashable type: '" ++ kind ++ "'"
  | order first second =>
    "'<' not supported between instances of '" ++ first ++ "' and '" ++ second ++ "'"
  | lookup fault => fault.message
  | noVersion => "dictionary doesn't specify a version"
  | version shown => "Unsupported version: " ++ shown
  | missingHandler quoted => "No handler found with name " ++ quoted
  | part sort quoted => "Unable to configure " ++ sort ++ " " ++ quoted
  | root => "Unable to configure root logger"

end Logging

end PersistentId
