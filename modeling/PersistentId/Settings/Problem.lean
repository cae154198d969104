import PersistentId.Url.Database

/-!
# PersistentId.Settings.Problem

What can be wrong with the value of a setting.

Every problem has a short name, by which programs tell problems apart, and a message for
people. It is reported together with the name under which the setting was looked up.
-/

namespace PersistentId

/-- What is wrong with a value. -/
inductive ProblemKind
  | notInteger
  | malformedInteger
  | fractionalNumber
  | infiniteNumber
  | hugeInteger
  | notBoolean
  | malformedBoolean
  | notText
  | notAddress
  | malformedAddress (fault : DatabaseUrl.Fault)
  | foreignScheme
  /-- There is no setting of this name. -/
  | unknownName
  deriving DecidableEq, Repr

/-- A problem with the value that was given under a name. -/
structure Problem where
  kind : ProblemKind
  name : String
  deriving DecidableEq, Repr

/-- The schemes an address of a database may have. -/
def DatabaseUrl.schemes : List String :=
  [ "postgres", "postgresql", "postgresql+asyncpg", "postgresql+pg8000", "postgresql+psycopg",
    "postgresql+psycopg2", "postgresql+psycopg2cffi", "postgresql+py-postgresql",
    "postgresql+pygresql" ]

namespace ProblemKind

/-- The short name of a problem. -/
def label : ProblemKind → String
  | notInteger => "int_type"
  | malformedInteger => "int_parsing"
  | fractionalNumber => "int_from_float"
  | infiniteNumber => "finite_number"
  | hugeInteger => "int_parsing_size"
  | notBoolean => "bool_type"
  | malformedBoolean => "bool_parsing"
  | notText => "string_type"
  | notAddress => "url_type"
  | malformedAddress _ => "url_parsing"
  | foreignScheme => "url_scheme"
  | unknownName => "extra_forbidden"

/-- The words in a row, each between quotes, the last one behind `or`. -/
def alternatives : List String → String
  | [] => ""
  | [w] => "'" ++ w ++ "'"
  | [v, w] => "'" ++ v ++ "' or '" ++ w ++ "'"
  | w :: ws => "'" ++ w ++ "', " ++ alternatives ws

/-- The message of a problem. -/
def message : ProblemKind → String
  | notInteger => "Input should be a valid integer"
  | malformedInteger => "Input should be a valid integer, unable to parse string as an integer"
  | fractionalNumber => "Input should be a valid integer, got a number with a fractional part"
  | infiniteNumber => "Input should be a finite number"
  | hugeInteger => "Unable to parse input string as an integer, exceeded maximum size"
  | notBoolean => "Input should be a valid boolean"
  | malformedBoolean => "Input should be a valid boolean, unable to interpret input"
  | notText => "Input should be a valid string"
  | notAddress => "URL input should be a string or URL"
  | malformedAddress fault => "Input should be a valid URL, " ++ fault.text
  | foreignScheme => "URL scheme should be " ++ alternatives DatabaseUrl.schemes
  | unknownName => "Extra inputs are not permitted"

end ProblemKind

end PersistentId
