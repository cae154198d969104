import PersistentId.ResourceType
import PersistentId.Store.Pattern

/-!
# PersistentId.Store.Statement

The statements the store sends to its database: one fixed text for each, and the
values that are bound to its numbered places. No value is ever part of a text.

A listing compares by `LIKE`. The comparison is kept as data (`Like`), from which the text of the
statement is written and its value is bound, so what is compared can be read off it.
-/

namespace PersistentId

/-- A value bound to a place of a statement. -/
inductive Binding
  | text (s : String)
  | number (n : Int)
  deriving DecidableEq, Repr

/-- A comparison of a column with a pattern, of which the first part is bound to a place. -/
structure Like where
  column : String
  /-- What is bound. -/
  bound : String
  /-- What the statement puts behind it. -/
  behind : String
  /-- The character that takes the meaning from the next one. -/
  escape : Char
  deriving DecidableEq, Repr

namespace Like

/-- The comparison of the texts that start with a given one, `startswith` with
`autoescape`. -/
def startingWith (column start : String) : Like where
  column := column
  bound := String.ofList (Pattern.literal '/' start.toList)
  behind := "%"
  escape := '/'

/-- The comparison as a condition on the first place. -/
def sql (l : Like) : String :=
  "(" ++ l.column ++ " LIKE $1::VARCHAR || '" ++ l.behind ++ "' ESCAPE '" ++
    String.singleton l.escape ++ "')"

/-- The pattern a text is compared with. -/
def pattern (l : Like) : List Char := l.bound.toList ++ l.behind.toList

/-- The parts of the pattern, unless it is malformed. -/
def parts? (l : Like) : Option (List Pattern.Part) := Pattern.parts? l.escape l.pattern

end Like

/-- A statement of the store. -/
inductive Statement
  /-- The record of a handle, `select_handle_stmt`. -/
  | selectHandle (handle : String)
  /-- The handle of lowest id among the records of an object, `select_resource_handle_stmt`. -/
  | selectResourceHandle (type : ResourceType) (resource : Int)
  /-- The handles that start with a given text, `select_prefix_handles_stmt`. -/
  | selectHandlesWith (start : String)
  /-- The next value of the sequence, `next_handle_id_stmt`. -/
  | nextId
  /-- A new record, `insert_handle_stmt`. -/
  | insertHandle (id : Int) (handle : String) (type : ResourceType) (resource : Int)
  deriving DecidableEq, Repr

namespace Statement

/-- The comparison with a pattern that a statement makes. -/
def like? : Statement → Option Like
  | selectHandlesWith start => some (.startingWith "handle.handle" start)
  | _ => none

/-- The text of a statement. -/
def sql : Statement → String
  | selectHandle _ =>
    "SELECT handle.handle_id, handle.handle, handle.resource_type_id, handle.resource_id \n" ++
    "FROM handle \n" ++
    "WHERE handle.handle = $1::VARCHAR"
  | selectResourceHandle _ _ =>
    "SELECT handle.handle \n" ++
    "FROM handle \n" ++
    "WHERE handle.resource_type_id = $1::SMALLINT AND handle.resource_id = $2::INTEGER " ++
    "ORDER BY handle.handle_id \n" ++
    " LIMIT $3::INTEGER"
  | selectHandlesWith start =>
    "SELECT handle.handle \n" ++
    "FROM handle \n" ++
    "WHERE " ++ (Like.startingWith "handle.handle" start).sql
  | nextId => "SELECT nextval('handle_seq') AS next_value_1"
  | insertHandle _ _ _ _ =>
    "INSERT INTO handle (handle_id, handle, resource_type_id, resource_id) " ++
    "VALUES ($1::INTEGER, $2::VARCHAR, $3::SMALLINT, $4::INTEGER) RETURNING handle.handle"

/-- The bound values, in the order of their places. -/
def bindings : Statement → List Binding
  | selectHandle handle => [.text handle]
  | selectResourceHandle type resource => [.number type.code, .number resource, .number 1]
  | selectHandlesWith start => [.text (Like.startingWith "handle.handle" start).bound]
  | nextId => []
  | insertHandle id handle type resource =>
    [.number id, .text handle, .number type.code, .number resource]

end Statement

end PersistentId
