import PersistentId.Http.RequestLine
import PersistentId.Text.Percent
import PersistentId.Text.Split

/-!
# PersistentId.Http.Target

What a request asks for: a path and the fields of a query.

Design points:

* The path is kept as it was sent. It is read in two ways: for choosing a route, where
  escaped slashes and percent signs stay escaped, and for display, where nothing is
  escaped any more. Segments that lead nowhere or back are not resolved.
* A query is a list of fields in the order of the request, names may repeat. Fields are
  separated by `&` only; a field without `=` has an empty value.
* Escapes in the path that spell no character stay as they were sent. In a query they
  become replacement characters.
-/

namespace PersistentId

/-- The target of a request. -/
structure Target where
  /-- The path as it was sent. -/
  path : List Char
  /-- The names and values of the query. -/
  fields : List (String × String)
  deriving DecidableEq, Repr

namespace Target

/-- The text of a name or a value in a query: a plus sign stands for a blank. -/
def queryText (s : List Char) : String :=
  String.ofList (Utf8.decodeAll (Percent.octets (s.map fun c => if c = '+' then ' ' else c)))

/-- One field of a query. -/
def field (s : List Char) : String × String :=
  let (name, value) := Text.cut '=' s
  (queryText name, queryText value)

/-- The fields of a query. Empty ones are skipped. -/
def queryFields (s : List Char) : List (String × String) :=
  ((Text.pieces '&' s).filter (!·.isEmpty)).map field

/-- The target that is a path of this service. A fragment is ignored. It starts with the
first `#` behind the question mark, but not next to it; without a question mark it starts
with the first `#`. -/
def ofPath (s : List Char) : Target :=
  if s.contains '?' then
    let (path, query) := Text.cut '?' s
    ⟨path, queryFields (query.take 1 ++ (query.drop 1).takeWhile (· != '#'))⟩
  else ⟨s.takeWhile (· != '#'), []⟩

/-- The target that is an address with a scheme. The host is not looked at. -/
def ofAddress? (s : List Char) : Option Target :=
  match s.dropWhile Char.isAlpha with
  | ':' :: '/' :: '/' :: rest =>
    let (rest, _) := Text.cut '#' rest
    let (rest, query) := Text.cut '?' rest
    some ⟨rest.dropWhile (· != '/'), queryFields query⟩
  | _ => none

/-- The target of a request line, if it is one. A tunnel has no path, and a question about
the service as a whole has a star in its place. -/
def ofLine? (line : RequestLine) : Option Target :=
  if line.method = "CONNECT" then some ⟨[], []⟩
  else if line.target.head? = some '/' then some (ofPath line.target)
  else if line.method = "OPTIONS" ∧ line.target = ['*'] then some ⟨['*'], []⟩
  else ofAddress? line.target

/-- The path by which a route is chosen. -/
def routePath (t : Target) : List Char :=
  Percent.decodeExcept (fun c => c = '/' || c = '%') t.path

/-- The path as it is shown. -/
def displayPath (t : Target) : String := String.ofList (Percent.decode t.path)

/-- The values of the fields of a name. -/
def values (t : Target) (name : String) : List String :=
  (t.fields.filter fun f => f.1 == name).map (·.2)

end Target

end PersistentId
