import PersistentId.Http.Target

/-!
# PersistentId.Http.Route

The addresses the service answers, `add_routes`, and what each of them asks for.

Every route answers the methods `HEAD` and `GET`. The pattern of a route names it in
measurements, so that these do not grow with the number of handles.
-/

namespace PersistentId

/-- What a request to the service can ask for. -/
inductive Route
  /-- Where the object of a handle is published. -/
  | redirect (handle : String)
  /-- Whether the service runs. -/
  | alive
  /-- Whether the service can reach its database. -/
  | ready
  /-- The addresses of several handles. -/
  | resolve
  /-- The handles that start with a given text. -/
  | listing
  deriving DecidableEq, Repr

namespace Route

/-- The path that every handle is put behind. -/
def handleRoot : List Char := "/handle/".toList

/-- The routes with a path of their own. -/
def fixed : List (String × Route) :=
  [ ("/internal/alive", alive), ("/internal/ready", ready), ("/internal/api/resolve", resolve),
    ("/internal/api/handles", listing) ]

/-- How measurements name the route. -/
def pattern : Route → String
  | redirect _ => "/handle/\x7bhandle\x7d"
  | alive => "/internal/alive"
  | ready => "/internal/ready"
  | resolve => "/internal/api/resolve"
  | listing => "/internal/api/handles"

/-- The patterns of all routes, in the order in which they are tried. -/
def patterns : List String :=
  [(redirect "").pattern, alive.pattern, ready.pattern, resolve.pattern, listing.pattern]

/-- The methods every route answers. -/
def methods : List String := ["HEAD", "GET"]

/-- Undoes the escapes that were kept for choosing a route: slashes first, then percent
signs. -/
def unescapeSlash : List Char → List Char
  | '%' :: '2' :: 'F' :: rest => '/' :: unescapeSlash rest
  | c :: rest => c :: unescapeSlash rest
  | [] => []

/-- Undoes the escapes of percent signs. -/
def unescapePercent : List Char → List Char
  | '%' :: '2' :: '5' :: rest => '%' :: unescapePercent rest
  | c :: rest => c :: unescapePercent rest
  | [] => []

/-- The handle that follows the common path of all handles. It is not empty and stays on
one line. -/
def handleOf? (path : List Char) : Option String :=
  let rest := path.drop handleRoot.length
  if handleRoot.isPrefixOf path && !rest.isEmpty && !rest.contains '\n' then
    some (String.ofList (unescapePercent (unescapeSlash rest)))
  else none

/-- The route of a target, if there is one. -/
def ofTarget? (t : Target) : Option Route :=
  match handleOf? t.routePath with
  | some handle => some (redirect handle)
  | none => (fixed.find? fun r => r.1.toList == t.routePath).map (·.2)

end Route

end PersistentId
