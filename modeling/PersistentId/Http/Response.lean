import PersistentId.Failure
import PersistentId.Json.Basic

/-!
# PersistentId.Http.Response

What the service sends back.

Bodies are either JSON or one line that repeats the status. A response to `HEAD` is the
response to `GET` without its body. Failures of the registry become responses as
`raise_for_handle_exception` has it.
-/

namespace PersistentId

/-- A response: its status, the headers that matter, and its body. -/
structure Response where
  status : Nat
  contentType : Option String
  location : Option String
  allow : Option String
  body : String
  deriving DecidableEq, Repr

namespace Response

/-- A plain line of text. -/
def plainType : String := "text/plain; charset=utf-8"

/-- A response without a body. -/
def bare (status : Nat) : Response := ⟨status, none, none, none, ""⟩

/-- A response of plain text. -/
def plain (status : Nat) (body : String) : Response :=
  ⟨status, some plainType, none, none, body⟩

/-- The result of a request, as JSON. -/
def json (value : Json) : Response :=
  ⟨200, some "application/json; charset=utf-8", none, none, value.render⟩

/-- Why a request has no result, as JSON. -/
def problem (status : Nat) (value : Json) : Response :=
  ⟨status, some "application/json", none, none, value.render⟩

/-- There is no such address. -/
def notFound : Response := plain 404 "404: Not Found"

/-- The address does not answer the method. -/
def methodNotAllowed : Response :=
  { plain 405 "405: Method Not Allowed" with allow := some "GET,HEAD" }

/-- The object is published elsewhere. -/
def found (location : String) : Response :=
  { plain 302 "302: Found" with location := some location }

/-- Something went wrong that the request is not to blame for. -/
def serverError : Response :=
  plain 500 "500 Internal Server Error\n\nServer got itself in trouble"

/-- Nobody registered the handle. -/
def unknownHandle (handle : String) : Response :=
  problem 404 (.object [("error", .text "Handle not found"), ("handle", .text handle)])

/-- The request names no text to list handles by. -/
def missingPrefix : Response := problem 400 (.object [("error", .text "Missing prefix")])

/-- A failure of the registry, `raise_for_handle_exception`. -/
def ofError (e : HandleError) : Response :=
  problem e.category.status
    (.object [("error", .text e.message), ("error_type", .text e.category.label)])

/-- The response without its body. -/
def withoutBody (r : Response) : Response := { r with body := "" }

@[simp] theorem status_withoutBody (r : Response) : r.withoutBody.status = r.status := rfl
@[simp] theorem status_ofError (e : HandleError) :
    (ofError e).status = e.category.status := rfl

end Response

end PersistentId
