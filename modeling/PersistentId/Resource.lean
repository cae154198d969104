/-!
# PersistentId.Resource

The objects a caller can hand to the registry, or get back from it.

An object is known by its kind and its id alone. An id may be missing: such an
object has not been stored yet, and no resolver recognises it.
-/

namespace PersistentId

/-- An object a caller can hand to the registry. -/
inductive Resource
  /-- An item of the repository. -/
  | item (id : Option Int)
  /-- An object that carries the word for its kind. -/
  | tagged (kind : String) (id : Option Int)
  /-- Anything else, of which only the name of its kind is known. -/
  | plain (kind : String)
  deriving DecidableEq, Repr

/-- How messages name the kind of an object. -/
def Resource.kindName : Resource → String
  | item _ => "Item"
  | tagged _ _ => "Resource"
  | plain kind => kind

end PersistentId
