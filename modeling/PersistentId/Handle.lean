/-!
# PersistentId.Handle

The text of a **handle**: the identifier under which a repository object is
published.

Design points:

* A handle is plain text. No syntax is checked anywhere: any text can be
  stored, looked up and shown in canonical form.
* A *minted* handle is a site prefix, one slash and a decimal suffix
  (`Handle.compose`). The slash is added only where the prefix does not end in
  one already, so a site may configure its prefix either way.
* Integers of very many digits are not written at all. So `compose_handle`, which
  takes any integer, can fail (`Handle.compose?`).

The functions are `get_canonical_form`, `with_trailing_slash` and `compose_handle`.
-/

namespace PersistentId

namespace Handle

/-- What a handle in canonical form starts with. -/
def scheme : String := "hdl:"

/-- The canonical form of a handle: its text behind the scheme. -/
def canonical (handle : String) : String := scheme ++ handle

/-- The text with a slash at its end, added only where there is none. -/
def withTrailingSlash (s : String) : String :=
  if s.toList.getLast? = some '/' then s else s ++ "/"

/-- The handle a site mints for a numeric suffix: exactly one slash stands
between the two. -/
def compose (site : String) (suffix : Int) : String :=
  withTrailingSlash site ++ toString suffix

/-- Integers of more digits than this are not written. -/
def longestNumber : Nat := 4300

/-- The message for an integer that is too long to be written. -/
def tooLong : String :=
  "Exceeds the limit (" ++ toString longestNumber ++
    " digits) for integer string conversion; use sys.set_int_max_str_digits() to increase the limit"

/-- The handle of a site for any integer, unless the integer is too long to be written. -/
def compose? (site : String) (suffix : Int) : Except String String :=
  if (Nat.toDigits 10 suffix.natAbs).length ≤ longestNumber then .ok (compose site suffix)
  else .error tooLong

/-- A text that ends in a slash is left alone. -/
theorem withTrailingSlash_of_slash {s : String} (h : s.toList.getLast? = some '/') :
    withTrailingSlash s = s := if_pos h

/-- A text that does not end in a slash gets one. -/
theorem withTrailingSlash_of_no_slash {s : String} (h : s.toList.getLast? ≠ some '/') :
    withTrailingSlash s = s ++ "/" := if_neg h

/-- Whatever the text was, it ends in a slash afterwards. -/
@[simp] theorem getLast?_withTrailingSlash (s : String) :
    (withTrailingSlash s).toList.getLast? = some '/' := by
  by_cases h : s.toList.getLast? = some '/'
  · rw [withTrailingSlash_of_slash h, h]
  · rw [withTrailingSlash_of_no_slash h]
    simp

/-- A second slash is never added. -/
@[simp] theorem withTrailingSlash_withTrailingSlash (s : String) :
    withTrailingSlash (withTrailingSlash s) = withTrailingSlash s :=
  withTrailingSlash_of_slash (getLast?_withTrailingSlash s)

end Handle

end PersistentId
