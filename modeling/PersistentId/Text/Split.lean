/-!
# PersistentId.Text.Split

Taking texts apart at a separator.
-/

namespace PersistentId

namespace Text

/-- The pieces between the occurrences of a separator: always one more than there are
separators. -/
def pieces (separator : Char) : List Char → List (List Char)
  | [] => [[]]
  | c :: rest =>
    if c = separator then [] :: pieces separator rest
    else
      match pieces separator rest with
      | p :: ps => (c :: p) :: ps
      | [] => [[c]]

/-- What stands in front of the first occurrence of a separator and what follows it;
everything and nothing where it does not occur. -/
def cut (separator : Char) (s : List Char) : List Char × List Char :=
  (s.takeWhile (· != separator), (s.dropWhile (· != separator)).drop 1)

/-- What stands in front of the last occurrence of a separator and what follows it, where
it occurs. -/
def cutLast? (separator : Char) (s : List Char) : Option (List Char × List Char) :=
  if s.contains separator then
    let behind := (s.reverse.takeWhile (· != separator)).reverse
    some (s.take (s.length - behind.length - 1), behind)
  else none

end Text

end PersistentId
