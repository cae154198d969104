import PersistentId.Text.Blank
import PersistentId.Text.Percent
import PersistentId.Text.Split
import PersistentId.Url.HostName
import PersistentId.Url.IpAddress

/-!
# PersistentId.Url.Database

Addresses of databases: URLs that may name several hosts.

Design points:

* Hosts are separated by commas and stand between the slashes and the path. Each is
  read as a URL of its own (`Single`); path, query and fragment belong to the last.
* The scheme takes lower case. A host keeps its spelling, except for characters that
  need an escape and for addresses of version 6.
* Segments of the path that lead nowhere or back are resolved.
* Schemes of the web have hosts of a stricter form. Their addresses are read as far as
  is needed to tell a malformed one.
-/

namespace PersistentId

namespace DatabaseUrl

/-- Why a text is no address. -/
inductive Fault
  | empty
  | noScheme
  | emptyHost
  | badPort
  | badAddress4
  | badAddress6
  | badHostCharacter
  | badHostName
  deriving DecidableEq, Repr

/-- How a fault is described. -/
def Fault.text : Fault → String
  | empty => "input is empty"
  | noScheme => "relative URL without a base"
  | emptyHost => "empty host"
  | badPort => "invalid port number"
  | badAddress4 => "invalid IPv4 address"
  | badAddress6 => "invalid IPv6 address"
  | badHostCharacter => "invalid domain character"
  | badHostName => "invalid international domain name"

/-! ### Escapes -/

/-- The characters that are escaped everywhere: controls, and all beyond ASCII. -/
def isControl (c : Char) : Bool := c.toNat < 0x20 || 0x7F ≤ c.toNat

/-- The characters that are escaped in a fragment. -/
def inFragment (c : Char) : Bool := isControl c || " \"<>`".toList.contains c

/-- The characters that are escaped in a query. -/
def inQuery (c : Char) : Bool := isControl c || " \"#<>".toList.contains c

/-- The characters that are escaped in a path. -/
def inPath (c : Char) : Bool := inFragment c || "#?\x7b\x7d".toList.contains c

/-- The characters that are escaped in a user name or a password. -/
def inLogin (c : Char) : Bool := inPath c || "/:;=@[\\]^|".toList.contains c

/-- A part with the characters of a kind escaped. -/
def escaped (needs : Char → Bool) (s : List Char) : List Char :=
  s.flatMap fun c => if needs c then Percent.escape c else [c]

/-! ### Scheme -/

/-- How the hosts of a scheme are read. -/
inductive Family
  /-- A scheme of the web: a host is needed, and a backslash is as good as a slash. -/
  | web
  /-- A scheme of files, which may lie on a host. -/
  | file
  /-- A scheme that gives no form to its hosts. -/
  | other
  deriving DecidableEq, Repr

/-- The family of a scheme. -/
def Family.of (scheme : List Char) : Family :=
  if ["http", "https", "ws", "wss", "ftp"].any (·.toList == scheme) then .web
  else if "file".toList == scheme then .file
  else .other

/-- Whether a backslash stands for a slash. -/
def Family.turnsBackslash (f : Family) : Bool := f != .other

/-- A character of a scheme. -/
def isSchemeChar (c : Char) : Bool :=
  (c.toNat < 0x80 && c.isAlphanum) || c == '+' || c == '-' || c == '.'

/-- The scheme, as it is written, and what follows its colon. -/
def splitScheme (s : List Char) : Except Fault (List Char × List Char) :=
  let scheme := s.takeWhile isSchemeChar
  match s.drop scheme.length with
  | ':' :: rest =>
    if scheme.head?.any Char.isAlpha then .ok (scheme, rest)
    else .error .noScheme
  | _ => .error .noScheme

/-- A slash of either kind. -/
def isSlash (c : Char) : Bool := c == '/' || c == '\\'

/-- Whether a character ends the hosts. -/
def endsHosts (family : Family) (c : Char) : Bool :=
  c == '/' || c == '?' || c == '#' || (family.turnsBackslash && c == '\\')

/-! ### Host -/

/-- The login in front of a host, with its mark, and what follows it. -/
def splitLogin (authority : List Char) : List Char × List Char :=
  match Text.cutLast? '@' authority with
  | none => ([], authority)
  | some (login, host) =>
    let (user, password) := Text.cut ':' login
    let text := escaped inLogin user ++
      (if password.isEmpty then [] else ':' :: escaped inLogin password)
    (if text.isEmpty then [] else text ++ ['@'], host)

/-- The host and what follows it. A colon inside brackets belongs to the host. -/
def splitHost (inside : Bool) : List Char → List Char × List Char
  | [] => ([], [])
  | c :: rest =>
    if c = ':' ∧ inside = false then ([], c :: rest)
    else
      let inside := if c = '[' then true else if c = ']' then false else inside
      let (host, after) := splitHost inside rest
      (c :: host, after)

/-- The characters a host must not hold. -/
def isForbidden (c : Char) : Bool := c.toNat == 0 || "\t\n\r #/:<>?@[\\]^|".toList.contains c

/-- An address of version 6 between brackets. -/
def bracketed (s : List Char) : Except Fault (List Char) :=
  if s.getLast? = some ']' then
    match IpAddress.six? (s.drop 1).dropLast with
    | some groups => .ok ('[' :: IpAddress.sixChars groups ++ [']'])
    | none => .error .badAddress6
  else .error .badAddress6

/-- A host of a scheme that gives no form to it. -/
def opaqueHost (s : List Char) : Except Fault (List Char) :=
  if s.head? = some '[' then bracketed s
  else if s.any isForbidden then .error .badHostCharacter
  else .ok (escaped isControl s)

/-- A number in an address of version 4: decimal, octal or hexadecimal. -/
def webNumber? (s : List Char) : Option Nat :=
  let (base, digits) : Nat × List Char := match s with
    | '0' :: x :: rest => if x = 'x' ∨ x = 'X' then (16, rest) else (8, x :: rest)
    | s => (10, s)
  (digits.mapM Text.hexValue?).bind fun ds =>
    if ds.all (· < base) then some (ds.foldl (fun n d => n * base + d) 0) else none

/-- Whether a host has to be an address of version 4: its last piece is a number. -/
def endsInNumber (s : List Char) : Bool :=
  let ps := (Text.pieces '.' s).reverse
  let last := match ps with
    | [] :: p :: _ => p
    | p :: _ => p
    | [] => []
  !last.isEmpty && (last.all Char.isDigit || (webNumber? last).isSome)

/-- Whether numbers are an address of version 4: the last one fills the octets that are
left. -/
def isAddress4 (s : List Char) : Bool :=
  let ps := Text.pieces '.' s
  let ps := if ps.getLast? = some [] then ps.dropLast else ps
  match ps.mapM fun p => if p.isEmpty then none else webNumber? p with
  | some ns =>
    ns.length ≤ 4 && ns.dropLast.all (· ≤ 255) &&
      ns.getLast?.any fun n => n < Nat.pow 256 (5 - ns.length)
  | none => false

/-- A host of a scheme of the web. -/
def webHost (s : List Char) : Except Fault (List Char) :=
  if s.isEmpty then .error .emptyHost
  else if s.head? = some '[' then bracketed s
  else
    match HostName.browserForm? (Percent.decode s) with
    | none => .error .badHostName
    | some name =>
      if name.any fun c => isForbidden c || c == '%' || c.toNat < 0x20 || c.toNat == 0x7F then
        .error .badHostName
      else if name.isEmpty then .error .emptyHost
      else if endsInNumber name && !isAddress4 name then .error .badAddress4
      else .ok name

/-- A port behind its colon, without leading zeros, and what follows it; nothing where no
digit stands. Only a backslash ends a port before the authority ends. -/
def port (s : List Char) : Except Fault (List Char × List Char) :=
  let digits := s.takeWhile Char.isDigit
  let rest := s.drop digits.length
  let n := Text.natOfDigits digits
  if 65535 < n || rest.head?.any (· != '\\') then .error .badPort
  else .ok (if digits.isEmpty then [] else ':' :: (toString n).toList, rest)

/-! ### Path, query and fragment -/

/-- A segment that leads nowhere. -/
def isDot (s : List Char) : Bool := s == ['.'] || s.map Char.toLower == ['%', '2', 'e']

/-- A segment that leads back. -/
def isDotDot (s : List Char) : Bool :=
  s == ['.', '.'] || s.map Char.toLower == "%2e.".toList || s.map Char.toLower == ".%2e".toList ||
    s.map Char.toLower == "%2e%2e".toList

/-- The segments without those that lead nowhere or back, behind the segments in
`before`, nearest first. Such a segment at the end leaves an empty one. -/
def resolveSegments (before : List (List Char)) : List (List Char) → List (List Char)
  | [] => before.reverse
  | s :: rest =>
    let ending := if rest.isEmpty then [[]] else []
    if isDotDot s then resolveSegments (ending ++ before.drop 1) rest
    else if isDot s then resolveSegments (ending ++ before) rest
    else resolveSegments (s :: before) rest

/-- A path behind its first slash, in canonical spelling. -/
def pathBody (s : List Char) : List Char :=
  ['/'].intercalate (resolveSegments [] (Text.pieces '/' (escaped inPath s)))

/-- A path in canonical spelling. It begins with a slash unless it is empty. -/
def path : List Char → List Char
  | [] => []
  | '/' :: rest => '/' :: pathBody rest
  | s => '/' :: pathBody s

/-- Path, query and fragment in canonical spelling. -/
def tail (s : List Char) : List Char :=
  let front := s.takeWhile (· != '#')
  let fragment := s.drop front.length
  let pathPart := front.takeWhile (· != '?')
  let query := front.drop pathPart.length
  path pathPart ++
    (match query with
     | [] => []
     | mark :: text => mark :: escaped inQuery text) ++
    (match fragment with
     | [] => []
     | mark :: text => mark :: escaped inFragment text)

/-! ### One host -/

/-- A URL that names one host at most. -/
structure Single where
  /-- Login, host and port, in canonical spelling. -/
  authority : List Char
  hasHost : Bool
  /-- Path, query and fragment, in canonical spelling. -/
  tail : List Char

/-- The URL behind the slashes in front of its authority. -/
def Single.ofAuthority (family : Family) (s : List Char) : Except Fault Single := do
  let authority := s.takeWhile (!endsHosts family ·)
  let rest := s.drop authority.length
  -- A mark with nothing on either side is no login, and no host follows it.
  if authority = ['@'] && !rest.isEmpty then throw .emptyHost
  let (login, hostport) := splitLogin authority
  let (host, portPart) := splitHost false hostport
  let host ← if family = .other then opaqueHost host else webHost host
  if host.isEmpty && !(login.isEmpty && portPart.isEmpty) then throw .emptyHost
  match portPart with
  | [] => return ⟨login ++ host, !host.isEmpty, DatabaseUrl.tail rest⟩
  | _ :: digits =>
    let (port, more) ← port digits
    return ⟨login ++ host ++ port, true, DatabaseUrl.tail (more ++ rest)⟩

/-- A drive of a file: a letter and a mark. -/
def isDrive (s : List Char) : Bool :=
  match s with
  | [letter, mark] => letter.isAlpha && (mark == ':' || mark == '|')
  | _ => false

/-- The URL of a file, behind its scheme. The host of this machine is as good as none. -/
def Single.ofFile (s : List Char) : Except Fault Single := do
  let slashes := s.take 2
  if slashes.length < 2 || !slashes.all isSlash then return ⟨[], false, DatabaseUrl.tail s⟩
  let host := (s.drop 2).takeWhile (!endsHosts .file ·)
  if host.isEmpty || isDrive host then return ⟨[], false, DatabaseUrl.tail (s.drop 2)⟩
  let name ← webHost host
  let isElsewhere := name != "localhost".toList
  return ⟨if isElsewhere then name else [], isElsewhere,
    DatabaseUrl.tail (s.drop (2 + host.length))⟩

/-- Reads a URL with one host at most. Blanks and controls at its ends do not count, tabs and
line breaks nowhere. -/
def Single.read (s : List Char) : Except Fault Single := do
  let s := (Text.trim (fun c => c.toNat ≤ 0x20) s).filter fun c =>
    !(c == '\t' || c == '\n' || c == '\r')
  let (scheme, s) ← splitScheme s
  match Family.of (scheme.map Char.toLower) with
  | .web => Single.ofAuthority .web (s.dropWhile isSlash)
  | .file => Single.ofFile s
  | .other =>
    match s with
    | '/' :: '/' :: s => Single.ofAuthority .other s
    | s => return ⟨[], false, s⟩

end DatabaseUrl

/-- An address of a database: its scheme and the rest of its text. -/
structure DatabaseUrl where
  scheme : String
  text : String
  /-- Whether it names a host. -/
  hasHost : Bool
  deriving DecidableEq, Repr

namespace DatabaseUrl

/-- The address made of URLs with one host each. -/
def ofSingles (scheme : List Char) (singles : List Single) : DatabaseUrl where
  scheme := String.ofList scheme
  text := String.ofList (scheme ++ "://".toList ++
    [','].intercalate (singles.map fun u => u.authority ++ u.tail))
  hasHost := singles.all (·.hasHost)

/-- Reads an address. What stands in front of the hosts is common to all of them. -/
def read (s : String) : Except Fault DatabaseUrl := do
  if s.isEmpty then throw .empty
  let s := Text.trim (fun c => c.toNat ≤ 0x20) s.toList
  let (scheme, rest) ← splitScheme s
  let lower := scheme.map Char.toLower
  let slashes := rest.takeWhile isSlash
  let rest := rest.drop slashes.length
  let hosts := rest.takeWhile (!endsHosts (Family.of lower) ·)
  let names := Text.pieces ',' hosts
  let front := names.dropLast
  if front.isEmpty then return ofSingles lower [← Single.read s]
  if front.any List.isEmpty then throw .emptyHost
  -- The last host comes first, since the rest of the address belongs to it.
  let common := scheme ++ ':' :: slashes
  let last ← Single.read (common ++ names.getLast?.getD [] ++ rest.drop hosts.length)
  if !last.hasHost then throw .emptyHost
  let others ← front.mapM fun name => Single.read (common ++ name)
  if others.any (!·.hasHost) then throw .emptyHost
  return ofSingles lower (others ++ [last])

end DatabaseUrl

end PersistentId
