import PersistentId.Text.Blank
import PersistentId.Text.Digit
import PersistentId.Url.Escaping
import PersistentId.Url.HostName
import PersistentId.Url.IpAddress

/-!
# PersistentId.Url.Location

The address a redirect points to, in canonical spelling.

Design points:

* A text is split into scheme, authority, path, query and fragment by the delimiters
  alone, so a relative address is as good as an absolute one. Only a malformed
  authority makes the text no address.
* Scheme and host take lower case; the port a scheme has anyway is left out; a host
  outside ASCII takes its ASCII form.
* Segments that lead nowhere (`.`) or back (`..`) are resolved where there is a host.
  Without a host they are kept: what they refer to is not known.
* A query or a fragment without text loses its mark.
-/

namespace PersistentId

namespace Location

/-- Why a text is no address. -/
inductive Fault
  | malformed
  /-- Nothing stands where brackets call for a host. -/
  | missingHost
  /-- The host has no form in ASCII. -/
  | badName
  deriving DecidableEq, Repr

/-! ### Parts -/

/-- The parts of an address as they were written. -/
structure Parts where
  scheme : List Char
  authority : List Char
  path : List Char
  query : List Char
  fragment : List Char
  deriving DecidableEq, Repr

/-- A character of a scheme. -/
def isSchemeChar (c : Char) : Bool :=
  (c.toNat < 0x80 && c.isAlphanum) || c == '+' || c == '-' || c == '.'

/-- The scheme, in lower case, and what follows it. -/
def splitScheme (s : List Char) : List Char × List Char :=
  let front := s.takeWhile (· != ':')
  if front.length < s.length && !front.isEmpty && front.all isSchemeChar then
    (front.map Char.toLower, s.drop (front.length + 1))
  else ([], s)

/-- The authority and what follows it. -/
def splitAuthority : List Char → List Char × List Char
  | '/' :: '/' :: s =>
    let isEnd (c : Char) := c == '/' || c == '?' || c == '#'
    (s.takeWhile (!isEnd ·), s.dropWhile (!isEnd ·))
  | s => ([], s)

/-- Whether the text between brackets is an address of version 6, or one of a later
version. -/
def isBracketed (s : List Char) : Bool :=
  match s with
  | 'v' :: rest =>
    let version := rest.takeWhile (· != '.')
    !version.isEmpty && version.all (fun c => (Text.hexValue? c).isSome) &&
      version.length + 1 < rest.length && !(rest.drop (version.length + 1)).contains '\n'
  | _ => s.contains ':'

/-- The login in front of the host, with nothing in between where there is none, and host and
port. -/
def splitLogin (authority : List Char) : Option (List Char) × List Char :=
  match Text.cutLast? '@' authority with
  | some (login, rest) => (some login, rest)
  | none => (none, authority)

/-- The host, and the port behind its colon. Brackets around the host are left out. -/
def splitPort (hostport : List Char) : List Char × List Char :=
  if hostport.contains '[' then
    let (host, rest) := Text.cut ']' (Text.cut '[' hostport).2
    (host, (Text.cut ':' rest).2)
  else Text.cut ':' hostport

/-- Brackets stand around the host and nowhere else. Where an authority has some, its host has
to be an address. -/
def checkBrackets (authority : List Char) : Except Fault Unit :=
  let (_, hostport) := splitLogin authority
  let (front, rest) := Text.cut '[' hostport
  let (_, behind) := Text.cut ']' rest
  let isLoose := hostport.contains '[' && (!front.isEmpty || behind.head?.any (· != ':'))
  match authority.contains '[', authority.contains ']' with
  | false, false => .ok ()
  | true, true =>
    if isLoose then .error .malformed
    else
      let (host, _) := splitPort hostport
      if host.isEmpty then .error .missingHost
      else if isBracketed host then .ok ()
      else .error .malformed
  | _, _ => .error .malformed

/-- The parts of a text. Blanks and controls in front are left out, line breaks and tabs
everywhere. -/
def split (s : List Char) : Except Fault Parts := do
  let s := (s.dropWhile fun c => c.toNat ≤ 0x20).filter fun c =>
    !(c == '\t' || c == '\n' || c == '\r')
  let (scheme, s) := splitScheme s
  let (authority, s) := splitAuthority s
  checkBrackets authority
  if !HostName.isSound authority then throw .malformed
  let (s, fragment) := Text.cut '#' s
  let (path, query) := Text.cut '?' s
  return ⟨scheme, authority, path, query, fragment⟩

/-! ### Authority -/

/-- The parts of an authority. -/
structure Authority where
  user : Option (List Char)
  password : Option (List Char)
  host : Option (List Char)
  port : Option Nat
  deriving DecidableEq, Repr

/-- A text, unless it is empty. -/
def nonempty? (s : List Char) : Option (List Char) := if s.isEmpty then none else some s

/-- The number that digits of any script spell. Single underscores may separate them. -/
def number? (s : List Char) : Option Nat := do
  let ps := Text.pieces '_' s
  if ps.any List.isEmpty then none
  else
    let ds ← ps.flatten.mapM Text.digitValue?
    pure (ds.foldl (fun n d => n * 10 + d) 0)

/-- A port number: blanks around it and a sign are allowed, its bound is not. -/
def port? (s : List Char) : Option Nat :=
  let n? := match Text.trim Text.isBlank s with
    | '+' :: digits => number? digits
    | '-' :: digits => (number? digits).bind fun n => if n = 0 then some 0 else none
    | digits => number? digits
  n?.bind fun n => if n ≤ 65535 then some n else none

/-- The parts of an authority, unless its port is none. -/
def Authority.split? (s : List Char) : Option Authority :=
  let (login, hostport) := splitLogin s
  let (host, port) := splitPort hostport
  let login := login.getD []
  let user := nonempty? (Text.cut ':' login).1
  let password := if login.contains ':' then some (Text.cut ':' login).2 else none
  if port.isEmpty then some ⟨user, password, nonempty? host, none⟩
  else (port? port).map fun n => ⟨user, password, nonempty? host, some n⟩

/-- A host in canonical spelling. -/
def canonicalHost (s : List Char) : Except Fault (List Char) :=
  let (address, _) := Text.cut '%' s
  let zone := s.drop address.length
  let mayBeAddress := s.contains ':' || s.getLast?.any Text.isDecimalDigit
  match mayBeAddress, IpAddress.four? address, IpAddress.six? address with
  | true, some _, _ => .ok s
  | true, none, some groups => .ok ('[' :: IpAddress.sixChars groups ++ zone ++ [']'])
  | _, _, _ =>
    match HostName.ascii? s with
    | some name => .ok name
    | none => .error .badName

/-- The ports that schemes have anyway. -/
def defaultPort? (scheme : List Char) : Option Nat :=
  ([ ("http", 80), ("https", 443), ("ws", 80), ("wss", 443), ("ftp", 21) ].find?
    fun p => p.1.toList == scheme).map (·.2)

/-- The login in front of a host, with its mark. -/
def Authority.login (a : Authority) : List Char :=
  let user := (a.user.map Escaping.login.canonical).getD []
  match a.password with
  | some password => user ++ ':' :: Escaping.login.canonical password ++ ['@']
  | none => if user.isEmpty then [] else user ++ ['@']

/-- A host whose brackets are set anew: only one with a colon has them. -/
def bracketAnew (host : List Char) : List Char :=
  let bare := if host.contains '[' then (host.drop 1).dropLast else host
  if bare.contains ':' then '[' :: bare ++ [']'] else bare

/-- An authority in canonical spelling. Brackets are looked after only where a port is left
out. -/
def Authority.canonical (a : Authority) (scheme : List Char) : Except Fault (List Char) := do
  let host ← canonicalHost (a.host.getD [])
  match a.port with
  | none => return a.login ++ host
  | some n =>
    if defaultPort? scheme = some n then return a.login ++ bracketAnew host
    else return a.login ++ host ++ ':' :: (toString n).toList

/-- The canonical spelling of the authority of an address. Some schemes need a host. -/
def canonicalAuthority (parts : Parts) : Except Fault (List Char) :=
  if parts.authority.isEmpty then .ok []
  else
    match Authority.split? parts.authority with
    | none => .error .malformed
    | some a =>
      if a.host.isNone && (defaultPort? parts.scheme).isSome then .error .malformed
      else a.canonical parts.scheme

/-! ### Path -/

/-- The segments without those that lead nowhere or back, behind the segments in
`before`, nearest first. -/
def resolveSegments (before : List (List Char)) : List (List Char) → List (List Char)
  | [] => before.reverse
  | s :: rest =>
    if s = ['.', '.'] then resolveSegments (before.drop 1) rest
    else if s = ['.'] then resolveSegments before rest
    else resolveSegments (s :: before) rest

/-- A path without segments that lead nowhere or back. -/
def resolvePath (path : List Char) : List Char :=
  let (root, path) := match path with
    | '/' :: rest => (['/'], rest)
    | rest => ([], rest)
  let segments := Text.pieces '/' path
  let last := segments.getLast?.getD []
  let tail := if last = ['.'] ∨ last = ['.', '.'] then [[]] else []
  root ++ ['/'].intercalate (resolveSegments [] segments ++ tail)

/-! ### The whole address -/

/-- The schemes whose addresses are written with an authority even if it is empty. -/
def hierarchical : List String :=
  [ "ftp", "http", "gopher", "nntp", "telnet", "imap", "wais", "file", "mms", "https", "shttp",
    "snews", "prospero", "rtsp", "rtsps", "rtspu", "rsync", "svn", "svn+ssh", "sftp", "nfs", "git",
    "git+ssh", "ws", "wss" ]

/-- The text of the parts, once each has its canonical spelling. -/
def Parts.chars (p : Parts) : List Char :=
  let scheme := if p.scheme.isEmpty then [] else p.scheme ++ [':']
  let hasAuthority := !p.authority.isEmpty || hierarchical.any (·.toList == p.scheme) ||
    ['/', '/'].isPrefixOf p.path
  let authority := if hasAuthority then '/' :: '/' :: p.authority else []
  let isRelative := !p.path.isEmpty && p.path.head? != some '/'
  let path := if hasAuthority && isRelative then '/' :: p.path else p.path
  scheme ++ authority ++ path ++ (if p.query.isEmpty then [] else '?' :: p.query) ++
    (if p.fragment.isEmpty then [] else '#' :: p.fragment)

/-- A path that does not look like a scheme with something behind it: a colon that makes it
look like one is escaped. -/
def guardColon (path : List Char) : List Char :=
  let (front, rest) := splitScheme path
  if front.isEmpty then path else path.take front.length ++ "%3A".toList ++ rest

/-- The parts in canonical spelling. -/
def Parts.canonical (p : Parts) : Except Fault Parts := do
  let authority ← canonicalAuthority p
  let path := Escaping.path.canonical p.path
  let path := if !authority.isEmpty && path.contains '.' then resolvePath path else path
  let path := if p.scheme.isEmpty && authority.isEmpty then guardColon path else path
  let query := Escaping.query.canonical p.query
  let fragment := Escaping.fragment.canonical p.fragment
  let path :=
    if path.isEmpty && !authority.isEmpty && !(query.isEmpty && fragment.isEmpty) then ['/']
    else path
  return ⟨p.scheme, authority, path, query, fragment⟩

/-- The canonical spelling of an address, or why the text is none. -/
def canonical (address : String) : Except Fault String := do
  let parts ← split address.toList
  return String.ofList (← parts.canonical).chars

end Location

end PersistentId
