import PersistentId.Text.Quoted
import PersistentId.Text.Utf8

/-!
# PersistentId.Http.RequestLine

The line a request starts with: a method, the target, and the version of the protocol.

Design points:

* A line is a list of octets, each given as the character of its number. It is read from
  left to right, octet by octet, and the first octet that cannot stand where it stands
  ends the reading (`Misread`). What was not read by then tells where that was.
* The target is followed part by part (`Part`), because every part admits characters of
  its own. A blank ends the target, and blanks may stand in front of it and behind it.
* A line break ends the line early. What follows it is a field of the head, which starts
  with its name and a colon.
-/

namespace PersistentId

namespace RequestLine

/-- Why a line is no request. -/
inductive Fault
  | method
  | noBlankBehindMethod
  /-- White space where an address has to begin. -/
  | blankInTarget
  | targetStart
  | scheme
  | authority
  | doubleAt
  | path
  | query
  | fragment
  /-- A carriage return without a line feed behind it. -/
  | loneReturn
  /-- A target of too many octets, which begins like this. -/
  | longTarget (start : List Char)
  | protocol
  | httpMethod
  | rtspMethod
  | iceMethod
  | major
  | dot
  | minor
  | version
  | lineEnd
  | fieldName
  deriving DecidableEq, Repr

namespace Fault

/-- A target has no more octets than this. -/
def longestTarget : Nat := 8190

/-- Faults behind the target concern the protocol. -/
def isOfProtocol : Fault → Bool
  | protocol | httpMethod | rtspMethod | iceMethod => true
  | major | dot | minor | version | lineEnd => true
  | _ => false

/-- What is wrong, in words. -/
def reason : Fault → String
  | method => "Invalid method encountered"
  | noBlankBehindMethod => "Expected space after method"
  | blankInTarget => "Invalid characters in url"
  | targetStart => "Unexpected start char in url"
  | scheme => "Unexpected char in url schema"
  | authority => "Unexpected char in url server"
  | doubleAt => "Double @ in url"
  | path => "Invalid char in url path"
  | query => "Invalid char in url query"
  | fragment => "Invalid char in url fragment start"
  | loneReturn => "Expected CRLF"
  | longTarget start =>
    "Got more than " ++ toString longestTarget ++ " bytes when reading: " ++
      String.ofList (Text.quotedOctets (start ++ ['.', '.', '.'])) ++ "."
  | protocol => "Expected HTTP/, RTSP/ or ICE/"
  | httpMethod => "Invalid method for HTTP/x.x request"
  | rtspMethod => "Invalid method for RTSP/x.x request"
  | iceMethod => "Expected SOURCE method for ICE/x.x request"
  | major => "Invalid major version"
  | dot => "Expected dot"
  | minor => "Invalid minor version"
  | version => "Invalid HTTP version"
  | lineEnd => "Expected CRLF after version"
  | fieldName => "Invalid header token"

end Fault

/-- A fault, and what was not read when it was noticed. -/
structure Misread where
  fault : Fault
  unread : List Char
  deriving DecidableEq, Repr

/-! ### Words -/

/-- Reads on while some of the words can still come of it. Tells whether one of them did,
and what follows. -/
def follow (words : List (List Char)) : List Char → Bool × List Char
  | [] => (words.contains [], [])
  | c :: rest =>
    match words.filterMap fun w => if w.head? = some c then some (w.drop 1) else none with
    | [] => (words.contains [], c :: rest)
    | longer => follow longer rest

/-- What the text holds in front of its unread rest. -/
def readPart (s unread : List Char) : List Char := s.take (s.length - unread.length)

/-- The methods of requests over the hypertext protocol. -/
def httpMethods : List String :=
  [ "DELETE", "GET", "HEAD", "POST", "PUT", "CONNECT", "OPTIONS", "TRACE", "COPY", "LOCK", "MKCOL",
    "MOVE", "PROPFIND", "PROPPATCH", "SEARCH", "UNLOCK", "BIND", "REBIND", "UNBIND", "ACL",
    "REPORT", "MKACTIVITY", "CHECKOUT", "MERGE", "M-SEARCH", "NOTIFY", "SUBSCRIBE",
    "UNSUBSCRIBE", "PATCH", "PURGE", "MKCALENDAR", "LINK", "UNLINK", "PRI", "SOURCE", "QUERY" ]

/-- The methods of requests over the streaming protocol that no other one has. -/
def streamingMethods : List String :=
  [ "DESCRIBE", "ANNOUNCE", "SETUP", "PLAY", "PAUSE", "TEARDOWN", "GET_PARAMETER",
    "SET_PARAMETER", "REDIRECT", "RECORD", "FLUSH" ]

/-- The methods of requests over the streaming protocol. -/
def rtspMethods : List String := "OPTIONS" :: "GET" :: "POST" :: streamingMethods

/-- Every method that can stand at the start of a line. -/
def methods : List (List Char) := (httpMethods ++ streamingMethods).map (·.toList)

/-- The method at the start of a line, and what follows the blanks behind it. -/
def readMethod (line : List Char) : Except Misread (List Char × List Char) :=
  match follow methods line with
  | (false, unread) => .error ⟨.method, unread⟩
  | (true, ' ' :: rest) => .ok (readPart line (' ' :: rest), rest.dropWhile (· = ' '))
  | (true, unread) => .error ⟨.noBlankBehindMethod, unread⟩

/-! ### Targets -/

/-- The part of a target to which the next octet belongs. -/
inductive Part
  | start
  | scheme
  /-- Behind the colon of a scheme. -/
  | slash
  /-- Behind the first slash that follows a scheme. -/
  | secondSlash
  | authority
  /-- Behind an at sign, which another one must not follow. -/
  | host
  | path
  | query
  | fragment
  deriving DecidableEq, Repr

/-- What becomes of the next octet. -/
inductive Move
  /-- It belongs to the target, and the part is that of the octet behind it. -/
  | into (next : Part)
  /-- The target ended in front of it. -/
  | done
  /-- It cannot stand here. -/
  | refuse (fault : Fault)
  /-- It cannot stand here, which is noticed behind it. -/
  | refuseBehind (fault : Fault)
  deriving DecidableEq, Repr

/-- The characters of an authority, apart from the at sign: those of names, of passwords
and of addresses in brackets. -/
def isAuthorityChar (c : Char) : Bool :=
  c.isAlphanum || "-_.!~*'()%;:&=+$,[]".toList.contains c

/-- The characters of a path: the printable ASCII ones that end no part. -/
def isPathChar (c : Char) : Bool := '!' ≤ c && c ≤ '~' && c ≠ '?' && c ≠ '#'

/-- The octets that end a target: a blank and both octets of a line break. -/
def isEnd (c : Char) : Bool := c = ' ' || c = '\r' || c = '\n'

/-- What becomes of an octet in a part of a target. -/
def Part.move (part : Part) (c : Char) : Move :=
  if c = '\t' ∨ c = '\x0c' then .refuseBehind .blankInTarget
  else
    match part with
    | start =>
      if c = '/' ∨ c = '*' then .into path
      else if c.isAlpha then .into scheme
      else if isEnd c then .refuseBehind .blankInTarget
      else .refuse .targetStart
    | scheme =>
      if c.isAlpha then .into scheme
      else if c = ':' then .into slash
      else if isEnd c then .refuseBehind .blankInTarget
      else .refuse .scheme
    | slash =>
      if c = '/' then .into secondSlash
      else if isEnd c then .refuseBehind .blankInTarget
      else .refuse .scheme
    | secondSlash => if c = '/' then .into authority else .refuse .scheme
    | authority =>
      if c = '@' then .into host else ofAuthority c
    | host =>
      if c = '@' then .refuseBehind .doubleAt else ofAuthority c
    | path =>
      if isPathChar c then .into path
      else if c = '?' then .into query
      else if c = '#' then .into fragment
      else if isEnd c then .done
      else .refuse .path
    | query =>
      if isPathChar c || c = '?' then .into query
      else if c = '#' then .into fragment
      else if isEnd c then .done
      else .refuse .query
    | fragment =>
      if isPathChar c || c = '?' || c = '#' then .into fragment
      else if isEnd c then .done
      else .refuse .fragment
where
  ofAuthority (c : Char) : Move :=
    if c = '/' then .into path
    else if c = '?' then .into query
    else if isAuthorityChar c then .into authority
    else if isEnd c then .done
    else .refuse .authority

/-- What follows a target that goes on with a given part. -/
def afterTarget (part : Part) : List Char → Except Misread (List Char)
  | [] => .ok []
  | c :: rest =>
    match part.move c with
    | .into next => afterTarget next rest
    | .done => .ok (c :: rest)
    | .refuse fault => .error ⟨fault, c :: rest⟩
    | .refuseBehind fault => .error ⟨fault, rest⟩

/-- The part with which the target of a method begins: that of a tunnel is an authority. -/
def Part.first (method : List Char) : Part :=
  if method = "CONNECT".toList then host else start

/-! ### Versions -/

/-- Whether a method may be used over the protocol whose name and slash were just read. -/
def methodFault? (method protocol : List Char) : Option Fault :=
  let isOneOf (known : List String) := known.contains (String.ofList method)
  if protocol = "HTTP/".toList then if isOneOf httpMethods then none else some .httpMethod
  else if protocol = "RTSP/".toList then if isOneOf rtspMethods then none else some .rtspMethod
  else if method = "SOURCE".toList then none
  else some .iceMethod

/-- The versions in use. -/
def versions : List (Char × Char) := [('0', '9'), ('1', '0'), ('1', '1'), ('2', '0')]

/-- Reads the fields that follow a line break, up to an empty line. -/
def readFields (s : List Char) : Except Misread Unit :=
  if s.isEmpty || "\r\n".toList.isPrefixOf s then .ok ()
  else
    let isNameChar (c : Char) : Bool := c.isAlphanum || "!#$%&'*+-.^_|~\x60".toList.contains c
    match s.dropWhile isNameChar with
    | ':' :: _ => .ok ()
    | unread => .error ⟨.fieldName, unread⟩

/-- Reads a version up to the end of its line. -/
def readVersion (s : List Char) : Except Misread Unit :=
  match s with
  | x :: rest =>
    if !x.isDigit then .error ⟨.major, s⟩
    else
      match rest with
      | '.' :: y :: rest =>
        if !y.isDigit then .error ⟨.minor, y :: rest⟩
        else if !versions.contains (x, y) then .error ⟨.version, rest⟩
        else
          match rest with
          | [] => .ok ()
          | '\r' :: '\n' :: fields => readFields fields
          | '\r' :: rest => .error ⟨.lineEnd, rest⟩
          | rest => .error ⟨.lineEnd, rest⟩
      | '.' :: rest => .error ⟨.minor, rest⟩
      | rest => .error ⟨.dot, rest⟩
  | [] => .error ⟨.major, []⟩

/-- Reads what follows the target of a method. -/
def readProtocol (method s : List Char) : Except Misread Unit :=
  match s with
  | '\r' :: '\n' :: fields => readFields fields
  | '\r' :: unread => .error ⟨.loneReturn, unread⟩
  | '\n' :: fields => readFields fields
  | [] => .ok ()
  | _ =>
    let s := s.dropWhile (· = ' ')
    match follow ["HTTP/".toList, "RTSP/".toList, "ICE/".toList] s with
    | (false, unread) => .error ⟨.protocol, unread⟩
    | (true, version) =>
      match methodFault? method (readPart s version) with
      | some fault => .error ⟨fault, version⟩
      | none => readVersion version

/-! ### Lines -/

end RequestLine

/-- A line that was read: its method and its target. -/
structure RequestLine where
  method : String
  target : List Char
  deriving DecidableEq, Repr

namespace RequestLine

/-- The octets of a line. -/
def octets (method target : String) : List Char :=
  ((method ++ " " ++ target ++ " HTTP/1.1").toList.flatMap Utf8.encode).map Char.ofNat

/-- Reads a line. Line breaks in front of it are skipped. -/
def read (line : List Char) : Except Misread RequestLine := do
  let (method, rest) ← readMethod (line.dropWhile fun c => c = '\r' ∨ c = '\n')
  let unread ← afterTarget (.first method) rest
  let target := readPart rest unread
  if Fault.longestTarget < target.length then
    throw ⟨.longTarget (target.take 100), unread⟩
  readProtocol method unread
  return ⟨String.ofList method, target⟩

/-- What stands in front of the first place where two characters follow each other. -/
def upTo (a b : Char) : List Char → List Char
  | [] => []
  | [c] => [c]
  | c :: d :: rest => if c = a ∧ d = b then [] else c :: upTo a b (d :: rest)

/-- The line in which two parts of a text meet: what belongs to it of the first part, and
what of the second one. -/
def lineAt (before after : List Char) : List Char × List Char :=
  ((upTo '\n' '\r' before.reverse).reverse, upTo '\r' '\n' after)

/-- The line in which a fault was noticed, with a mark below the octet. -/
def Misread.excerpt (line : List Char) (m : Misread) : String :=
  let (before, after) := lineAt (readPart line m.unread) m.unread
  let indent := List.replicate ((Text.quotedOctets before).length + 1) ' '
  ":\n\n  " ++ String.ofList (Text.quotedOctets (before ++ after)) ++ "\n" ++
    String.ofList indent ++ "^"

/-- The message for a line that is no request: what is wrong, and where. -/
def Misread.message (line : List Char) (m : Misread) : String :=
  match m.fault with
  | .longTarget _ => m.fault.reason
  | _ =>
    (if m.fault.isOfProtocol then "Bad status line:\n  " else "") ++ m.fault.reason ++
      m.excerpt line

end RequestLine

end PersistentId
