import PageLandmarks.Http.Host
import PageLandmarks.Text.Numeral

/-!
# PageLandmarks.Http.Target

**The target of a request**: a path, or a full address with scheme, authority,
path, query and fragment. It leads to the service itself or to a host
(`Target.destination`), and there to one path (`Destination.servedPath`): the query
and the fragment are left out, the segments `.` and `..` are carried out, and what
is escaped by `%` and two hexadecimal digits is put in plain, also where an escape
has been escaped itself.

A target without scheme and host is relative to the root of the service, however
many slashes it begins with.
-/

namespace PageLandmarks.Http

/-- Why a target cannot be taken. -/
inductive TargetError
  | tooLong
  | controlCharacter (c : Char) (position : Nat)
  | host (e : HostError)
  | invalidPort (port : String)
  | beginsWithSlashes
  | beginsWithColon
  /-- A part of the target is too long once it is escaped. -/
  | partTooLong (part : String)
  /-- No service answers under this scheme. -/
  | unknownScheme (scheme : String)
  /-- The host is an encoded name that stands for none. -/
  | name (e : Host.NameError)
  deriving Repr, DecidableEq

/-- The wording of a target error. -/
def TargetError.message : TargetError → String
  | tooLong => "URL too long"
  | controlCharacter c position =>
    "Invalid non-printable ASCII character in URL, " ++ Text.quoted (.ofList [c]) ++
      " at position " ++ toString position ++ "."
  | host e => e.message
  | invalidPort port => "Invalid port: " ++ Text.quoted port
  | beginsWithSlashes => "Relative URLs cannot have a path starting with '//'"
  | beginsWithColon => "Relative URLs cannot have a path starting with ':'"
  | partTooLong part => "URL component " ++ Text.quoted part ++ " too long"
  | unknownScheme scheme => Text.quoted scheme
  | name e => e.message

namespace Target

/-! ### Parts -/

/-- The parts of a target that matter to a service. -/
structure Parts where
  /-- The scheme, empty if there is none. -/
  scheme : List Char
  /-- What stands between two slashes and the path. -/
  authority : List Char
  /-- The path. -/
  path : List Char
  /-- What stands between a question mark and the fragment. -/
  query : List Char

/-- A character of a scheme after its first. -/
def isSchemeChar (c : Char) : Bool := c.isAlphanum || c == '+' || c == '.' || c == '-'

/-- The scheme of a target, and what follows its colon. It may be empty. -/
def splitScheme (cs : List Char) : List Char × List Char :=
  let scheme := cs.takeWhile isSchemeChar
  let isScheme := match scheme with
    | c :: _ => c.isAlpha
    | [] => true
  match cs.drop scheme.length with
  | ':' :: rest => if isScheme then (scheme, rest) else ([], cs)
  | _ => ([], cs)

/-- The parts of a target. -/
def parts (cs : List Char) : Parts :=
  let (scheme, rest) := splitScheme cs
  let (authority, rest) : List Char × List Char :=
    match rest with
    | '/' :: '/' :: tail =>
      let authority := tail.takeWhile fun c => !(c == '/' || c == '?' || c == '#')
      (authority, tail.drop authority.length)
    | _ => ([], rest)
  let path := rest.takeWhile fun c => !(c == '?' || c == '#')
  let query := match rest.drop path.length with
    | '?' :: tail => tail.takeWhile (· != '#')
    | _ => []
  ⟨scheme.map Char.toLower, authority, path, query⟩

/-- The text up to the last closing bracket. -/
def throughBracket (cs : List Char) : List Char := (cs.reverse.dropWhile (· != ']')).reverse

/-- The host and the port of an authority. They follow the last `@`; the host is in
brackets or ends at the first colon. -/
def hostAndPort (authority : List Char) : List Char × List Char :=
  let address := (authority.reverse.takeWhile (· != '@')).reverse
  let host :=
    if address.head? = some '[' ∧ address.contains ']' then throughBracket address
    else address.takeWhile (· != ':')
  let port := address.drop host.length
  (host, if port.head? = some ':' then port.drop 1 else port)

/-- What stands before the last `@` of an authority. -/
def userOf (authority : List Char) : List Char :=
  ((authority.reverse.dropWhile (· != '@')).drop 1).reverse

/-! ### Paths -/

/-- Carry out the segments `.` and `..`, after the segments `done`, the last one
first. -/
def withoutDots (done : List (List Char)) : List (List Char) → List (List Char)
  | [] => done.reverse
  | ['.'] :: rest => withoutDots done rest
  | ['.', '.'] :: rest => withoutDots (if done = [[]] then done else done.drop 1) rest
  | segment :: rest => withoutDots (segment :: done) rest

/-- A path with its segments `.` and `..` carried out. -/
def normalized (path : List Char) : List Char :=
  ['/'].intercalate (withoutDots [] (path.splitOn '/'))

/-- A path with its escapes put in plain. An octet beyond ASCII is shown as the
character with its number. -/
def unescaped : List Char → List Char
  | [] => []
  | '%' :: a :: b :: rest =>
    match Text.ofHex? [a, b] with
    | some n => Char.ofNat n :: unescaped rest
    | none => '%' :: unescaped (a :: b :: rest)
  | c :: rest => c :: unescaped rest

/-- The length of a text once it is escaped: three characters stand for each octet
of a character that cannot stay. Escapes stay. -/
def escapedLength (leaves : Char → Bool) : List Char → Nat
  | [] => 0
  | '%' :: a :: b :: rest =>
    if Text.isHexDigit a && Text.isHexDigit b then 3 + escapedLength leaves rest
    else 1 + escapedLength leaves (a :: b :: rest)
  | c :: rest => (if leaves c then 1 else 3 * c.utf8Size) + escapedLength leaves rest

/-- A character that stays in a query. -/
def staysInQuery (c : Char) : Bool := c.toNat < 0x80 && !" \"#<>".toList.contains c

/-- A character that stays in a path. -/
def staysInPath (c : Char) : Bool := staysInQuery c && !"?`\x7b\x7d".toList.contains c

/-- The path, or that of the root if it is empty. -/
def orRoot (path : List Char) : List Char := if path.isEmpty then ['/'] else path

/-! ### Targets -/

/-- A control character of ASCII. -/
def isControl (c : Char) : Bool := c.toNat < 0x20 || c.toNat == 0x7F

/-- The greatest length of a target, and of its path and its query once they are
escaped. -/
def lengthLimit : Nat := 65536

/-- The schemes under which the service answers. -/
def schemes : List String := ["http", "https"]

end Target

open Target

/-- Where a target leads. -/
inductive Destination
  /-- To a path of the service itself. -/
  | service (path : List Char)
  /-- To a path of a host. -/
  | host (scheme name path : List Char)

/-- The path that a service is asked for. Every host is the service, if it can be
named. -/
def Destination.servedPath : Destination → Except TargetError String
  | service path => .ok (.ofList (unescaped (unescaped path)))
  | host scheme name path => do
    if !schemes.contains (.ofList scheme) then throw (.unknownScheme (.ofList scheme))
    (Host.Name.checkEncoded name).mapError .name
    return .ofList (unescaped (unescaped path))

namespace Target

/-- A path of the service itself, from the root on. The parts of the target are
escaped before they are put there. -/
def atService (path query : List Char) : Except TargetError Destination := do
  let fromRoot := '/' :: path.dropWhile (· == '/')
  if lengthLimit < escapedLength staysInPath fromRoot then throw (.partTooLong "path")
  if lengthLimit < escapedLength staysInQuery query then throw (.partTooLong "query")
  return .service (orRoot (normalized fromRoot))

/-- Where a target leads. -/
def destination (target : String) : Except TargetError Destination := do
  let cs := target.toList
  if lengthLimit < cs.length then throw .tooLong
  match cs.findIdx? isControl with
  | some position => throw (.controlCharacter (cs.getD position ' ') position)
  | none => pure ()
  let p := parts cs
  let (host, port) := hostAndPort p.authority
  let name ← (Host.sent host).mapError .host
  if !port.isEmpty && (Text.ofArgument? (.ofList port)).isNone then
    throw (.invalidPort (.ofList port))
  let placed := !p.scheme.isEmpty || !host.isEmpty || !port.isEmpty ||
    !(userOf p.authority).isEmpty
  if !placed && "//".toList.isPrefixOf p.path then throw .beginsWithSlashes
  if !placed && p.path.head? = some ':' then throw .beginsWithColon
  let path := orRoot (if placed then normalized p.path else p.path)
  if p.scheme.isEmpty || host.isEmpty then atService path p.query
  else return .host p.scheme name path

end Target

end PageLandmarks.Http
