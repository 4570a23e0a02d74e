import PageLandmarks.Http.Host.Address
import PageLandmarks.Http.Host.Name

/-!
# PageLandmarks.Http.Host

**The host of an address.** It is an IP address if it looks like one, and a name
otherwise (`Host.sent`). A name in ASCII is taken as it is; one with other
characters has to be a host name by all rules.
-/

namespace PageLandmarks.Http

/-- Why a host cannot be taken. -/
inductive HostError
  | notVersion4 (host : String)
  | notVersion6 (host : String)
  | notName (host : String)
  deriving Repr, DecidableEq

/-- The wording of a host error. -/
def HostError.message : HostError → String
  | notVersion4 host => "Invalid IPv4 address: " ++ Text.quoted host
  | notVersion6 host => "Invalid IPv6 address: " ++ Text.quoted host
  | notName host => "Invalid IDNA hostname: " ++ Text.quoted host

namespace Host

/-- A character of ASCII that stands for itself in a host. -/
def isPlain (c : Char) : Bool := c.isAlphanum || "-._~!$&'()*+,;=\"`\x7b\x7d%|\\".toList.contains c

/-- A name in ASCII as it is sent: in small letters, other signs as escapes. -/
def escaped (cs : List Char) : List Char :=
  (cs.map Char.toLower).flatMap fun c =>
    if isPlain c then [c] else '%' :: (Text.hex 2 c.toNat).map Char.toUpper

/-- The text is in square brackets. -/
def isBracketed (cs : List Char) : Bool := cs.head? == some '[' && cs.getLast? == some ']'

/-- A host as it is sent. -/
def sent (cs : List Char) : Except HostError (List Char) :=
  if resemblesVersion4 cs then
    if isVersion4 cs then .ok cs else .error (.notVersion4 (.ofList cs))
  else if isBracketed cs then
    let address := (cs.drop 1).dropLast
    if isVersion6 address then .ok address else .error (.notVersion6 (.ofList cs))
  else if cs.all fun c => c.toNat < 0x80 then .ok (escaped cs)
  else
    (Name.encode (Text.lowercase (.ofList cs)).toList).mapError fun _ => .notName (.ofList cs)

end Host

end PageLandmarks.Http
