import PageLandmarks.Http.Host.Label
import PageLandmarks.Text.Lowercase
import PageLandmarks.Text.Punycode

/-!
# PageLandmarks.Http.Host.Name

**Host names**, labels with dots between them. A label beyond ASCII is sent in
encoded form, `xn--` and its text in Punycode, and such a label is read back where
the name is used. Either way the label has to keep the rules of `Label.check`
(`encode`, `checkEncoded`).
-/

namespace PageLandmarks.Http.Host

/-- Why a host name cannot be taken. -/
inductive NameError
  | label (e : LabelError)
  | empty
  | tooLong
  deriving Repr, DecidableEq

/-- The wording of a name error. -/
def NameError.message : NameError → String
  | label e => e.message
  | empty => "Empty domain"
  | tooLong => "Domain too long"

namespace Name

/-- What an encoded label begins with. -/
def encodedMark : List Char := "xn--".toList

/-- The greatest length of an encoded label. -/
def labelLimit : Nat := 63

/-- The greatest length of a name, with a dot at its end or without. -/
def lengthLimit (endsWithDot : Bool) : Nat := if endsWithDot then 254 else 253

/-- A dot of any script. -/
def isDot (c : Char) : Bool := c == '.' || c == '\u3002' || c == '\uff0e' || c == '\uff61'

/-- The labels of a name. A dot at its end is not followed by one. -/
def labelsOf (cs : List Char) : List (List Char) :=
  let labels := (cs.map fun c => if isDot c then '.' else c).splitOn '.'
  if labels.getLast? = some [] then labels.dropLast else labels

/-- Check a label in ASCII: what it stands for if it is encoded, itself if not. -/
def checkAscii (cs : List Char) : Except LabelError Unit :=
  let cs := cs.map Char.toLower
  if encodedMark.isPrefixOf cs then
    let content := cs.drop encodedMark.length
    if content.isEmpty then .error .noContent
    else if content.getLast? = some '-' then .error .hyphenAfterContent
    else
      match Text.Punycode.decode? content with
      | none => .error .undecodable
      | some points => Label.check points
  else Label.check (cs.map Char.toNat)

/-- A label as it is sent. -/
def encodeLabel (cs : List Char) : Except LabelError (List Char) := do
  let sent ←
    if cs.all fun c => c.toNat < 0x80 then
      checkAscii cs
      pure cs
    else
      let points := cs.map Char.toNat
      Label.check points
      pure (encodedMark ++ Text.Punycode.encode points)
  if labelLimit < sent.length then throw .tooLong
  return sent

/-- The labels of a name that is neither empty nor too long. -/
def checkedLabels (cs : List Char) : Except NameError (List (List Char)) := do
  if lengthLimit true < cs.length then throw .tooLong
  if cs.isEmpty then throw .empty
  return labelsOf cs

/-- A name as it is sent. -/
def encode (cs : List Char) : Except NameError (List Char) := do
  let labels ← checkedLabels cs
  let sent ← (labels.mapM encodeLabel).mapError .label
  let endsWithDot := cs.getLast?.any isDot
  let name := ['.'].intercalate (if endsWithDot then sent ++ [[]] else sent)
  if lengthLimit endsWithDot < name.length then throw .tooLong
  return name

/-- Check a name in ASCII that is used in the form in which it is read: one whose
first label is encoded. -/
def checkEncoded (cs : List Char) : Except NameError Unit := do
  if encodedMark.isPrefixOf cs then
    let labels ← checkedLabels cs
    (labels.forM checkAscii).mapError .label

end Name

end PageLandmarks.Http.Host
