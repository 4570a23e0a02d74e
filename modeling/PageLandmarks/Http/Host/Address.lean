import PageLandmarks.Text.Hex

/-!
# PageLandmarks.Http.Host.Address

**Hosts that are given by an address.** An address of version 4 is four numbers
of one octet. One of version 6 is eight groups of hexadecimal digits, of which a
run of zeros can be left out between two colons and the last two can be written as
an address of version 4; a zone may follow after `%`.
-/

namespace PageLandmarks.Http.Host

/-! ### Version 4 -/

/-- A number of one octet, without needless zeros. -/
def isOctet (cs : List Char) : Bool :=
  cs.all Char.isDigit && !cs.isEmpty && cs.length ≤ 3 && (cs.head? != some '0' || cs.length == 1) &&
    cs.foldl (fun n c => 10 * n + (c.toNat - '0'.toNat)) 0 < 256

/-- An address of version 4. -/
def isVersion4 (cs : List Char) : Bool :=
  let parts := cs.splitOn '.'
  parts.length == 4 && parts.all isOctet

/-- The lengths of the runs of digits in a text, between characters that are
none. -/
def digitRuns : List Char → List Nat
  | [] => [0]
  | c :: cs =>
    match digitRuns cs with
    | run :: runs => if c.isDigit then (run + 1) :: runs else 0 :: run :: runs
    | [] => []

/-- A text that is taken for an address of version 4: four runs of digits with one
character between any two of them, which may be a digit itself. -/
def resemblesVersion4 (cs : List Char) : Bool :=
  let runs := digitRuns cs
  runs.all (1 ≤ ·) && runs.length ≤ 4 &&
    4 ≤ runs.foldl (fun parts run => parts + (run - 1) / 2) runs.length

/-! ### Version 6 -/

/-- A group of hexadecimal digits. -/
def isGroup (cs : List Char) : Bool :=
  !cs.isEmpty && cs.length ≤ 4 && cs.all Text.isHexDigit

/-- Groups at one side of a run that is left out. At the end of the address there
may be none. -/
def sideGroups? (parts : List (List Char)) : Option Nat :=
  if parts = [[]] then some 0 else if parts.all isGroup then some parts.length else none

/-- The parts between colons make up an address. Only between the first and the last
can one be empty, and it stands for one group or more. -/
def areGroups (parts : List (List Char)) : Bool :=
  match (parts.drop 1).dropLast.findIdx? List.isEmpty with
  | none => parts.length == 8 && parts.all isGroup
  | some index =>
    match sideGroups? (parts.take (index + 1)), sideGroups? (parts.drop (index + 2)) with
    | some a, some b => a + b < 8
    | _, _ => false

/-- The parts with an address of version 4 at their end written as two groups. -/
def withoutVersion4? (parts : List (List Char)) : Option (List (List Char)) :=
  match parts.getLast? with
  | some last =>
    if !last.contains '.' then some parts
    else if isVersion4 last then some (parts.dropLast ++ [['0'], ['0']])
    else none
  | none => some parts

/-- A zone: what follows the first `%`, if there is one. -/
def isZone : List Char → Bool
  | '%' :: zone => !zone.isEmpty && !zone.contains '%'
  | rest => rest.isEmpty

/-- An address of version 6. -/
def isVersion6 (cs : List Char) : Bool :=
  let address := cs.takeWhile (· != '%')
  let parts := address.splitOn ':'
  isZone (cs.drop address.length) && 3 ≤ parts.length && (withoutVersion4? parts).any areGroups

end PageLandmarks.Http.Host
