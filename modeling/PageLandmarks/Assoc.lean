/-!
# PageLandmarks.Assoc

**Association lists with a first place for every name**: a value that is given
again replaces the old one where that stands.
-/

namespace PageLandmarks.Assoc

variable {ν α : Type} [BEq ν]

/-- Give a name a value: in its old place if it is there, at the end
otherwise. -/
def put (entries : List (ν × α)) (name : ν) (value : α) : List (ν × α) :=
  if entries.any (·.1 == name) then
    entries.map fun e => if e.1 == name then (name, value) else e
  else entries ++ [(name, value)]

/-- The names in the order of their first occurrence, each with its last
value. -/
def ofOccurrences (entries : List (ν × α)) : List (ν × α) :=
  entries.foldl (fun done e => put done e.1 e.2) []

end PageLandmarks.Assoc
