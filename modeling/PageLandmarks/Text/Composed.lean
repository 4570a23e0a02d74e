import PageLandmarks.Text.Composite
import PageLandmarks.Text.Mark

/-!
# PageLandmarks.Text.Composed

**Texts in composed form.** The same writing can be spelled with a character that
stands for two others or with the two themselves, and with the marks on one
character in several orders. A text is in composed form (`isComposed`) if taking
all its characters apart, putting the marks in the order of their classes and
joining again what can be joined gives the text itself.

The syllables of Hangul are taken apart and joined by their numbers: each is a
lead, a vowel and perhaps a tail.
-/

namespace PageLandmarks.Text

/-! ### Hangul -/

/-- The first syllable. -/
def firstSyllable : Nat := 0xAC00

/-- The first lead of a syllable. -/
def firstLead : Nat := 0x1100

/-- The first vowel of a syllable. -/
def firstVowel : Nat := 0x1161

/-- What comes before the first tail of a syllable. -/
def beforeTails : Nat := 0x11A7

/-- The numbers of leads, vowels, and tails together with the absent one. -/
def leads : Nat := 19

@[inherit_doc leads]
def vowels : Nat := 21

@[inherit_doc leads]
def tails : Nat := 28

/-- The parts of a syllable. -/
def syllableParts? (n : Nat) : Option (List Nat) :=
  let index := n - firstSyllable
  if firstSyllable ≤ n ∧ index < leads * vowels * tails then
    let tail := index % tails
    some ([firstLead + index / (vowels * tails), firstVowel + index / tails % vowels] ++
      (if tail = 0 then [] else [beforeTails + tail]))
  else none

/-- The syllable of a lead and a vowel, or of a syllable without a tail and a
tail. -/
def syllableOf? (a b : Nat) : Option Nat :=
  if firstLead ≤ a ∧ a < firstLead + leads ∧ firstVowel ≤ b ∧ b < firstVowel + vowels then
    some (firstSyllable + ((a - firstLead) * vowels + (b - firstVowel)) * tails)
  else if firstSyllable ≤ a ∧ a < firstSyllable + leads * vowels * tails ∧
      (a - firstSyllable) % tails = 0 ∧ beforeTails < b ∧ b < beforeTails + tails then
    some (a + (b - beforeTails))
  else none

/-! ### Taking apart -/

/-- A code point taken apart, up to a depth: the first of the two that it stands
for may stand for two others itself. -/
def apart : (depth : Nat) → (n : Nat) → List Nat
  | 0, n => [n]
  | depth + 1, n =>
    match syllableParts? n with
    | some parts => parts
    | none =>
      match composites.find? fun r => r.1 == n with
      | some r => apart depth r.2.1 ++ [r.2.2]
      | none => [n]

/-- How many marks a character can be joined with at most. -/
def compositionDepth : Nat := 4

/-! ### Order -/

/-- The code points with the marks of every run in the order of their classes,
where marks of one class keep their order. -/
def ordered (points : List Nat) : List Nat :=
  match points with
  | [] => []
  | n :: rest =>
    if combiningClass n = 0 then n :: ordered rest
    else
      let run := (n :: rest).takeWhile fun m => combiningClass m != 0
      run.mergeSort (fun a b => combiningClass a ≤ combiningClass b) ++
        ordered (rest.dropWhile fun m => combiningClass m != 0)
termination_by points.length
decreasing_by
  · simp only [List.length_cons]; omega
  · simp only [List.length_cons]
    have := (List.dropWhile_sublist (fun m => combiningClass m != 0) (l := rest)).length_le
    omega

/-! ### Joining -/

/-- The code point that stands for two others. -/
def joined? (a b : Nat) : Option Nat :=
  (syllableOf? a b).or ((composites.find? fun r => r.2.1 == a && r.2.2 == b).map fun r => r.1)

/-- Join what can be joined, after a base and the marks on it that it could not be
joined with. A mark is joined with the base unless one of its class or of a higher
one stands between them. -/
def joinedAfter (base : Nat) (marks : List Nat) : List Nat → List Nat
  | [] => base :: marks
  | n :: rest =>
    let blocked := marks.getLast?.any fun m => combiningClass n ≤ combiningClass m
    match if blocked then none else joined? base n with
    | some base' => joinedAfter base' marks rest
    | none =>
      if combiningClass n = 0 then base :: marks ++ joinedAfter n [] rest
      else joinedAfter base (marks ++ [n]) rest

/-- Join what can be joined. Marks at the beginning have no base. -/
def rejoined (points : List Nat) : List Nat :=
  let marks := points.takeWhile fun n => combiningClass n != 0
  match points.drop marks.length with
  | [] => marks
  | base :: rest => marks ++ joinedAfter base [] rest

/-- A text in composed form. -/
def isComposed (points : List Nat) : Bool :=
  !points.any isReplaced && rejoined (ordered (points.flatMap (apart compositionDepth))) == points

end PageLandmarks.Text
