import Mathlib.Data.List.TakeWhile
import PageLandmarks.Http

/-!
# PageLandmarks.Proofs.Json.Leaves

**What a JSON value has at its leaves, and whether it can be sent.** A value can be sent
if its numbers are finite and no string in it has half of a surrogate pair. Both are
conditions on the leaves of the value (`Json.every`), so a part of a value meets them if
the whole does, and so does a value put together from texts, whole numbers and truth
values (`Json.Plain`), as reports and lists of errors are.

Nothing but the strings of a value can bring a half of a pair into its one-line form
(`Json.line_isWritable`).
-/

namespace PageLandmarks

namespace Json

/-! ### Conditions on leaves -/

mutual

/-- The condition holds for every value without parts, and that on names for the name of
every field. -/
def every (leaf : Json → Bool) (name : JsonString → Bool) : Json → Bool
  | array items => everyItem leaf name items
  | object fields => everyField leaf name fields
  | v => leaf v

/-- The conditions hold in all items. -/
def everyItem (leaf : Json → Bool) (name : JsonString → Bool) : List Json → Bool
  | [] => true
  | v :: vs => every leaf name v && everyItem leaf name vs

/-- The conditions hold in all fields. -/
def everyField (leaf : Json → Bool) (name : JsonString → Bool) :
    List (JsonString × Json) → Bool
  | [] => true
  | (n, v) :: fs => name n && every leaf name v && everyField leaf name fs

end

/-- The conditions hold for what a report is made of. -/
structure Plain (leaf : Json → Bool) (name : JsonString → Bool) : Prop where
  null : leaf .null = true
  bool (b : Bool) : leaf (.bool b) = true
  int (n : Int) : leaf (.int n) = true
  string (s : String) : leaf (.string s) = true
  name (s : String) : name s = true

section Every

variable {leaf : Json → Bool} {name : JsonString → Bool}

theorem everyItem_iff {vs : List Json} :
    everyItem leaf name vs = true ↔ ∀ v ∈ vs, every leaf name v = true := by
  induction vs with
  | nil => simp [everyItem]
  | cons v vs ih => simp [everyItem, ih]

/-- What holds in an object holds in the value of each of its fields. -/
theorem every_of_field? {v w : Json} {key : String} (h : every leaf name v = true)
    (hw : v.field? key = some w) : every leaf name w = true := by
  match v with
  | object fields =>
      rw [every] at h
      change fields.lookup (.text key) = some w at hw
      induction fields with
      | nil => cases hw
      | cons f fs ih =>
          obtain ⟨n, u⟩ := f
          simp only [everyField, Bool.and_eq_true] at h
          rw [List.lookup_cons] at hw
          split at hw
          · obtain rfl := Option.some.inj hw
            exact h.1.2
          · exact ih h.2 hw

theorem every_field?_getD {v : Json} (key : String) (h : every leaf name v = true) :
    every leaf name ((v.field? key).getD v) = true := by
  cases hw : v.field? key with
  | none => exact h
  | some w => exact every_of_field? h hw

namespace Plain

theorem ofInt? (h : Plain leaf name) (n : Option Int) :
    every leaf name (Json.ofInt? n) = true := by
  cases n with
  | none => simp [Json.ofInt?, every, h.null]
  | some n => simp [Json.ofInt?, every, h.int]

theorem ofString? (h : Plain leaf name) (s : Option String) :
    every leaf name (Json.ofString? s) = true := by
  cases s with
  | none => simp [Json.ofString?, every, h.null]
  | some s => simp [Json.ofString?, every, h.string]

theorem landmark (h : Plain leaf name) (i : Option LandmarkInfo) :
    every leaf name (LandmarkInfo.toJson? i) = true := by
  cases i with
  | none => simp [LandmarkInfo.toJson?, every, h.null]
  | some i =>
      simp [LandmarkInfo.toJson?, LandmarkInfo.toJson, every, everyField, h.name, h.string,
        h.bool, h.ofInt?]

theorem finding (h : Plain leaf name) (f : Finding) : every leaf name f.toJson = true := by
  simp [Finding.toJson, every, everyField, h.name, h.string, h.int, h.ofInt?, h.ofString?]

/-- A report is made of plain values. -/
theorem report (h : Plain leaf name) (r : Report) : every leaf name r.toJson = true := by
  have hfindings : everyItem leaf name (r.findings.map Finding.toJson) = true :=
    everyItem_iff.mpr (List.forall_mem_map.mpr fun f _ => h.finding f)
  simp [Report.toJson, every, everyField, h.name, h.bool, h.landmark, hfindings]

theorem context (h : Plain leaf name) {fault : FieldFault} {context : Json}
    (hcontext : fault.context = some context) : every leaf name context = true := by
  unfold FieldFault.context at hcontext
  split at hcontext
  all_goals first
    | (obtain rfl := Option.some.inj hcontext
       simp [every, everyField, h.name, h.string, h.int])
    | cases hcontext

/-- An error about a value is plain but for the value. -/
theorem fieldError (h : Plain leaf name) {e : FieldError}
    (hlocation : everyItem leaf name e.location = true) (hinput : every leaf name e.input = true) :
    every leaf name e.toDetailedJson = true := by
  cases hcontext : e.fault.context with
  | none =>
      simp [FieldError.toDetailedJson, FieldError.toJson, hcontext, every, everyField, h.name,
        h.string, hlocation, hinput]
  | some context =>
      simp [FieldError.toDetailedJson, FieldError.toJson, hcontext, every, everyField, h.name,
        h.string, hlocation, hinput, h.context hcontext]

end Plain

end Every

/-! ### Finite numbers -/

/-- A value without parts that is no number beyond all bounds. -/
def leafIsFinite : Json → Bool
  | nonFinite _ => false
  | _ => true

mutual

theorem isFinite_eq_every : ∀ v : Json, v.isFinite = v.every leafIsFinite fun _ => true
  | null | bool _ | int _ | real _ | nonFinite _ | string _ => rfl
  | array items => isFiniteItems_eq_everyItem items
  | object fields => isFiniteFields_eq_everyField fields

theorem isFiniteItems_eq_everyItem :
    ∀ vs : List Json, isFiniteItems vs = everyItem leafIsFinite (fun _ => true) vs
  | [] => rfl
  | v :: vs => by
      rw [isFiniteItems, everyItem, isFinite_eq_every v, isFiniteItems_eq_everyItem vs]

theorem isFiniteFields_eq_everyField :
    ∀ fs : List (JsonString × Json),
      isFiniteFields fs = everyField leafIsFinite (fun _ => true) fs
  | [] => rfl
  | (n, v) :: fs => by
      rw [isFiniteFields, everyField, isFinite_eq_every v, isFiniteFields_eq_everyField fs,
        Bool.true_and]

end

theorem plain_finite : Plain leafIsFinite fun _ => true :=
  ⟨rfl, fun _ => rfl, fun _ => rfl, fun _ => rfl, fun _ => rfl⟩

end Json

/-! ### Texts -/

/-- No code point is half of a surrogate pair. -/
def Text.Utf8.isWritable (points : List Nat) : Bool := points.all fun n => !isSurrogate n

/-- The string has no half of a surrogate pair. -/
def JsonString.isWritable (s : JsonString) : Bool := Text.Utf8.isWritable s.points

theorem drop_length_takeWhile {α : Type} (f : α → Bool) (xs : List α) :
    xs.drop (xs.takeWhile f).length = xs.dropWhile f := by
  have hdrop : ((xs.takeWhile f) ++ (xs.dropWhile f)).drop (xs.takeWhile f).length =
      xs.dropWhile f := List.drop_left
  rwa [List.takeWhile_append_dropWhile] at hdrop

/-- Code points can be written exactly if no half of a pair is among them. -/
theorem Text.Utf8.encodeError?_eq_none_iff {points : List Nat} :
    encodeError? points = none ↔ isWritable points = true := by
  have hwritable : isWritable points = true ↔
      points.dropWhile (fun n => !isSurrogate n) = [] := by
    rw [isWritable, List.all_eq_true, List.dropWhile_eq_nil_iff]
  rw [hwritable]
  unfold encodeError?
  dsimp only
  rw [drop_length_takeWhile]
  split
  · rename_i hrest
    simp [hrest]
  · rename_i n rest hrest
    simp [hrest]

theorem Text.Utf8.isSurrogate_of_isValidChar {n : Nat} (h : n.isValidChar) :
    isSurrogate n = false := by
  unfold Nat.isValidChar at h
  simp only [isSurrogate, Bool.and_eq_false_iff, decide_eq_false_iff_not]
  omega

theorem Text.Utf8.isWritable_map_toNat (cs : List Char) :
    isWritable (cs.map Char.toNat) = true := by
  rw [isWritable, List.all_map, List.all_eq_true]
  intro c _
  have hvalid : c.toNat.isValidChar := c.valid
  simp [isSurrogate_of_isValidChar hvalid]

theorem Text.Utf8.isWritable_append (ns ms : List Nat) :
    isWritable (ns ++ ms) = (isWritable ns && isWritable ms) := List.all_append

theorem Text.Utf8.isWritable_intercalate {separator : List Nat}
    (h : isWritable separator = true) (lines : List (List Nat)) :
    isWritable (separator.intercalate lines) = lines.all isWritable := by
  induction lines with
  | nil => rfl
  | cons l lines ih =>
      cases lines with
      | nil => simp [List.intercalate]
      | cons m lines =>
          rw [List.intercalate_cons_cons, isWritable_append, isWritable_append, h, ih]
          simp

namespace Json

open Text.Utf8

/-- A leaf is no string with half of a surrogate pair. -/
def leafIsText : Json → Bool
  | string s => s.isWritable
  | _ => true

/-- All strings in the value are texts. -/
def isText (v : Json) : Bool := v.every leafIsText JsonString.isWritable

theorem plain_text : Plain leafIsText JsonString.isWritable :=
  ⟨rfl, fun _ => rfl, fun _ => rfl, fun s => isWritable_map_toNat s.toList,
    fun s => isWritable_map_toNat s.toList⟩

theorem pointsOf_isWritable (s : String) : isWritable (pointsOf s) = true :=
  isWritable_map_toNat s.toList

theorem stringPoint_isWritable (ascii : Bool) (n : Nat) :
    isWritable (stringPoint ascii n) = !isSurrogate n := by
  unfold stringPoint
  split
  · rename_i hvalid
    rw [isWritable_map_toNat, isSurrogate_of_isValidChar hvalid]
    rfl
  · simp [isWritable]

theorem stringLine_isWritable (ascii : Bool) (s : JsonString) :
    isWritable (stringLine ascii s) = s.isWritable := by
  have hflat : isWritable (s.points.flatMap (stringPoint ascii)) = s.isWritable := by
    rw [isWritable, List.all_flatMap]
    exact congrArg (List.all s.points) (funext fun n => stringPoint_isWritable ascii n)
  rw [stringLine, isWritable_append, isWritable_append, hflat, pointsOf_isWritable]
  simp

mutual

/-- A value can be written on one line exactly if all strings in it are texts. -/
theorem line_isWritable : ∀ v : Json, isWritable v.line = v.isText
  | null => pointsOf_isWritable _
  | bool true => pointsOf_isWritable _
  | bool false => pointsOf_isWritable _
  | int _ => pointsOf_isWritable _
  | real _ => pointsOf_isWritable _
  | nonFinite _ => pointsOf_isWritable _
  | string s => stringLine_isWritable false s
  | array items => by
      rw [line, isWritable_append, isWritable_append, pointsOf_isWritable, pointsOf_isWritable,
        isWritable_intercalate (pointsOf_isWritable _), lineItems_isWritable items]
      simp [isText, every]
  | object fields => by
      rw [line, isWritable_append, isWritable_append, pointsOf_isWritable, pointsOf_isWritable,
        isWritable_intercalate (pointsOf_isWritable _), lineFields_isWritable fields]
      simp [isText, every]

theorem lineItems_isWritable : ∀ vs : List Json,
    (lineItems vs).all isWritable = everyItem leafIsText JsonString.isWritable vs
  | [] => rfl
  | v :: vs => by
      rw [lineItems, List.all_cons, everyItem, line_isWritable v, lineItems_isWritable vs]
      rfl

theorem lineFields_isWritable : ∀ fs : List (JsonString × Json),
    (lineFields fs).all isWritable = everyField leafIsText JsonString.isWritable fs
  | [] => rfl
  | (n, v) :: fs => by
      rw [lineFields, List.all_cons, everyField, isWritable_append, isWritable_append,
        stringLine_isWritable, pointsOf_isWritable, line_isWritable v, lineFields_isWritable fs]
      simp [isText]

end

end Json

namespace Http

/-- A finite value is sent if all strings in it are texts. -/
theorem sentJson_of_isText {v : Json} (hfinite : v.isFinite = true) (htext : v.isText = true) :
    ∃ s, sentJson v = .ok s := by
  have hnone : Text.Utf8.encodeError? v.line = none :=
    Text.Utf8.encodeError?_eq_none_iff.mpr ((Json.line_isWritable v).trans htext)
  rw [sentJson, if_pos hfinite, sentPoints, hnone]
  exact ⟨_, rfl⟩

/-- A finite value is not sent if some string in it is no text. -/
theorem sentJson_of_not_isText {v : Json} (hfinite : v.isFinite = true)
    (htext : v.isText = false) : ∃ e, sentJson v = .error (.notText e) := by
  rw [sentJson, if_pos hfinite, sentPoints]
  cases herror : Text.Utf8.encodeError? v.line with
  | some e => exact ⟨e, rfl⟩
  | none =>
      rw [Text.Utf8.encodeError?_eq_none_iff, Json.line_isWritable, htext] at herror
      cases herror

end Http

end PageLandmarks
