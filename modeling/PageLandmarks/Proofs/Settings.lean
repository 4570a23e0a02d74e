import Mathlib.Data.List.Forall2
import PageLandmarks.Settings
import PageLandmarks.Proofs.Dotenv
import PageLandmarks.Proofs.Page

/-!
# PageLandmarks.Proofs.Settings

**Settings are resolved field by field** (`resolve_by_field`). A field is told by the value that
wins for it, the one of the first source that has the field (`Sources.Wins`): the settings are
refused with the fields whose winning values cannot be taken, or else hold the winning values.
No other value matters, but to what a value in the `.env` text refers (`Sources.Keeps`), and so
no other name either (`Sources.SameEntries`).

The settings are built by putting one field after another, so the proofs read a field as a lens
(`Field.get`, `Field.set`): what is put into one field is seen in that field alone.
-/

namespace PageLandmarks.Settings

open Dotenv (Binding Agree Decides RefersWithin linesOf valueAmong variablesAfter)

variable {s s' : Sources} {f g : Field} {v : Json}

/-! ### Fields -/

/-- What a field holds. -/
def Field.Value : Field → Type
  | appName | htmlParser => String
  | debug | semanticExclude => Bool
  | maxProblems | navMinLinks => Int

/-- What a field holds in the settings. -/
def Field.get (x : Settings) : (f : Field) → f.Value
  | appName => x.appName
  | debug => x.debug
  | htmlParser => x.htmlParser
  | maxProblems => x.maxProblems
  | semanticExclude => x.semanticExclude
  | navMinLinks => x.navMinLinks

/-- The settings with another value in a field. -/
def Field.set (x : Settings) : (f : Field) → f.Value → Settings
  | appName, a => { x with appName := a }
  | debug, a => { x with debug := a }
  | htmlParser, a => { x with htmlParser := a }
  | maxProblems, a => { x with maxProblems := a }
  | semanticExclude, a => { x with semanticExclude := a }
  | navMinLinks, a => { x with navMinLinks := a }

/-- What a field makes of a value, if it can take it. -/
def Field.coerce (v : Json) : (f : Field) → Except FieldFault f.Value
  | appName | htmlParser => Coercion.string v
  | debug | semanticExclude => Coercion.bool v
  | maxProblems => Coercion.intFrom 0 v
  | navMinLinks => Coercion.intFrom 1 v

@[simp] theorem Field.get_set (x : Settings) (a : f.Value) : f.get (f.set x a) = a := by
  cases f <;> rfl

theorem Field.get_set_of_ne (h : f ≠ g) (x : Settings) (a : g.Value) :
    f.get (g.set x a) = f.get x := by
  cases f <;> cases g <;> first | rfl | exact absurd rfl h

theorem put_eq (x : Settings) (v : Json) (f : Field) :
    x.put v f = (f.coerce v).map (f.set x) := by
  cases f <;> rfl

theorem Field.name_injective (h : f.name = g.name) : f = g := by
  cases f <;> cases g <;> first | rfl | exact absurd h (by decide)

theorem mem_fields (f : Field) : f ∈ fields := by
  cases f <;> decide

theorem Field.isSpelled_name (f : Field) : f.isSpelled f.name = true :=
  beq_self_eq_true _

/-- A field for whole numbers from a minimum on holds none below. -/
theorem le_of_intFrom {minimum n : Int} (h : Coercion.intFrom minimum v = .ok n) :
    minimum ≤ n := by
  rw [Coercion.intFrom] at h
  cases hint : Coercion.int v with
  | error fault => simp [hint, bind, Except.bind] at h
  | ok m =>
      simp only [hint, bind, Except.bind] at h
      split at h
      · cases h
      · cases h
        omega

/-- The values that a field takes: numbers from its minimum on, and any text or truth value. -/
def Field.InRange : (f : Field) → f.Value → Prop
  | maxProblems, n => (0 : Int) ≤ n
  | navMinLinks, n => (1 : Int) ≤ n
  | appName, _ | debug, _ | htmlParser, _ | semanticExclude, _ => True

theorem Field.inRange_of_coerce {a : f.Value} (h : f.coerce v = .ok a) : f.InRange a := by
  cases f with
  | maxProblems | navMinLinks => exact le_of_intFrom h
  | appName | debug | htmlParser | semanticExclude => trivial

/-- Every default is one of the values that the field takes. -/
theorem Field.inRange_default (f : Field) : f.InRange (f.get {}) := by
  cases f with
  | maxProblems => exact (by decide : (0 : Int) ≤ 100)
  | navMinLinks => exact (by decide : (1 : Int) ≤ 3)
  | appName | debug | htmlParser | semanticExclude => trivial

/-! ### The winning value -/

/-- The keywords have the value for the field. -/
def Sources.HasKeyword (s : Sources) (f : Field) (v : Json) : Prop :=
  ∃ name, (name, v) ∈ s.keywords ∧ f.isSpelled name = true

/-- The environment has the value for the field. -/
def Sources.HasVariable (s : Sources) (f : Field) (v : String) : Prop :=
  ∃ name, (name, v) ∈ s.environment ∧ f.isSpelled name = true

/-- The field is left to the `.env` text. -/
structure Sources.LeftToFile (s : Sources) (f : Field) : Prop where
  /-- No keyword is for the field. -/
  noKeyword : ∀ v, ¬ s.HasKeyword f v
  /-- No variable of the environment is for the field. -/
  noVariable : ∀ v, ¬ s.HasVariable f v

theorem Sources.LeftToFile.of_not_spelled (hkeywords : ∀ k ∈ s.keywords, f.isSpelled k.1 = false)
    (henvironment : ∀ e ∈ s.environment, f.isSpelled e.1 = false) : s.LeftToFile f := by
  refine ⟨?_, ?_⟩
  · rintro v ⟨name, hmem, hname⟩
    rw [hkeywords _ hmem] at hname
    cases hname
  · rintro v ⟨name, hmem, hname⟩
    rw [henvironment _ hmem] at hname
    cases hname

/-- The lines of the `.env` text. -/
def Sources.fileLines (s : Sources) : List Binding := Dotenv.bindings (Dotenv.lines s.dotenv)

/-- Of the lines for the field in the `.env` text, `b` is the one that counts. -/
def Sources.LineCounts (s : Sources) (f : Field) (before : List Binding) (b : Binding) : Prop :=
  ∃ after, s.fileLines = before ++ b :: after ∧ Decides f.isSpelled before b after

/-- The value of the first source that has the field. -/
inductive Sources.Wins (s : Sources) (f : Field) : Json → Prop
  /-- A keyword comes before all others. -/
  | keyword {v : Json} : s.HasKeyword f v → Wins s f v
  /-- A variable of the environment comes next. -/
  | environment {v : String} : (∀ w, ¬ s.HasKeyword f w) → s.HasVariable f v →
      Wins s f (.string v)
  /-- The last is the line of the `.env` text that counts, with what it refers to. -/
  | file {before : List Binding} {b : Binding} {v : String} : s.LeftToFile f →
      s.LineCounts f before b →
      valueAmong s.environment (variablesAfter s.environment before) b.2 = some v →
      Wins s f (.string v)

/-- A field is told by a keyword, by a variable of the environment, by a line of the `.env` text,
or not at all. -/
theorem Sources.origin_cases (s : Sources) (f : Field) :
    (∃ v, s.HasKeyword f v) ∨ ((∀ v, ¬ s.HasKeyword f v) ∧ ∃ v, s.HasVariable f v) ∨
      (s.LeftToFile f ∧ ∃ before b, s.LineCounts f before b) ∨
      (s.LeftToFile f ∧ ∀ before b, ¬ s.LineCounts f before b) := by
  by_cases hkeyword : ∃ v, s.HasKeyword f v
  · exact Or.inl hkeyword
  · rw [not_exists] at hkeyword
    by_cases hvariable : ∃ v, s.HasVariable f v
    · exact Or.inr (Or.inl ⟨hkeyword, hvariable⟩)
    · have hleft : s.LeftToFile f := ⟨hkeyword, not_exists.mp hvariable⟩
      by_cases hline : ∃ before b, s.LineCounts f before b
      · exact Or.inr (Or.inr (Or.inl ⟨hleft, hline⟩))
      · simp only [not_exists] at hline
        exact Or.inr (Or.inr (Or.inr ⟨hleft, hline⟩))

/-- A field has no two spellings among the keywords, and no two in the environment. -/
structure Sources.OneSpelling (s : Sources) : Prop where
  keywords : ∀ f : Field, (s.keywords.filter fun k => f.isSpelled k.1).length ≤ 1
  environment : ∀ f : Field, (s.environment.filter fun e => f.isSpelled e.1).length ≤ 1

theorem filter_eq_singleton {α : Type} {p : α → Bool} {xs : List α} {x : α}
    (hone : (xs.filter p).length ≤ 1) (hx : x ∈ xs) (hp : p x = true) : xs.filter p = [x] := by
  have hmem : x ∈ xs.filter p := List.mem_filter.mpr ⟨hx, hp⟩
  obtain ⟨y, hy⟩ :=
    List.length_eq_one_iff.mp (Nat.le_antisymm hone (List.length_pos_of_mem hmem))
  rw [hy] at hmem ⊢
  rw [List.mem_singleton.mp hmem]

section Given

variable {α : Type} {entries : List (String × α)}

theorem given?_eq_some (hone : (entries.filter fun e => f.isSpelled e.1).length ≤ 1)
    {name : String} {a : α} (hmem : (name, a) ∈ entries) (hname : f.isSpelled name = true) :
    given? f entries = some a := by
  rw [given?, ← List.head?_filter, List.filter_reverse, filter_eq_singleton hone hmem hname]
  rfl

theorem given?_eq_none (h : ∀ e ∈ entries, f.isSpelled e.1 = false) :
    given? f entries = none := by
  have hfind : (entries.reverse.find? fun e => f.isSpelled e.1) = none :=
    List.find?_eq_none.mpr fun e he => by simp [h e (List.mem_reverse.mp he)]
  rw [given?, hfind]
  rfl

end Given

theorem keyword?_eq_some (hs : s.OneSpelling) (h : s.HasKeyword f v) :
    keyword? f s.keywords = some v := by
  obtain ⟨name, hmem, hname⟩ := h
  have hfilter := filter_eq_singleton (hs.keywords f) hmem hname
  have hfind : (s.keywords.find? fun k => f.isSpelled k.1) = some (name, v) := by
    rw [← List.head?_filter, hfilter]
    rfl
  cases hown : s.keywords.lookup f.name with
  | none => simp [keyword?, hown, hfind]
  | some w =>
      -- the field's own name is the one spelling that there is
      obtain ⟨first, rest, hsplit, -⟩ := List.lookup_eq_some_iff.mp hown
      have hw : (f.name, w) ∈ s.keywords.filter fun k => f.isSpelled k.1 := by
        rw [List.mem_filter, hsplit]
        exact ⟨by simp, f.isSpelled_name⟩
      rw [hfilter, List.mem_singleton] at hw
      cases hw
      simp [keyword?, hown]

theorem keyword?_eq_none (h : ∀ v, ¬ s.HasKeyword f v) : keyword? f s.keywords = none := by
  have hspelled : ∀ k ∈ s.keywords, f.isSpelled k.1 = false := fun k hk =>
    Bool.eq_false_iff.mpr fun hname => h k.2 ⟨k.1, hk, hname⟩
  have hown : s.keywords.lookup f.name = none := by
    rw [List.lookup_eq_none_iff]
    intro k hk
    rw [bne_iff_ne]
    intro hname
    have hno := hspelled k hk
    rw [← hname, f.isSpelled_name] at hno
    cases hno
  have hfind : (s.keywords.find? fun k => f.isSpelled k.1) = none :=
    List.find?_eq_none.mpr fun k hk => by simp [hspelled k hk]
  simp [keyword?, hown, hfind]

theorem given?_environment_eq_none (h : ∀ v, ¬ s.HasVariable f v) :
    given? f s.environment = none :=
  given?_eq_none fun e he => Bool.eq_false_iff.mpr fun hname => h e.2 ⟨e.1, he, hname⟩

/-! One lemma for each source tells what is found there. -/

theorem value?_of_keyword (hs : s.OneSpelling) (h : s.HasKeyword f v) : s.value? f = some v := by
  rw [Sources.value?, keyword?_eq_some hs h]
  rfl

theorem value?_of_variable (hs : s.OneSpelling) (hno : ∀ w, ¬ s.HasKeyword f w) {v : String}
    (h : s.HasVariable f v) : s.value? f = some (.string v) := by
  obtain ⟨name, hmem, hname⟩ := h
  rw [Sources.value?, keyword?_eq_none hno, given?_eq_some (hs.environment f) hmem hname]
  rfl

theorem value?_of_leftToFile (h : s.LeftToFile f) :
    s.value? f = (s.dotenv? f).map fun v => .string v := by
  rw [Sources.value?, keyword?_eq_none h.noKeyword, given?_environment_eq_none h.noVariable]
  cases s.dotenv? f <;> rfl

theorem dotenv?_of_lineCounts {before : List Binding} {b : Binding}
    (h : s.LineCounts f before b) :
    s.dotenv? f = valueAmong s.environment (variablesAfter s.environment before) b.2 := by
  obtain ⟨after, hlines, hdecides⟩ := h
  have hgiven : given? f (variablesAfter s.environment (before ++ b :: after)) = _ :=
    hdecides.last_value
  rw [Sources.dotenv?, Dotenv.entries_eq_variablesAfter]
  rw [Sources.fileLines] at hlines
  rw [hlines, hgiven]
  rfl

/-- A field has no value in the `.env` text where the line that counts, if there is one, has
none. -/
theorem dotenv?_eq_none (h : ∀ before b, s.LineCounts f before b → b.2 = none) :
    s.dotenv? f = none := by
  by_cases hspelled : ∃ c ∈ s.fileLines, f.isSpelled c.1 = true
  · obtain ⟨before, b, after, hlines, hdecides⟩ := Dotenv.exists_decides hspelled
    have hb : s.LineCounts f before b := ⟨after, hlines, hdecides⟩
    rw [dotenv?_of_lineCounts hb, h before b hb]
    rfl
  · have hgiven : given? f (variablesAfter s.environment s.fileLines) = none := by
      refine given?_eq_none fun e he => Bool.eq_false_iff.mpr fun hname => hspelled ?_
      obtain ⟨c, hc, hsame⟩ := List.mem_map.mp (Dotenv.name_mem_of_mem_variablesAfter he)
      exact ⟨c, hc, hsame ▸ hname⟩
    rw [Sources.dotenv?, Dotenv.entries_eq_variablesAfter]
    exact congrArg Option.join hgiven

/-- **The value that is found for a field is the one that wins.** -/
theorem value?_eq_some_iff (hs : s.OneSpelling) : s.value? f = some v ↔ s.Wins f v := by
  constructor
  · intro h
    rcases s.origin_cases f with ⟨w, hw⟩ | ⟨hno, w, hw⟩ | ⟨hleft, before, b, hb⟩ | ⟨hleft, hline⟩
    · rw [value?_of_keyword hs hw] at h
      cases h
      exact .keyword hw
    · rw [value?_of_variable hs hno hw] at h
      cases h
      exact .environment hno hw
    · rw [value?_of_leftToFile hleft, dotenv?_of_lineCounts hb, Option.map_eq_some_iff] at h
      obtain ⟨w, hw, rfl⟩ := h
      exact .file hleft hb hw
    · have hnone : s.dotenv? f = none :=
        dotenv?_eq_none fun before b hb => absurd hb (hline before b)
      rw [value?_of_leftToFile hleft, hnone] at h
      cases h
  · intro h
    cases h with
    | keyword hv => exact value?_of_keyword hs hv
    | environment hno hv => exact value?_of_variable hs hno hv
    | file hleft hline hv =>
        rw [value?_of_leftToFile hleft, dotenv?_of_lineCounts hline, hv]
        rfl

/-! ### One field after another -/

/-- The error of a field, if it cannot take the value that is found for it. -/
def Sources.error? (s : Sources) (f : Field) : Option FieldError :=
  (s.value? f).bind fun v =>
    match f.coerce v with
    | .ok _ => none
    | .error fault => some ⟨[.string f.name], fault, v⟩

theorem error?_eq_some {e : FieldError} :
    s.error? f = some e ↔ ∃ v fault, s.value? f = some v ∧ f.coerce v = .error fault ∧
      e = ⟨[.string f.name], fault, v⟩ := by
  rw [Sources.error?, Option.bind_eq_some_iff]
  constructor
  · rintro ⟨v, hv, he⟩
    cases hcoerce : f.coerce v with
    | ok a => simp [hcoerce] at he
    | error fault =>
        simp only [hcoerce, Option.some.injEq] at he
        exact ⟨v, fault, hv, hcoerce, he.symm⟩
  · rintro ⟨v, fault, hv, hcoerce, rfl⟩
    exact ⟨v, hv, by rw [hcoerce]⟩

/-- What a field makes of the value that is found for it, or else its default. -/
def Sources.setting (s : Sources) (f : Field) : f.Value :=
  ((s.value? f).bind fun v => (f.coerce v).toOption).getD (f.get {})

/-- Settling one more field: it holds its value, the other fields are left, and its error
comes before theirs. -/
theorem settle_cons (s : Sources) (f : Field) (rest : List Field) :
    f.get (settle s (f :: rest)).1 =
        ((s.value? f).bind fun v => (f.coerce v).toOption).getD (f.get (settle s rest).1) ∧
      (∀ g, g ≠ f → g.get (settle s (f :: rest)).1 = g.get (settle s rest).1) ∧
      (settle s (f :: rest)).2 = (s.error? f).toList ++ (settle s rest).2 := by
  rw [settle, Sources.error?]
  cases hv : s.value? f with
  | none => exact ⟨rfl, fun _ _ => rfl, rfl⟩
  | some v =>
      simp only [put_eq, Option.bind_some]
      cases hcoerce : f.coerce v with
      | ok a => exact ⟨Field.get_set _ a, fun g hg => Field.get_set_of_ne hg _ a, rfl⟩
      | error fault => exact ⟨rfl, fun _ _ => rfl, rfl⟩

theorem settle_errors (s : Sources) (fs : List Field) :
    (settle s fs).2 = fs.filterMap s.error? := by
  induction fs with
  | nil => rfl
  | cons f rest ih =>
      rw [(settle_cons s f rest).2.2, ih, List.filterMap_cons]
      cases s.error? f <;> rfl

/-- A field that has been settled holds its setting, any other its default. -/
theorem settle_get (s : Sources) (f : Field) (fs : List Field) :
    f.get (settle s fs).1 = if f ∈ fs then s.setting f else f.get {} := by
  induction fs with
  | nil => rfl
  | cons g rest ih =>
      obtain ⟨hsame, hother, -⟩ := settle_cons s g rest
      by_cases hfg : f = g
      · subst hfg
        rw [hsame, ih, if_pos List.mem_cons_self, Sources.setting]
        -- a field that takes nothing keeps what it had: its default, settled before or not
        cases (s.value? f).bind fun v => (f.coerce v).toOption <;> simp
      · rw [hother f hfg, ih]
        simp [hfg]

/-- Every field has its setting where none has an error, and else all errors are told. -/
theorem resolve_cases (s : Sources) :
    (∃ x, resolve s = .ok x ∧ (∀ f, s.error? f = none) ∧ ∀ f, f.get x = s.setting f) ∨
      (∃ f, s.error? f ≠ none) ∧ resolve s = .error (fields.filterMap s.error?) := by
  have herrors := settle_errors s fields
  have hget : ∀ f, f.get (settle s fields).1 = s.setting f := fun f =>
    (settle_get s f fields).trans (if_pos (mem_fields f))
  rw [resolve]
  generalize settle s fields = outcome at herrors hget ⊢
  obtain ⟨x, errors⟩ := outcome
  cases errors with
  | nil =>
      left
      refine ⟨x, rfl, fun f => ?_, hget⟩
      exact List.filterMap_eq_nil_iff.mp herrors.symm f (mem_fields f)
  | cons e rest =>
      right
      have hmem : e ∈ fields.filterMap s.error? := herrors ▸ List.mem_cons_self
      obtain ⟨f, -, hf⟩ := List.mem_filterMap.mp hmem
      exact ⟨⟨f, by simp [hf]⟩, congrArg Except.error herrors⟩

theorem setting_of_resolve {x : Settings} (h : resolve s = .ok x) :
    (∀ f, s.error? f = none) ∧ ∀ f, f.get x = s.setting f := by
  rcases resolve_cases s with ⟨y, hy, hrest⟩ | ⟨-, herror⟩
  · rw [hy] at h
    cases h
    exact hrest
  · rw [herror] at h
    cases h

/-! ### What the outcome tells -/

/-- The errors with which settings are refused. -/
def refusals : Except (List FieldError) Settings → List FieldError
  | .ok _ => []
  | .error errors => errors

theorem refusals_resolve (s : Sources) : refusals (resolve s) = fields.filterMap s.error? := by
  rcases resolve_cases s with ⟨x, hx, hnone, -⟩ | ⟨-, herror⟩
  · rw [hx, List.filterMap_eq_nil_iff.mpr fun f _ => hnone f]
    rfl
  · rw [herror]
    rfl

/-- The error is that of a field that cannot take its winning value: it names the field and
tells the value as it was given. -/
def Sources.Fails (s : Sources) (f : Field) (e : FieldError) : Prop :=
  ∃ v fault, s.Wins f v ∧ f.coerce v = .error fault ∧ e = ⟨[.string f.name], fault, v⟩

theorem error?_eq_some_iff (hs : s.OneSpelling) {e : FieldError} :
    s.error? f = some e ↔ s.Fails f e := by
  rw [error?_eq_some]
  simp only [value?_eq_some_iff hs, Sources.Fails]

theorem error?_eq_none_iff (hs : s.OneSpelling) :
    s.error? f = none ↔ ∀ v, s.Wins f v → ∃ a, f.coerce v = .ok a := by
  rw [Sources.error?, Option.bind_eq_none_iff]
  simp only [value?_eq_some_iff hs]
  refine forall_congr' fun v => imp_congr_right fun _ => ?_
  cases f.coerce v <;> simp

/-- The settings hold what the sources give. -/
structure Holds (s : Sources) (x : Settings) : Prop where
  /-- A field holds what it makes of its winning value. -/
  winning : ∀ f v, s.Wins f v → f.coerce v = .ok (f.get x)
  /-- Without one it holds its default. -/
  default : ∀ f, (∀ v, ¬ s.Wins f v) → f.get x = f.get {}
  /-- The number of problems is not negative. -/
  maxProblems : 0 ≤ x.maxProblems
  /-- The number of links is positive. -/
  navMinLinks : 1 ≤ x.navMinLinks

/-- The errors are those of the fields that cannot take their winning values, one for each, in
the order of the fields. -/
def Tells (s : Sources) (errors : List FieldError) : Prop :=
  ∃ failing : List Field, failing.Sublist fields ∧ (∀ f, f ∈ failing ↔ ∃ e, s.Fails f e) ∧
    List.Forall₂ s.Fails failing errors

theorem setting_of_wins (hs : s.OneSpelling) (hv : s.Wins f v) {a : f.Value}
    (ha : f.coerce v = .ok a) : s.setting f = a := by
  rw [Sources.setting, (value?_eq_some_iff hs).mpr hv, Option.bind_some, ha]
  rfl

theorem setting_of_not_wins (hs : s.OneSpelling) (h : ∀ v, ¬ s.Wins f v) :
    s.setting f = f.get {} := by
  have hnone : s.value? f = none :=
    Option.eq_none_iff_forall_ne_some.mpr fun v hv => h v ((value?_eq_some_iff hs).mp hv)
  rw [Sources.setting, hnone]
  rfl

theorem inRange_setting (s : Sources) (f : Field) : f.InRange (s.setting f) := by
  rw [Sources.setting]
  cases htaken : (s.value? f).bind fun v => (f.coerce v).toOption with
  | none => exact f.inRange_default
  | some a =>
      obtain ⟨v, -, hv⟩ := Option.bind_eq_some_iff.mp htaken
      cases hcoerce : f.coerce v with
      | error fault => simp [hcoerce, Except.toOption] at hv
      | ok b =>
          simp only [hcoerce, Except.toOption, Option.some.injEq] at hv
          exact hv ▸ Field.inRange_of_coerce hcoerce

theorem holds_of_resolve (hs : s.OneSpelling) {x : Settings} (h : resolve s = .ok x) :
    Holds s x := by
  obtain ⟨hnone, hget⟩ := setting_of_resolve h
  have hrange : ∀ f : Field, f.InRange (f.get x) := fun f => hget f ▸ inRange_setting s f
  refine ⟨fun f v hv => ?_, fun f hno => ?_, hrange .maxProblems, hrange .navMinLinks⟩
  · obtain ⟨a, ha⟩ := (error?_eq_none_iff hs).mp (hnone f) v hv
    rw [ha, hget f, setting_of_wins hs hv ha]
  · rw [hget f, setting_of_not_wins hs hno]

theorem forall₂_filterMap {α β : Type} (g : α → Option β) (xs : List α) :
    List.Forall₂ (fun a b => g a = some b) (xs.filter fun a => (g a).isSome)
      (xs.filterMap g) := by
  induction xs with
  | nil => exact .nil
  | cons a xs ih =>
      cases ha : g a with
      | none => simpa [ha] using ih
      | some b => simpa [ha] using ih

theorem tells_of_resolve (hs : s.OneSpelling) {errors : List FieldError}
    (h : resolve s = .error errors) : Tells s errors := by
  have herrors : errors = fields.filterMap s.error? := by
    rw [← refusals_resolve, h]
    rfl
  refine ⟨fields.filter fun f => (s.error? f).isSome, List.filter_sublist, fun f => ?_, ?_⟩
  · rw [List.mem_filter, Option.isSome_iff_exists]
    simp only [mem_fields, true_and, error?_eq_some_iff hs]
  · rw [herrors]
    exact (forall₂_filterMap s.error? fields).imp fun f e => (error?_eq_some_iff hs).mp

/-! ### What makes no difference -/

/-- What counts for a field is the same in two sources. Nothing is said of the values that lose
to it, of the other fields and of the names that are no field's, but for those that a line in
the `.env` text refers to. -/
inductive Sources.Keeps (s s' : Sources) (f : Field) : Prop
  /-- The keyword is the same. -/
  | keyword {v : Json} : s.HasKeyword f v → s'.HasKeyword f v → Keeps s s' f
  /-- There is no keyword, and the variable of the environment is the same. -/
  | environment {v : String} : (∀ w, ¬ s.HasKeyword f w) → (∀ w, ¬ s'.HasKeyword f w) →
      s.HasVariable f v → s'.HasVariable f v → Keeps s s' f
  /-- There is neither, and the lines that count have the same value. It refers to names in
  `keep`, which are the same, as are those that the lines of these names refer to. -/
  | file {keep : String → Bool} {before before' : List Binding} {b b' : Binding} :
      s.LeftToFile f → s'.LeftToFile f → s.LineCounts f before b → s'.LineCounts f before' b' →
      b.2 = b'.2 → RefersWithin keep b.2 → Agree keep s.environment before s'.environment before' →
      Keeps s s' f
  /-- There is no value. -/
  | absent : s.LeftToFile f → s'.LeftToFile f →
      (∀ before b, s.LineCounts f before b → b.2 = none) →
      (∀ before b, s'.LineCounts f before b → b.2 = none) → Keeps s s' f

theorem Sources.Keeps.value?_eq (h : s.Keeps s' f) (hs : s.OneSpelling) (hs' : s'.OneSpelling) :
    s.value? f = s'.value? f := by
  cases h with
  | keyword hv hv' => rw [value?_of_keyword hs hv, value?_of_keyword hs' hv']
  | environment hno hno' hv hv' =>
      rw [value?_of_variable hs hno hv, value?_of_variable hs' hno' hv']
  | file hleft hleft' hline hline' hsame hrefers hagree =>
      rw [value?_of_leftToFile hleft, value?_of_leftToFile hleft', dotenv?_of_lineCounts hline,
        dotenv?_of_lineCounts hline', ← hsame, hagree.valueAmong_eq hrefers]
  | absent hleft hleft' hnone hnone' =>
      rw [value?_of_leftToFile hleft, value?_of_leftToFile hleft', dotenv?_eq_none hnone,
        dotenv?_eq_none hnone']

/-- The line that counts is the same in a `.env` text with the same lines for the field. -/
theorem Sources.LineCounts.of_sameLines {keep : String → Bool} {before : List Binding}
    {b : Binding} (h : s.LineCounts f before b)
    (hkeep : ∀ n, f.isSpelled n = true → keep n = true)
    (hlines : linesOf keep s.fileLines = linesOf keep s'.fileLines) :
    ∃ before', s'.LineCounts f before' b ∧ linesOf keep before = linesOf keep before' := by
  obtain ⟨after, hsplit, hdecides⟩ := h
  rw [hsplit] at hlines
  obtain ⟨before', after', hsplit', hbefore, hafter⟩ :=
    Dotenv.exists_split_of_sameLines (hkeep _ hdecides.spelled) hlines
  exact ⟨before', ⟨after', hsplit', hdecides.of_sameLines hkeep hbefore hafter⟩, hbefore⟩

/-- Two sources have the same entries for a field, whatever they say about other names, but for
those in `keep` that the lines for the field refer to. -/
structure Sources.SameEntries (s s' : Sources) (f : Field) (keep : String → Bool) : Prop where
  spelled : ∀ n, f.isSpelled n = true → keep n = true
  keywords : (s.keywords.filter fun k => f.isSpelled k.1) =
    s'.keywords.filter fun k => f.isSpelled k.1
  environment : (s.environment.filter fun e => f.isSpelled e.1) =
    s'.environment.filter fun e => f.isSpelled e.1
  file : Agree keep s.environment s.fileLines s'.environment s'.fileLines

/-- **Other names make no difference**: what counts for a field is among its entries. -/
theorem Sources.SameEntries.keeps {keep : String → Bool} (h : s.SameEntries s' f keep) :
    s.Keeps s' f := by
  obtain ⟨hkeep, hkeywords, henvironment, hfile⟩ := h
  have hkeyword : ∀ v, s.HasKeyword f v ↔ s'.HasKeyword f v := by
    intro v
    refine exists_congr fun name => ?_
    simpa using congrArg (fun entries => (name, v) ∈ entries) hkeywords
  have hvariable : ∀ v, s.HasVariable f v ↔ s'.HasVariable f v := by
    intro v
    refine exists_congr fun name => ?_
    simpa using congrArg (fun entries => (name, v) ∈ entries) henvironment
  have hleft' : s.LeftToFile f → s'.LeftToFile f := fun hleft =>
    ⟨fun v hv => hleft.noKeyword v ((hkeyword v).mpr hv),
      fun v hv => hleft.noVariable v ((hvariable v).mpr hv)⟩
  rcases s.origin_cases f with ⟨v, hv⟩ | ⟨hno, v, hv⟩ | ⟨hleft, before, b, hb⟩ | ⟨hleft, hline⟩
  · exact .keyword hv ((hkeyword v).mp hv)
  · exact .environment hno (fun w hw => hno w ((hkeyword w).mpr hw)) hv ((hvariable v).mp hv)
  · obtain ⟨before', hb', hbefore⟩ := hb.of_sameLines hkeep hfile.sameLines
    have ⟨after, hsplit, hdecides⟩ := hb
    have hclosed : ∀ c ∈ before ++ b :: after, keep c.1 = true → RefersWithin keep c.2 :=
      hsplit ▸ hfile.closed
    have hrefers : RefersWithin keep b.2 := hclosed b (by simp) (hkeep _ hdecides.spelled)
    refine .file hleft (hleft' hleft) hb hb' rfl hrefers ⟨hbefore, hfile.sameEnvironment, ?_⟩
    exact fun c hc => hclosed c (List.mem_append_left _ hc)
  · refine .absent hleft (hleft' hleft) (fun before b hb => absurd hb (hline before b)) ?_
    intro before b hb
    obtain ⟨before', hb', -⟩ := hb.of_sameLines hkeep hfile.sameLines.symm
    exact absurd hb' (hline before' b)

/-- Two outcomes tell the same about a field. -/
structure SameAt (f : Field) (r r' : Except (List FieldError) Settings) : Prop where
  /-- The field holds the same value. -/
  value : ∀ x x', r = .ok x → r' = .ok x' → f.get x = f.get x'
  /-- The field has the same error, or none. -/
  error : ∀ e : FieldError, e.location = [.string f.name] → (e ∈ refusals r ↔ e ∈ refusals r')

/-- An error with the name of a field is the error of that field. -/
theorem mem_refusals_iff {e : FieldError} (he : e.location = [.string f.name]) :
    e ∈ refusals (resolve s) ↔ s.error? f = some e := by
  rw [refusals_resolve, List.mem_filterMap]
  constructor
  · rintro ⟨g, -, hg⟩
    obtain ⟨v, fault, -, -, rfl⟩ := error?_eq_some.mp hg
    have hname : g.name = f.name := by simpa using he
    rwa [← Field.name_injective hname]
  · intro hf
    exact ⟨f, mem_fields f, hf⟩

theorem sameAt_of_value?_eq (h : s.value? f = s'.value? f) :
    SameAt f (resolve s) (resolve s') where
  value := by
    intro x x' hx hx'
    rw [(setting_of_resolve hx).2 f, (setting_of_resolve hx').2 f, Sources.setting,
      Sources.setting, h]
  error := by
    intro e he
    rw [mem_refusals_iff he, mem_refusals_iff he, Sources.error?, Sources.error?, h]

/-- **Settings are resolved field by field**, by the values that win: they are given if every
field can take its value, and hold it then; otherwise the fields that cannot are told. What does
not count for a field makes no difference to it, nor do the entries of other names. -/
theorem resolve_by_field (s : Sources) (hs : s.OneSpelling) :
    ((∃ x, resolve s = .ok x) ↔ ∀ f v, s.Wins f v → ∃ a, f.coerce v = .ok a) ∧
      (∀ x, resolve s = .ok x → Holds s x) ∧
      (∀ errors, resolve s = .error errors → Tells s errors) ∧
      (∀ s' f, s'.OneSpelling → s.Keeps s' f → SameAt f (resolve s) (resolve s')) ∧
      ∀ s' f keep, s'.OneSpelling → s.SameEntries s' f keep →
        SameAt f (resolve s) (resolve s') := by
  have hkeeps : ∀ s' f, s'.OneSpelling → s.Keeps s' f → SameAt f (resolve s) (resolve s') :=
    fun s' f hs' h => sameAt_of_value?_eq (h.value?_eq hs hs')
  refine ⟨?_, fun x => holds_of_resolve hs, fun errors => tells_of_resolve hs, hkeeps,
    fun s' f keep hs' h => hkeeps s' f hs' h.keeps⟩
  simp only [← error?_eq_none_iff hs]
  constructor
  · rintro ⟨x, hx⟩
    exact (setting_of_resolve hx).1
  · intro hnone
    rcases resolve_cases s with ⟨x, hx, -⟩ | ⟨⟨f, hf⟩, -⟩
    · exact ⟨x, hx⟩
    · exact absurd (hnone f) hf

/-- The name of the application refers to a variable that is no field's, and a number is too
small. -/
def belowBound : Sources where
  keywords := [("debug", .bool true)]
  environment := [("X", "b"), ("nav_min_links", "0"), ("Y", "1")]
  dotenv := "APP_NAME=a\nAPP_NAME=$\x7bX\x7d"

/-- The same reference, with other values for other names and on a line that does not count. -/
def withinBounds : Sources where
  environment := [("X", "b")]
  dotenv := "Z=1\nAPP_NAME=c\nAPP_NAME=$\x7bX\x7d"

theorem belowBound_keeps : belowBound.Keeps withinBounds .appName := by
  have hleft : belowBound.LeftToFile .appName :=
    .of_not_spelled (by decide +kernel) (by decide +kernel)
  have hleft' : withinBounds.LeftToFile .appName :=
    .of_not_spelled (by decide +kernel) (by decide +kernel)
  have hline : belowBound.LineCounts .appName [("APP_NAME", some "a")]
      ("APP_NAME", some "$\x7bX\x7d") :=
    ⟨[], by decide +kernel, by decide +kernel, by simp, by decide +kernel⟩
  have hline' : withinBounds.LineCounts .appName [("Z", some "1"), ("APP_NAME", some "c")]
      ("APP_NAME", some "$\x7bX\x7d") :=
    ⟨[], by decide +kernel, by decide +kernel, by simp, by decide +kernel⟩
  have hrefers : RefersWithin (· == "X") (some "$\x7bX\x7d") := by
    rintro v ⟨⟩
    decide +kernel
  refine .file hleft hleft' hline hline' rfl hrefers ⟨by decide, ?_, by simp⟩
  intro n hn
  obtain rfl := eq_of_beq hn
  rfl

theorem resolve_by_field_below_bound :
    (∃ errors, resolve belowBound = .error errors ∧ Tells belowBound errors) ∧
      (∃ x, resolve withinBounds = .ok x ∧ x.appName = "b") ∧
      SameAt .appName (resolve belowBound) (resolve withinBounds) := by
  have hone : belowBound.OneSpelling :=
    ⟨fun f => by cases f <;> decide +kernel, fun f => by cases f <;> decide +kernel⟩
  have hone' : withinBounds.OneSpelling :=
    ⟨fun f => by cases f <;> decide +kernel, fun f => by cases f <;> decide +kernel⟩
  obtain ⟨-, -, htells, hsame, -⟩ := resolve_by_field belowBound hone
  refine ⟨?_, ?_, hsame withinBounds .appName hone' belowBound_keeps⟩
  · cases h : resolve belowBound with
    | error errors => exact ⟨errors, rfl, htells errors h⟩
    | ok x =>
        have hnone : (resolve belowBound).toOption.isNone = true := by decide +kernel
        rw [h] at hnone
        cases hnone
  · obtain ⟨x, hx, hname⟩ := exists_ok_of_any (x := resolve withinBounds)
      (q := fun x => x.appName == "b") (by decide +kernel)
    exact ⟨x, hx, eq_of_beq hname⟩

/-- The name of the application refers to a name that is no field's, after the given lines. -/
def referring (lines : String) : Sources where
  dotenv := lines ++ "APP_NAME=$\x7bX\x7d"

theorem resolve_follows_reference :
    (∀ f : Field, f.isSpelled "X" = false) ∧
      (referring "").OneSpelling ∧ (referring "X=b\n").OneSpelling ∧
      (∃ x, resolve (referring "") = .ok x ∧ x.appName = "") ∧
      ∃ x, resolve (referring "X=b\n") = .ok x ∧ x.appName = "b" := by
  have hunknown : ∀ f : Field, f.isSpelled "X" = false := by
    intro f
    cases f <;> decide +kernel
  have hone : ∀ lines, (referring lines).OneSpelling := fun lines =>
    ⟨fun f => by simp [referring], fun f => by simp [referring]⟩
  refine ⟨hunknown, hone _, hone _, ?_, ?_⟩
  · obtain ⟨x, hx, hname⟩ := exists_ok_of_any (x := resolve (referring ""))
      (q := fun x => x.appName == "") (by decide +kernel)
    exact ⟨x, hx, eq_of_beq hname⟩
  · obtain ⟨x, hx, hname⟩ := exists_ok_of_any (x := resolve (referring "X=b\n"))
      (q := fun x => x.appName == "b") (by decide +kernel)
    exact ⟨x, hx, eq_of_beq hname⟩

end PageLandmarks.Settings
