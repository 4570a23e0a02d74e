import Mathlib.Data.List.Induction
import Mathlib.Data.List.TakeWhile
import PageLandmarks.Dotenv
import PageLandmarks.Proofs.Assoc

/-!
# PageLandmarks.Proofs.Dotenv

**What a value in a `.env` file depends on.** Of all lines for the spellings of a name a single
one counts, wherever the others stand: `Decides` tells which, and `Decides.last_value` that it
does. Every file with a line for the name has one (`exists_decides`).

The value on that line can refer to other variables. It means what the lines before it and the
environment make of the names that it refers to, and these lines can refer to others in turn.
So it depends on the names in a set that is closed under references, and on no others
(`Agree.valueAmong_eq`).
-/

namespace PageLandmarks.Dotenv

variable {environment environment' : List (String × String)}

/-! ### References -/

/-- The names that a value refers to, one for each reference that is replaced in it. -/
def references (cs : List Char) : List String :=
  match cs with
  | [] => []
  | c :: rest =>
    match reference? (c :: rest) with
    | some r => .ofList r.name :: references (rest.drop (r.length - 1))
    | none => references rest
termination_by cs.length
decreasing_by all_goals (simp only [List.length_cons, List.length_drop]; omega)

/-- A value means the same where the names that it refers to do. -/
theorem expand_congr {meaning meaning' : List Char → List Char → List Char} {cs : List Char}
    (h : ∀ name default, String.ofList name ∈ references cs →
      meaning name default = meaning' name default) :
    expand meaning cs = expand meaning' cs := by
  fun_induction references cs with
  | case1 => rw [expand, expand]
  | case2 c rest r hr ih =>
      rw [expand, expand, hr]
      have hfirst := h r.name r.default List.mem_cons_self
      have hrest := ih fun name default hname => h name default (List.mem_cons_of_mem _ hname)
      simp only [hfirst, hrest]
  | case3 c rest hr ih =>
      rw [expand, expand, hr]
      simp only [ih h]

theorem meaningOf_congr {done done' : List Binding} {name : List Char}
    (henvironment : environment.lookup (.ofList name) = environment'.lookup (.ofList name))
    (hdone : done.lookup (.ofList name) = done'.lookup (.ofList name)) (default : List Char) :
    meaningOf environment done name default = meaningOf environment' done' name default := by
  rw [meaningOf, meaningOf, henvironment, hdone]

/-! ### Variables after some lines -/

/-- The variables that there are after these lines. -/
def variablesAfter (environment : List (String × String)) (lines : List Binding) : List Binding :=
  lines.foldl (addBinding environment) []

theorem entries_eq_variablesAfter (text : String) :
    entries environment text = variablesAfter environment (bindings (lines text)) := rfl

/-- What the value on a line means, given the variables of the lines before it. -/
def valueAmong (environment : List (String × String)) (done : List Binding)
    (value : Option String) : Option String :=
  value.map fun v => .ofList (expand (meaningOf environment done) v.toList)

theorem lookup_addBinding (environment : List (String × String)) (done : List Binding)
    (b : Binding) (n : String) :
    (addBinding environment done b).lookup n =
      if b.1 == n then some (valueAmong environment done b.2) else done.lookup n :=
  Assoc.lookup_put done b.1 n _

/-- The lines of the names in `keep`. -/
def linesOf (keep : String → Bool) (lines : List Binding) : List Binding :=
  lines.filter fun b => keep b.1

/-- A value refers to names in `keep` only. -/
def RefersWithin (keep : String → Bool) (value : Option String) : Prop :=
  ∀ v, value = some v → ∀ n ∈ references v.toList, keep n = true

/-- The names in `keep` are on the same lines and have the same values in two files and their
environments, and the lines of these names refer to none but them. -/
structure Agree (keep : String → Bool) (environment : List (String × String))
    (lines : List Binding) (environment' : List (String × String)) (lines' : List Binding) :
    Prop where
  /-- The lines are the same. -/
  sameLines : linesOf keep lines = linesOf keep lines'
  /-- The environments say the same. -/
  sameEnvironment : ∀ n, keep n = true → environment.lookup n = environment'.lookup n
  /-- There is no reference to another name. -/
  closed : ∀ b ∈ lines, keep b.1 = true → RefersWithin keep b.2

section Agree

variable {keep : String → Bool} {done done' lines lines' : List Binding}

theorem mem_linesOf {b : Binding} : b ∈ linesOf keep lines ↔ b ∈ lines ∧ keep b.1 = true :=
  List.mem_filter

theorem mem_of_sameLines (h : linesOf keep lines = linesOf keep lines') {b : Binding}
    (hb : b ∈ lines') (hkeep : keep b.1 = true) : b ∈ lines :=
  (mem_linesOf.mp (h ▸ mem_linesOf.mpr ⟨hb, hkeep⟩)).1

/-- Two lists of variables have the same values for the names in `keep`. -/
def SameFor (keep : String → Bool) (done done' : List Binding) : Prop :=
  ∀ n, keep n = true → done.lookup n = done'.lookup n

/-- What a value means is told by the variables that it refers to. -/
theorem SameFor.valueAmong_eq (h : SameFor keep done done')
    (henvironment : ∀ n, keep n = true → environment.lookup n = environment'.lookup n)
    {value : Option String} (hvalue : RefersWithin keep value) :
    valueAmong environment done value = valueAmong environment' done' value := by
  cases value with
  | none => rfl
  | some v =>
      have hexpand : expand (meaningOf environment done) v.toList =
          expand (meaningOf environment' done') v.toList := by
        refine expand_congr fun name default hname => ?_
        have hkeep := hvalue v rfl _ hname
        exact meaningOf_congr (henvironment _ hkeep) (h _ hkeep) default
      simp only [valueAmong, Option.map_some, hexpand]

/-- The same line is added to variables that are the same. -/
theorem SameFor.addSame (h : SameFor keep done done')
    (henvironment : ∀ n, keep n = true → environment.lookup n = environment'.lookup n)
    {b : Binding} (hb : RefersWithin keep b.2) :
    SameFor keep (addBinding environment done b) (addBinding environment' done' b) := by
  intro n hn
  rw [lookup_addBinding, lookup_addBinding, h.valueAmong_eq henvironment hb, h n hn]

/-- A line for another name makes no difference. -/
theorem SameFor.addOther (h : SameFor keep done done') {b : Binding} (hb : keep b.1 = false) :
    SameFor keep (addBinding environment done b) done' := by
  intro n hn
  have hne : b.1 ≠ n := by
    rintro rfl
    rw [hn] at hb
    cases hb
  rw [lookup_addBinding, if_neg (by simpa using hne), h n hn]

/-- Lines for other names can be left out. -/
theorem SameFor.foldl_filter (h : SameFor keep done done')
    (henvironment : ∀ n, keep n = true → environment.lookup n = environment'.lookup n)
    (hclosed : ∀ b ∈ lines, keep b.1 = true → RefersWithin keep b.2) :
    SameFor keep (lines.foldl (addBinding environment) done)
      ((linesOf keep lines).foldl (addBinding environment') done') := by
  induction lines generalizing done done' with
  | nil => exact h
  | cons b lines ih =>
      obtain ⟨hfirst, hrest⟩ := List.forall_mem_cons.mp hclosed
      rw [List.foldl_cons, linesOf, List.filter_cons]
      cases hb : keep b.1 with
      | true => exact ih (h.addSame henvironment (hfirst hb)) hrest
      | false => exact ih (h.addOther hb) hrest

/-- Files that agree on some names have the same variables for them. -/
theorem Agree.sameFor (h : Agree keep environment lines environment' lines') :
    SameFor keep (variablesAfter environment lines) (variablesAfter environment' lines') := by
  have hclosed' : ∀ b ∈ lines', keep b.1 = true → RefersWithin keep b.2 := fun b hb hkeep =>
    h.closed b (mem_of_sameLines h.sameLines hb hkeep) hkeep
  have hnil : SameFor keep [] [] := fun _ _ => rfl
  intro n hn
  -- without the lines of other names, the two files are the same
  have hleft := hnil.foldl_filter h.sameEnvironment h.closed n hn
  rw [h.sameLines] at hleft
  exact hleft.trans (hnil.foldl_filter (fun _ _ => rfl) hclosed' n hn).symm

/-- **A value depends on what it refers to, directly or through lines before it**, and on no
other line and no other variable of the environment. -/
theorem Agree.valueAmong_eq (h : Agree keep environment lines environment' lines')
    {value : Option String} (hvalue : RefersWithin keep value) :
    valueAmong environment (variablesAfter environment lines) value =
      valueAmong environment' (variablesAfter environment' lines') value :=
  h.sameFor.valueAmong_eq h.sameEnvironment hvalue

end Agree

/-! ### The line that counts -/

/-- Of the lines for the names of some sort, the one between `before` and `after` counts. -/
structure Decides (sort : String → Bool) (before : List Binding) (b : Binding)
    (after : List Binding) : Prop where
  /-- It is for a name of the sort. -/
  spelled : sort b.1 = true
  /-- No line after it is for the same name. -/
  last : ∀ c ∈ after, c.1 ≠ b.1
  /-- Every other name of the sort has come up before its own name did. -/
  newest : ∀ c ∈ before ++ b :: after, sort c.1 = true → c.1 = b.1 ∨
    c.1 ∈ (before.takeWhile fun d => d.1 != b.1).map Prod.fst

section Decides

variable {sort : String → Bool} {before after : List Binding} {b : Binding}

/-- A list with an element that lacks a property has a first such element. -/
theorem exists_first_neg {α : Type} {p : α → Bool} (xs : List α) {x : α} (hx : p x = false)
    (ys : List α) :
    ∃ first rest, xs ++ x :: ys = xs.takeWhile p ++ first :: rest ∧ p first = false := by
  induction xs with
  | nil => exact ⟨x, ys, rfl, hx⟩
  | cons z xs ih =>
      cases hz : p z with
      | false => exact ⟨z, xs ++ x :: ys, by simp [hz], hz⟩
      | true =>
          obtain ⟨first, rest, hsplit, hfirst⟩ := ih
          exact ⟨first, rest, by simp [hz, hsplit], hfirst⟩

/-- Lines add the names that are new to the end, and each line's name is there then. -/
theorem names_foldl (environment : List (String × String)) (lines done : List Binding) :
    ∃ new, (lines.foldl (addBinding environment) done).map Prod.fst = done.map Prod.fst ++ new ∧
      (∀ n ∈ new, n ∈ lines.map Prod.fst ∧ n ∉ done.map Prod.fst) ∧
      ∀ c ∈ lines, c.1 ∈ done.map Prod.fst ∨ c.1 ∈ new := by
  induction lines generalizing done with
  | nil => exact ⟨[], by simp, by simp, by simp⟩
  | cons c lines ih =>
      obtain ⟨new, hnames, hnew, hlines⟩ := ih (addBinding environment done c)
      rw [List.foldl_cons, hnames]
      have hadd : (addBinding environment done c).map Prod.fst = _ := Assoc.put_names done c.1 _
      by_cases hc : c.1 ∈ done.map Prod.fst
      · rw [if_pos hc] at hadd
        rw [hadd] at hnew hlines ⊢
        refine ⟨new, rfl, fun n hn => ?_, List.forall_mem_cons.mpr ⟨Or.inl hc, hlines⟩⟩
        exact ⟨List.mem_cons_of_mem _ (hnew n hn).1, (hnew n hn).2⟩
      · rw [if_neg hc] at hadd
        rw [hadd] at hnew hlines ⊢
        simp only [List.mem_append, List.mem_singleton, not_or] at hnew hlines
        refine ⟨c.1 :: new, by simp, ?_, ?_⟩
        · refine List.forall_mem_cons.mpr ⟨⟨List.mem_cons_self, hc⟩, fun n hn => ?_⟩
          exact ⟨List.mem_cons_of_mem _ (hnew n hn).1, (hnew n hn).2.1⟩
        · refine List.forall_mem_cons.mpr ⟨Or.inr List.mem_cons_self, fun d hd => ?_⟩
          rw [List.mem_cons]
          exact or_assoc.mp (hlines d hd)

/-- Every variable has a line. -/
theorem name_mem_of_mem_variablesAfter {lines : List Binding} {e : Binding}
    (h : e ∈ variablesAfter environment lines) : e.1 ∈ lines.map Prod.fst := by
  obtain ⟨new, hnames, hnew, -⟩ := names_foldl environment lines []
  rw [List.map_nil, List.nil_append] at hnames
  exact (hnew e.1 (hnames ▸ List.mem_map_of_mem h)).1

theorem lookup_foldl_of_ne {n : String} {lines : List Binding} (h : ∀ c ∈ lines, c.1 ≠ n)
    (done : List Binding) :
    (lines.foldl (addBinding environment) done).lookup n = done.lookup n := by
  induction lines generalizing done with
  | nil => rfl
  | cons c lines ih =>
      obtain ⟨hfirst, hrest⟩ := List.forall_mem_cons.mp h
      rw [List.foldl_cons, ih hrest, lookup_addBinding, if_neg (by simpa using hfirst)]

/-- The last line of a name gives it its value. -/
theorem lookup_variablesAfter (hlast : ∀ c ∈ after, c.1 ≠ b.1) :
    (variablesAfter environment (before ++ b :: after)).lookup b.1 =
      some (valueAmong environment (variablesAfter environment before) b.2) := by
  rw [variablesAfter, List.foldl_append, List.foldl_cons, lookup_foldl_of_ne hlast,
    lookup_addBinding, if_pos (beq_self_eq_true b.1)]
  rfl

/-- The last of the entries for names of a sort is the entry of the name that came up last. -/
theorem find?_reverse_eq_lookup {entries : List Binding} {n : String} {older newer : List String}
    (hnames : entries.map Prod.fst = older ++ n :: newer) (hn : sort n = true)
    (holder : n ∉ older) (hnewer : ∀ m ∈ newer, sort m = false) :
    (entries.reverse.find? fun e => sort e.1).map Prod.snd = entries.lookup n := by
  obtain ⟨first, rest, rfl, rfl, hrest⟩ := List.map_eq_append_iff.mp hnames
  obtain ⟨⟨n, value⟩, rest, rfl, rfl, rfl⟩ := List.map_eq_cons_iff.mp hrest
  have hfind : (rest.reverse.find? fun e => sort e.1) = none :=
    List.find?_eq_none.mpr fun d hd => by
      simp [hnewer d.1 (List.mem_map_of_mem (List.mem_reverse.mp hd))]
  have hlookup : first.lookup n = none := by
    rw [List.lookup_eq_none_iff]
    intro d hd
    simp only [bne_iff_ne, ne_eq]
    rintro rfl
    exact holder (List.mem_map.mpr ⟨d, hd, rfl⟩)
  simp [hfind, hn, List.lookup_append, hlookup]

/-- The variables come in the order in which their names have come up: those of the lines
before the first line of a name, that name, and those that are new after it. -/
theorem names_variablesAfter (environment : List (String × String)) {early : List Binding}
    {first : Binding} (hfirst : first.1 ∉ early.map Prod.fst) (rest : List Binding) :
    ∃ older newer,
      (variablesAfter environment (early ++ first :: rest)).map Prod.fst =
        older ++ first.1 :: newer ∧
      first.1 ∉ older ∧
      ∀ n ∈ newer, n ∈ rest.map Prod.fst ∧ n ≠ first.1 ∧ n ∉ early.map Prod.fst := by
  obtain ⟨older, holder, holderMem, hearly⟩ := names_foldl environment early []
  obtain ⟨newer, hnewer, hnewerMem, -⟩ :=
    names_foldl environment rest (addBinding environment (variablesAfter environment early) first)
  rw [List.map_nil, List.nil_append] at holder
  simp only [List.map_nil, List.not_mem_nil, not_false_eq_true, and_true, false_or]
    at holderMem hearly
  have hnew : first.1 ∉ older := fun h => hfirst (holderMem _ h)
  have hadd : (addBinding environment (variablesAfter environment early) first).map Prod.fst =
      older ++ [first.1] := by
    rw [← holder] at hnew ⊢
    exact (Assoc.put_names _ first.1 _).trans (if_neg hnew)
  rw [hadd] at hnewer hnewerMem
  refine ⟨older, newer, ?_, hnew, ?_⟩
  · rw [variablesAfter, List.foldl_append, List.foldl_cons]
    exact hnewer.trans (by rw [List.append_assoc]; rfl)
  · intro n hn
    obtain ⟨hrest, hnot⟩ := hnewerMem n hn
    rw [List.mem_append, List.mem_singleton, not_or] at hnot
    refine ⟨hrest, hnot.2, fun hmem => hnot.1 ?_⟩
    obtain ⟨d, hd, rfl⟩ := List.mem_map.mp hmem
    exact hearly d hd

/-- **The line that counts gives the value**: the last entry for a name of the sort is that of
this line, as it is after the lines before it. -/
theorem Decides.last_value (h : Decides sort before b after) :
    ((variablesAfter environment (before ++ b :: after)).reverse.find?
      fun e => sort e.1).map Prod.snd =
      some (valueAmong environment (variablesAfter environment before) b.2) := by
  obtain ⟨first, rest, hsplit, hneg⟩ :=
    exists_first_neg (p := fun d => d.1 != b.1) before (bne_self_eq_false b.1) after
  have hfirst : first.1 = b.1 := by simpa using hneg
  have hearly : first.1 ∉ (before.takeWhile fun d => d.1 != b.1).map Prod.fst := by
    intro hmem
    obtain ⟨d, hd, hname⟩ := List.mem_map.mp hmem
    have hne := List.mem_takeWhile_imp hd
    rw [hname, hfirst] at hne
    simp at hne
  obtain ⟨older, newer, hnames, holder, hnewer⟩ := names_variablesAfter environment hearly rest
  rw [hfirst] at hnames holder hnewer
  rw [← lookup_variablesAfter h.last, hsplit]
  refine find?_reverse_eq_lookup hnames h.spelled holder fun n hn => ?_
  -- a name of the sort that comes up later would have to have come up before
  obtain ⟨hrest, hne, hnot⟩ := hnewer n hn
  obtain ⟨c, hc, rfl⟩ := List.mem_map.mp hrest
  cases hsort : sort c.1 with
  | false => rfl
  | true =>
      have hmem : c ∈ before ++ b :: after := by
        rw [hsplit]
        exact List.mem_append_right _ (List.mem_cons_of_mem _ hc)
      rcases h.newest c hmem hsort with hsame | hbefore
      · exact absurd hsame hne
      · exact absurd hbefore hnot

section Added

variable {c : Binding}

/-- A line that is added at the end for a new name counts from then on. -/
theorem decides_of_new {lines : List Binding} (hc : sort c.1 = true)
    (hname : c.1 ∉ lines.map Prod.fst) : Decides sort lines c [] where
  spelled := hc
  last := by simp
  newest := by
    intro d hd _
    have hall : (lines.takeWhile fun e => e.1 != c.1) = lines := by
      rw [List.takeWhile_eq_self_iff]
      intro e he
      rw [bne_iff_ne]
      rintro heq
      exact hname (heq ▸ List.mem_map_of_mem he)
    rw [hall]
    rcases List.mem_append.mp hd with hd | hd
    · exact Or.inr (List.mem_map_of_mem hd)
    · exact Or.inl (by rw [List.mem_singleton.mp hd])

/-- Another line for the name that counts takes the place of the one that counted. -/
theorem Decides.renewed (h : Decides sort before b after) (hname : c.1 = b.1) :
    Decides sort (before ++ b :: after) c [] where
  spelled := hname ▸ h.spelled
  last := by simp
  newest := by
    intro d hd hsort
    rw [hname]
    rcases List.mem_append.mp hd with hd | hd
    · have htake : (before.takeWhile fun e => e.1 != b.1) ⊆
          (before ++ b :: after).takeWhile fun e => e.1 != b.1 := by
        rw [List.takeWhile_append]
        split
        · exact List.subset_append_of_subset_left _ (List.takeWhile_sublist _).subset
        · exact List.Subset.refl _
      exact (h.newest d hd hsort).imp_right fun hmem => List.map_subset Prod.fst htake hmem
    · exact Or.inl (by rw [List.mem_singleton.mp hd, hname])

/-- Any other line leaves the one that counts. -/
theorem Decides.kept (h : Decides sort before b after) (hne : c.1 ≠ b.1)
    (hc : sort c.1 = true → c.1 ∈ (before ++ b :: after).map Prod.fst) :
    Decides sort before b (after ++ [c]) where
  spelled := h.spelled
  last := by
    intro d hd
    rcases List.mem_append.mp hd with hd | hd
    · exact h.last d hd
    · rwa [List.mem_singleton.mp hd]
  newest := by
    intro d hd hsort
    rw [← List.cons_append, ← List.append_assoc] at hd
    rcases List.mem_append.mp hd with hd | hd
    · exact h.newest d hd hsort
    · obtain rfl := List.mem_singleton.mp hd
      obtain ⟨e, he, hname⟩ := List.mem_map.mp (hc hsort)
      exact hname ▸ h.newest e he (hname ▸ hsort)

end Added

/-- **If there are lines for the names of some sort, one of them counts.** -/
theorem exists_decides {lines : List Binding} (h : ∃ c ∈ lines, sort c.1 = true) :
    ∃ before b after, lines = before ++ b :: after ∧ Decides sort before b after := by
  induction lines using List.reverseRecOn with
  | nil => simp at h
  | append_singleton lines c ih =>
      by_cases hnew : sort c.1 = true ∧ c.1 ∉ lines.map Prod.fst
      · exact ⟨lines, c, [], rfl, decides_of_new hnew.1 hnew.2⟩
      · have hold : sort c.1 = true → c.1 ∈ lines.map Prod.fst := fun hc =>
          not_not.mp fun hname => hnew ⟨hc, hname⟩
        -- so a line for the sort stands before this one
        obtain ⟨before, b, after, rfl, hdecides⟩ : ∃ before b after,
            lines = before ++ b :: after ∧ Decides sort before b after := by
          obtain ⟨d, hd, hsort⟩ := h
          rcases List.mem_append.mp hd with hd | hd
          · exact ih ⟨d, hd, hsort⟩
          · obtain rfl := List.mem_singleton.mp hd
            obtain ⟨e, he, hname⟩ := List.mem_map.mp (hold hsort)
            exact ih ⟨e, he, hname ▸ hsort⟩
        by_cases hname : c.1 = b.1
        · exact ⟨_, c, [], rfl, hdecides.renewed hname⟩
        · exact ⟨before, b, after ++ [c], by simp, hdecides.kept hname hold⟩

section SameLines

variable {keep : String → Bool} {before' after' lines' : List Binding}

/-- A line of a name in `keep` stands between the same lines of such names in both files. -/
theorem exists_split_of_sameLines (hb : keep b.1 = true)
    (h : linesOf keep (before ++ b :: after) = linesOf keep lines') :
    ∃ before' after', lines' = before' ++ b :: after' ∧
      linesOf keep before = linesOf keep before' ∧ linesOf keep after = linesOf keep after' := by
  have hsplit : linesOf keep lines' = linesOf keep before ++ b :: linesOf keep after := by
    rw [← h]
    simp [linesOf, hb]
  obtain ⟨before', after', hlines, hbefore, -, hafter⟩ := filter_eq_append_cons_iff.mp hsplit
  exact ⟨before', after', hlines, hbefore.symm, hafter.symm⟩

/-- The lines before the first line of a name in `keep` are told by the lines of such names. -/
theorem linesOf_takeWhile {n : String} (hn : keep n = true) (lines : List Binding) :
    linesOf keep (lines.takeWhile fun d => d.1 != n) =
      (linesOf keep lines).takeWhile fun d => d.1 != n := by
  have hstop : (fun d : Binding => !keep d.1 || d.1 != n) = fun d => d.1 != n := by
    funext d
    by_cases hd : d.1 = n <;> simp [hd, hn]
  rw [linesOf, linesOf, List.takeWhile_filter, hstop]

/-- Which line counts is told by the lines of the names of the sort, and of any others. -/
theorem Decides.of_sameLines (h : Decides sort before b after)
    (hkeep : ∀ n, sort n = true → keep n = true)
    (hbefore : linesOf keep before = linesOf keep before')
    (hafter : linesOf keep after = linesOf keep after') : Decides sort before' b after' where
  spelled := h.spelled
  last := by
    intro c hc hname
    have hc' := mem_of_sameLines hafter hc (hname ▸ hkeep _ h.spelled)
    exact h.last c hc' hname
  newest := by
    intro c hc hsort
    have hlines : linesOf keep (before ++ b :: after) = linesOf keep (before' ++ b :: after') := by
      rw [linesOf, linesOf, List.filter_append, List.filter_append, List.filter_cons,
        List.filter_cons]
      rw [linesOf, linesOf] at hbefore hafter
      rw [hbefore, hafter]
    have htake : linesOf keep (before'.takeWhile fun d => d.1 != b.1) =
        linesOf keep (before.takeWhile fun d => d.1 != b.1) := by
      rw [linesOf_takeWhile (hkeep _ h.spelled), linesOf_takeWhile (hkeep _ h.spelled), hbefore]
    refine (h.newest c (mem_of_sameLines hlines hc (hkeep _ hsort)) hsort).imp_right ?_
    intro hearly
    obtain ⟨d, hd, hname⟩ := List.mem_map.mp hearly
    have hd' := mem_of_sameLines htake hd (hname ▸ hkeep _ hsort)
    exact List.mem_map.mpr ⟨d, hd', hname⟩

end SameLines

end Decides

end PageLandmarks.Dotenv
