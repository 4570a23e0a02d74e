import PageLandmarks.Assoc

/-!
# PageLandmarks.Proofs.Assoc

**What becomes of one name.** To give a name a value concerns the entries of that name
alone (`filter_put`), so the entry of a name can be told from the occurrences of that name
(`filter_ofOccurrences`). Each entry is one of the occurrences, and no name has two.
-/

namespace PageLandmarks

/-- An entry of some sort stands between others of its sort where it stands between entries of
any sort. -/
theorem filter_eq_append_cons_iff {α : Type} {p : α → Bool} {xs before after : List α} {x : α} :
    xs.filter p = before ++ x :: after ↔
      ∃ before' after', xs = before' ++ x :: after' ∧ before'.filter p = before ∧
        p x = true ∧ after'.filter p = after := by
  constructor
  · intro h
    obtain ⟨first, rest, rfl, hfirst, hrest⟩ := List.filter_eq_append_iff.mp h
    obtain ⟨skipped, rest', rfl, hskipped, hx, hrest'⟩ := List.filter_eq_cons_iff.mp hrest
    refine ⟨first ++ skipped, rest', by simp, ?_, hx, hrest'⟩
    rw [List.filter_append, hfirst, List.filter_eq_nil_iff.mpr hskipped, List.append_nil]
  · rintro ⟨before', after', rfl, rfl, hx, rfl⟩
    rw [List.filter_append, List.filter_cons_of_pos hx]

namespace Assoc

variable {ν α : Type} [BEq ν] [LawfulBEq ν]

/-- The entries of a name are changed by giving it a value, and by no other name. -/
theorem filter_put (entries : List (ν × α)) (name key : ν) (value : α) :
    (put entries name value).filter (·.1 == key) =
      if name == key then put (entries.filter (·.1 == key)) name value
      else entries.filter (·.1 == key) := by
  -- a replaced entry keeps its name, so it is kept or left out as before
  have hkept : ∀ e : ν × α, ((if e.1 == name then (name, value) else e).1 == key) =
      (e.1 == key) := by
    intro e
    by_cases he : e.1 = name <;> simp [he]
  have hmap : (entries.map fun e => if e.1 == name then (name, value) else e).filter (·.1 == key) =
      (entries.filter (·.1 == key)).map fun e => if e.1 == name then (name, value) else e := by
    rw [List.filter_map]
    exact congrArg _ (List.filter_congr fun e _ => hkept e)
  by_cases hkey : name = key
  · subst hkey
    have hany : (entries.filter (·.1 == name)).any (·.1 == name) =
        entries.any (·.1 == name) := by
      simp [List.any_filter]
    rw [if_pos (beq_self_eq_true name), put, put, hany]
    split
    · exact hmap
    · simp
  · rw [if_neg (by simpa using hkey), put]
    split
    · rw [hmap]
      refine (List.map_congr_left fun e he => ?_).trans (List.map_id _)
      have hne : e.1 ≠ name := by
        rintro rfl
        exact hkey (by simpa using (List.mem_filter.mp he).2)
      simp [hne]
    · simp [hkey]

/-- The value of a name is that of its first entry. -/
theorem lookup_eq_head?_filter (entries : List (ν × α)) (key : ν) :
    entries.lookup key = (entries.filter (·.1 == key)).head?.map Prod.snd := by
  induction entries with
  | nil => rfl
  | cons e entries ih =>
      obtain ⟨name, value⟩ := e
      by_cases hkey : key = name
      · subst hkey
        simp
      · rw [List.lookup_cons, beq_eq_false_iff_ne.mpr hkey,
          List.filter_cons_of_neg (by simpa using Ne.symm hkey)]
        exact ih

/-- A name that is given a value has it, and every other name has the value that it had. -/
theorem lookup_put (entries : List (ν × α)) (name key : ν) (value : α) :
    (put entries name value).lookup key =
      if name == key then some value else entries.lookup key := by
  rw [lookup_eq_head?_filter, lookup_eq_head?_filter, filter_put]
  split
  · cases hentries : entries.filter (·.1 == key) with
    | nil => rfl
    | cons e rest =>
        have he : e.1 = key := by
          have hmem : e ∈ entries.filter (·.1 == key) := hentries ▸ List.mem_cons_self
          simpa using (List.mem_filter.mp hmem).2
        rename_i hname
        simp [put, he, eq_of_beq hname]
  · rfl

theorem filter_foldl_put (entries done : List (ν × α)) (key : ν) :
    (entries.foldl (fun done e => put done e.1 e.2) done).filter (·.1 == key) =
      (entries.filter (·.1 == key)).foldl (fun done e => put done e.1 e.2)
        (done.filter (·.1 == key)) := by
  induction entries generalizing done with
  | nil => rfl
  | cons e entries ih =>
      rw [List.foldl_cons, ih, filter_put, List.filter_cons]
      split <;> rfl

/-- The entry of a name is told by the occurrences of that name. -/
theorem filter_ofOccurrences (entries : List (ν × α)) (key : ν) :
    (ofOccurrences entries).filter (·.1 == key) =
      ofOccurrences (entries.filter (·.1 == key)) :=
  filter_foldl_put entries [] key

theorem put_singleton (e : ν × α) : put [e] e.1 e.2 = [e] := by
  simp [put]

/-- Where all occurrences are the same, that is the one entry. -/
theorem ofOccurrences_of_mem_iff {entries : List (ν × α)} {only : Option (ν × α)}
    (h : ∀ e, e ∈ entries ↔ only = some e) : ofOccurrences entries = only.toList := by
  cases only with
  | none =>
      have hnil : entries = [] := List.eq_nil_iff_forall_not_mem.mpr fun e he => by
        simpa using (h e).mp he
      subst hnil
      rfl
  | some e =>
      have hsame : ∀ e' ∈ entries, e' = e := fun e' he' => (Option.some.inj ((h e').mp he')).symm
      match entries with
      | [] => simpa using h e
      | e' :: rest =>
          obtain rfl := hsame e' List.mem_cons_self
          have hrest : rest.foldl (fun done e => put done e.1 e.2) [e'] = [e'] := by
            clear h
            induction rest with
            | nil => rfl
            | cons e'' rest ih =>
                obtain rfl := hsame e'' (by simp)
                rw [List.foldl_cons, put_singleton]
                exact ih fun e he => hsame e (List.mem_cons_of_mem _ he)
          exact hrest

omit [LawfulBEq ν] in
theorem mem_of_mem_put {entries : List (ν × α)} {name : ν} {value : α} {e : ν × α}
    (h : e ∈ put entries name value) : e ∈ entries ∨ e = (name, value) := by
  unfold put at h
  split at h
  · obtain ⟨e', he', rfl⟩ := List.mem_map.mp h
    split
    · exact Or.inr rfl
    · exact Or.inl he'
  · rcases List.mem_append.mp h with h | h
    · exact Or.inl h
    · exact Or.inr (List.mem_singleton.mp h)

/-- A name keeps its place when it is given another value, and a new one comes last. -/
theorem put_names (entries : List (ν × α)) (name : ν) (value : α) :
    (put entries name value).map Prod.fst =
      if name ∈ entries.map Prod.fst then entries.map Prod.fst
      else entries.map Prod.fst ++ [name] := by
  have hany : entries.any (·.1 == name) = true ↔ name ∈ entries.map Prod.fst := by
    simp [List.any_eq_true, List.mem_map]
  unfold put
  by_cases hname : name ∈ entries.map Prod.fst
  · rw [if_pos (hany.mpr hname), if_pos hname, List.map_map]
    refine List.map_congr_left fun e _ => ?_
    by_cases he : e.1 = name <;> simp [he]
  · rw [if_neg (mt hany.mp hname), if_neg hname, List.map_append]
    rfl

theorem foldl_put_names_nodup (entries done : List (ν × α)) (h : (done.map Prod.fst).Nodup) :
    ((entries.foldl (fun done e => put done e.1 e.2) done).map Prod.fst).Nodup := by
  induction entries generalizing done with
  | nil => exact h
  | cons e entries ih =>
      refine ih _ ?_
      rw [put_names]
      split
      · exact h
      · rename_i hname
        exact List.nodup_append.mpr ⟨h, by simp, by
          rintro x hx y hy rfl
          exact hname (List.mem_singleton.mp hy ▸ hx)⟩

omit [LawfulBEq ν] in
theorem mem_of_mem_foldl_put {entries done : List (ν × α)} {e : ν × α}
    (h : e ∈ entries.foldl (fun done e => put done e.1 e.2) done) : e ∈ done ∨ e ∈ entries := by
  induction entries generalizing done with
  | nil => exact Or.inl h
  | cons e' entries ih =>
      rcases ih h with h | h
      · rcases mem_of_mem_put h with h | rfl
        · exact Or.inl h
        · exact Or.inr List.mem_cons_self
      · exact Or.inr (List.mem_cons_of_mem _ h)

/-- No name has two entries. -/
theorem ofOccurrences_names_nodup (entries : List (ν × α)) :
    ((ofOccurrences entries).map Prod.fst).Nodup :=
  foldl_put_names_nodup entries [] List.nodup_nil

omit [LawfulBEq ν] in
theorem mem_of_mem_ofOccurrences {entries : List (ν × α)} {e : ν × α}
    (h : e ∈ ofOccurrences entries) : e ∈ entries :=
  (mem_of_mem_foldl_put h).resolve_left List.not_mem_nil

end Assoc

end PageLandmarks
