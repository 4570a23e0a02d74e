import PageLandmarks.Proofs.Snapshot
import PageLandmarks.Proofs.Tree.Depth

/-!
# PageLandmarks.Proofs.BreadthFirst

**An inferred navigation is the shallowest link block, and the first one read at its depth.**
The queue of the scan holds the rest of one level and after it the children collected from
that level so far. When the level is used up, what is left is the next level
(`levelOrder_append`). So the scan goes through the elements by depth
(`levelOrder_eq_byDepth`), although it keeps no count of depths.

A run of the scan is also given with the elements that it pops (`Scans`): they are the
beginning of that list, so the run ends, and it pops no element twice.
-/

namespace PageLandmarks

/-! ### Level by level -/

/-- The rest of a level comes before the children collected so far, and the children of that
rest come after them. -/
theorem levelOrder_append (rest collected : List Element) :
    levelOrder (rest ++ collected) = rest ++ levelOrder (collected ++ childrenOfAll rest) := by
  induction rest generalizing collected with
  | nil => rw [childrenOfAll, List.flatMap_nil, List.append_nil]; rfl
  | cons e rest ih =>
      -- the children of `e` have joined the ones collected when `rest` is gone through
      rw [List.cons_append, levelOrder, List.append_assoc, ih, List.append_assoc]
      rfl

/-- After a whole level comes the next one. -/
theorem levelOrder_eq_append (level : List Element) :
    levelOrder level = level ++ levelOrder (childrenOfAll level) := by
  have h := levelOrder_append level []
  rwa [List.append_nil, List.nil_append] at h

/-- As many levels as there are elements are enough. -/
theorem levelOrder_eq_flatMap_atDepth {count : Nat} {es : List Element}
    (h : (preorders es).length ≤ count) :
    levelOrder es = (List.range count).flatMap fun depth => atDepth depth es := by
  induction count generalizing es with
  | zero =>
      have hlength := length_preorders_childrenOfAll es
      obtain rfl : es = [] := List.eq_nil_of_length_eq_zero (by omega)
      rw [levelOrder]
      rfl
  | succ count ih =>
      rw [List.range_succ_eq_map, List.flatMap_cons, List.flatMap_map, atDepth_zero]
      simp only [Nat.succ_eq_add_one, atDepth_succ]
      cases es with
      | nil => simp [levelOrder, childrenOfAll]
      | cons e es =>
          -- a level with an element in it leaves fewer for the levels after it
          have hlength := length_preorders_childrenOfAll (e :: es)
          rw [List.length_cons] at hlength
          rw [levelOrder_eq_append, ih (by omega)]

/-- **The scan goes through the elements by depth**, and in reading order at each depth. -/
theorem levelOrder_eq_byDepth (es : List Element) : levelOrder es = byDepth es :=
  levelOrder_eq_flatMap_atDepth (Nat.le_refl _)

/-- By depth, each element is listed as often as in reading order. -/
theorem byDepth_perm (es : List Element) : (byDepth es).Perm (preorders es) :=
  levelOrder_eq_byDepth es ▸ levelOrder_perm es

/-! ### Runs of the scan -/

/-- A run of the scan of a queue: the elements that it pops, one after another, and what it
comes to. -/
inductive Scans (minLinks : Int) : Queue Element → List Element → Option Element → Prop
  /-- There is nothing to pop. -/
  | exhausted {q : Queue Element} (hpop : q.pop? = none) : Scans minLinks q [] none
  /-- The element popped is a link block. -/
  | found {q rest : Queue Element} {e : Element} (hpop : q.pop? = some (e, rest))
      (hblock : e.isLinkBlock minLinks = true) : Scans minLinks q [e] (some e)
  /-- The element popped is no link block, and its children are pushed. -/
  | next {q rest : Queue Element} {e : Element} {popped : List Element}
      {result : Option Element} (hpop : q.pop? = some (e, rest))
      (hblock : ¬ e.isLinkBlock minLinks = true)
      (hrest : Scans minLinks (rest.pushAll e.elementChildren) popped result) :
      Scans minLinks q (e :: popped) result

/-- The scan has a run, which ends. -/
theorem exists_scans (minLinks : Int) (q : Queue Element) :
    ∃ popped, Scans minLinks q popped (scan minLinks q) := by
  fun_induction scan minLinks q with
  | case1 q hpop => exact ⟨[], .exhausted hpop⟩
  | case2 q e rest hpop hblock => exact ⟨[e], .found hpop hblock⟩
  | case3 q e rest hpop hblock ih =>
      obtain ⟨popped, hscans⟩ := ih
      exact ⟨e :: popped, .next hpop hblock hscans⟩

/-- What a run pops is the beginning of the levels. -/
theorem Scans.isPrefix_levelOrder {minLinks : Int} {q : Queue Element} {popped : List Element}
    {result : Option Element} (h : Scans minLinks q popped result) :
    popped <+: levelOrder q.toList := by
  induction h with
  | exhausted _ => exact List.nil_prefix
  | found hpop _ =>
      rw [Queue.toList_eq_cons_of_pop? hpop, levelOrder]
      exact List.prefix_append [_] _
  | next hpop _ _ ih =>
      rw [Queue.toList_eq_cons_of_pop? hpop, levelOrder]
      rw [Queue.toList_pushAll] at ih
      exact List.cons_prefix_cons.mpr ⟨rfl, ih⟩

/-! ### Inferred navigation -/

/-- The elements that the scan of a body begins with: those directly in it that are neither
heads nor scripts. -/
def Element.scanSeeds (b : Element) : List Element :=
  b.elementChildren.filter fun e => e.name != "head" && e.name != "script"

theorem Element.scanSeeds_eq (b : Element) :
    b.contentChildren.filter (fun e => !e.tag.isScript) = b.scanSeeds := by
  rw [contentChildren, List.filter_filter, scanSeeds]
  refine List.filter_congr fun e _ => ?_
  rw [Bool.and_comm, Tag.isScript]
  rfl

/-- What is found in the trees `seeds` is the first of their link blocks by depth. -/
structure FirstBlock (minLinks : Int) (seeds : List Element) (found : Option Element) :
    Prop where
  /-- The elements of the trees are those ranked in reading order, and those listed by
  depth. -/
  listed : (ranked seeds).map Prod.snd = preorders seeds ∧ (byDepth seeds).Perm (preorders seeds)
  /-- It is the first link block in the list by depth. -/
  first : found = (byDepth seeds).find? fun e => e.isLinkBlock minLinks
  /-- There is nothing to find only if no element is a link block. -/
  none_iff : found = none ↔ ∀ e ∈ preorders seeds, ¬ e.isLinkBlock minLinks = true
  /-- It has the least depth of all link blocks and is the first of that depth. -/
  shallowest : ∀ e, found = some e → Shallowest (fun e => e.isLinkBlock minLinks) seeds e
  /-- It is found by a run that ends, and pops only elements of that list, from its beginning
  on and none of them twice. -/
  run : ∃ popped, Scans minLinks (.ofList seeds) popped found ∧ popped <+: byDepth seeds ∧
    (popped.map Element.id).Nodup

theorem firstBlock_scan (minLinks : Int) {r : Element} (hr : r.Distinct) {seeds : List Element}
    (hseeds : seeds.Sublist r.elementChildren) :
    FirstBlock minLinks seeds (scan minLinks (.ofList seeds)) := by
  have hfirst : scan minLinks (.ofList seeds) =
      (byDepth seeds).find? fun e => e.isLinkBlock minLinks := by
    rw [scan_eq_find?_levelOrder, Queue.toList_ofList, levelOrder_eq_byDepth]
  have hnodup : ((byDepth seeds).map Element.id).Nodup :=
    levelOrder_eq_byDepth seeds ▸ hr.levelOrder_nodup hseeds
  refine ⟨⟨ranked_map_snd seeds, byDepth_perm seeds⟩, hfirst, ?_,
    fun e he => shallowest_of_find?_byDepth (hfirst ▸ he), ?_⟩
  · rw [hfirst, List.find?_eq_none]
    simp only [(byDepth_perm seeds).mem_iff]
  · -- what is popped is the beginning of a list that has no element twice
    obtain ⟨popped, hscans⟩ := exists_scans minLinks (.ofList seeds)
    have hbegins := hscans.isPrefix_levelOrder
    rw [Queue.toList_ofList, levelOrder_eq_byDepth] at hbegins
    exact ⟨popped, hscans, hbegins, hnodup.sublist (hbegins.sublist.map Element.id)⟩

namespace Page

/-- **Without a marked navigation, the first link block by depth is taken for it**, on a page
as it was read and after any edits. -/
theorem navigation_first_by_depth {reader : ReaderChoice} {html : String} {p : Page}
    (hread : read reader html = .ok p) (hunmarked : p.navigations = []) (edits : List Edit)
    (minLinks : Int) :
    ∃ b found, (p.editAll edits).bodyElement? = some b ∧
      (⟨minLinks⟩ : Detector).navigation (p.editAll edits) = found.elim .absent .inferred ∧
      FirstBlock minLinks b.scanSeeds found := by
  obtain ⟨b, hbody⟩ := exists_body_editAll hread edits
  have hdistinct := (editAll_sound hread edits).1.distinct
  have hmem := (hdistinct.find?_eq_some_iff.mp hbody).1
  refine ⟨b, _, hbody, ?_, firstBlock_scan minLinks (hdistinct.subtree hmem) List.filter_sublist⟩
  have hnavigations : (p.editAll edits).navigations = [] := by rw [editAll_eq]; exact hunmarked
  rw [Detector.navigation, hnavigations, bodyChildren_eq hbody, b.scanSeeds_eq]
  cases scan minLinks (.ofList b.scanSeeds) <;> rfl

/-- A link is put into a list that had none. -/
def linking : List Edit := [.append (.numbered 3) "a" [("href", .text "")] none]

/-- The paragraph with a link is read before the list, but it is deeper. -/
theorem navigation_first_by_depth_list :
    ∃ p b e, read .any "<div><p><a href></a></p></div><ul></ul>" = .ok p ∧
      p.navigations = [] ∧ (p.editAll linking).bodyElement? = some b ∧
      (⟨1⟩ : Detector).navigation (p.editAll linking) = .inferred e ∧ e.id = .numbered 3 ∧
      FirstBlock 1 b.scanSeeds (some e) := by
  obtain ⟨p, hread, hlist⟩ : ∃ p, read .any "<div><p><a href></a></p></div><ul></ul>" = .ok p ∧
      (p.navigations.isEmpty && (p.editAll linking).bodyElement?.any fun b =>
        ((byDepth b.scanSeeds).find? fun e => e.isLinkBlock 1).any fun e =>
          e.id == .numbered 3) = true :=
    exists_ok_of_any (by decide +kernel)
  obtain ⟨hunmarked, hlist⟩ := Bool.and_eq_true_iff.mp hlist
  obtain ⟨b, found, hbody, hnav, hfirst⟩ :=
    navigation_first_by_depth hread (List.isEmpty_iff.mp hunmarked) linking 1
  rw [hbody, Option.any_some, ← hfirst.first] at hlist
  obtain ⟨e, rfl, hid⟩ := (Option.any_eq_true _ _).mp hlist
  exact ⟨p, b, e, hread, List.isEmpty_iff.mp hunmarked, hbody, hnav, by simpa using hid, hfirst⟩

end Page

end PageLandmarks
