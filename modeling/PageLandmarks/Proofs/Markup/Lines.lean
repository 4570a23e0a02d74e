import Mathlib.Data.List.Basic
import PageLandmarks.Markup.Reader

/-!
# PageLandmarks.Proofs.Markup.Lines

**The lines of start tags.** A pass keeps count of the line that it has come to, and a
construct that begins there is on that line. A step opens at most one element, on the
line where the step begins (`step_onLine`), and the count only grows, by no more than the
line feeds that the step takes off the text. So in the events of a text the lines of the
start tags never go back, and they lie between 1 and one more than the line feeds of the
text (`readEvents_lines`), however broken the markup is.
-/

namespace PageLandmarks.Markup

/-! ### Lines in order -/

/-- The line of a start tag. -/
def Event.line? : Event → Option Nat
  | .startTag _ _ line _ => some line
  | _ => none

/-- The lines of the start tags among the events, in order. -/
def startLines (events : List Event) : List Nat := events.filterMap Event.line?

@[simp] theorem startLines_nil : startLines [] = [] := rfl

@[simp] theorem startLines_append (events events' : List Event) :
    startLines (events ++ events') = startLines events ++ startLines events' :=
  List.filterMap_append

/-- The lines are in order, from `low` on and up to `high`. -/
structure Within (low high : Nat) (lines : List Nat) : Prop where
  sorted : lines.Pairwise (· ≤ ·)
  le : low ≤ high
  bounds : ∀ line ∈ lines, low ≤ line ∧ line ≤ high

namespace Within

variable {low middle high : Nat} {lines lines' : List Nat}

theorem nil (h : low ≤ high) : Within low high [] :=
  ⟨List.Pairwise.nil, h, fun _ hline => absurd hline List.not_mem_nil⟩

theorem of_forall_eq {line : Nat} (h : ∀ l ∈ lines, l = line) : Within line line lines := by
  refine ⟨?_, Nat.le_refl line, ?_⟩
  · refine List.pairwise_of_forall_mem_list fun l hl l' hl' => ?_
    exact Nat.le_of_eq ((h l hl).trans (h l' hl').symm)
  · intro l hl
    rw [h l hl]
    exact ⟨Nat.le_refl line, Nat.le_refl line⟩

/-- What ends where the next begins goes on in order. -/
theorem append (h : Within low middle lines) (h' : Within middle high lines') :
    Within low high (lines ++ lines') := by
  refine ⟨List.pairwise_append.mpr ⟨h.sorted, h'.sorted, ?_⟩, Nat.le_trans h.le h'.le, ?_⟩
  · intro l hl l' hl'
    exact Nat.le_trans (h.bounds l hl).2 (h'.bounds l' hl').1
  · intro l hl
    rcases List.mem_append.mp hl with hl | hl
    · exact ⟨(h.bounds l hl).1, Nat.le_trans (h.bounds l hl).2 h'.le⟩
    · exact ⟨Nat.le_trans h.le (h'.bounds l hl).1, (h'.bounds l hl).2⟩

theorem mono {top : Nat} (h : Within low high lines) (htop : high ≤ top) : Within low top lines := by
  simpa using h.append (nil htop)

end Within

/-! ### Constructs -/

/-- All elements that the events open begin on this line. -/
def OnLine (line : Nat) (events : List Event) : Prop := ∀ l ∈ startLines events, l = line

theorem onLine_of_startLines_eq_nil {events : List Event} (h : startLines events = [])
    (line : Nat) : OnLine line events := by
  intro l hl
  rw [h] at hl
  exact absurd hl List.not_mem_nil

/-- All elements that a construct opens begin on this line. -/
def Construct.OnLine (line : Nat) : Construct → Prop
  | .unfinished => True
  | .finished events _ _ => Markup.OnLine line events

theorem untilGt_onLine {event : String → Event} (h : ∀ s, (event s).line? = none)
    (opening : Nat) (cs : List Char) (line : Nat) : (untilGt event opening cs).OnLine line := by
  unfold untilGt
  split
  · trivial
  · exact onLine_of_startLines_eq_nil (by simp [startLines, h]) line

theorem comment_onLine (cs : List Char) (line : Nat) : (comment cs).OnLine line := by
  unfold comment
  split
  · trivial
  · exact onLine_of_startLines_eq_nil rfl line

theorem markedSection_onLine {cs : List Char} {c : Construct} (h : markedSection cs = .ok c)
    (line : Nat) : c.OnLine line := by
  unfold markedSection at h
  dsimp only at h
  split at h
  · obtain rfl := Except.ok.inj h
    trivial
  · cases h
  · split at h
    · obtain rfl := Except.ok.inj h
      trivial
    · split at h
      · cases h
      · split at h
        · obtain rfl := Except.ok.inj h
          trivial
        · obtain rfl := Except.ok.inj h
          exact onLine_of_startLines_eq_nil rfl line

theorem declaration_onLine {cs : List Char} {c : Construct} (h : declaration cs = .ok c)
    (line : Nat) : c.OnLine line := by
  unfold declaration at h
  split at h
  · exact markedSection_onLine h line
  · split at h
    · obtain rfl := Except.ok.inj h
      exact untilGt_onLine (fun _ => rfl) 9 cs line
    · obtain rfl := Except.ok.inj h
      exact untilGt_onLine (fun _ => rfl) 2 cs line

theorem endTag_onLine (raw : Option RawElement) (cs : List Char) (line : Nat) :
    (endTag raw cs).OnLine line := by
  have hnone : ∀ {events : List Event} {length : Nat} {raw' : Option RawElement},
      startLines events = [] → (Construct.finished events length raw').OnLine line :=
    fun h => onLine_of_startLines_eq_nil h line
  unfold endTag
  split
  · trivial
  · dsimp only
    split
    · exact hnone rfl
    · split <;> exact hnone rfl
    · exact hnone rfl
    · split
      · exact hnone rfl
      · split <;> exact hnone rfl

/-- A start tag is on the line that it is read on. -/
theorem startTag_onLine {line : Nat} {cs : List Char} {c : Construct}
    (h : startTag line cs = .ok c) : c.OnLine line := by
  unfold startTag at h
  dsimp only at h
  split at h
  · obtain rfl := Except.ok.inj h
    trivial
  · cases hattrs : resolveAll (attributes _ _).1 with
    | error e => rw [hattrs] at h; cases h
    | ok attrs =>
        rw [hattrs] at h
        obtain rfl := Except.ok.inj h
        split
        · exact onLine_of_startLines_eq_nil rfl line
        · split
          · exact fun l hl => List.mem_singleton.mp hl
          · exact fun l hl => List.mem_singleton.mp hl

/-- Whatever begins with a `<`, only a start tag opens an element. -/
theorem construct_onLine {raw : Option RawElement} {line : Nat} {cs : List Char} {c : Construct}
    (h : construct raw line cs = .ok c) : c.OnLine line := by
  unfold construct at h
  split at h
  · obtain rfl := Except.ok.inj h
    trivial
  · split at h
    · exact startTag_onLine h
    · split at h
      · obtain rfl := Except.ok.inj h
        exact endTag_onLine raw cs line
      · split at h
        · obtain rfl := Except.ok.inj h
          exact comment_onLine cs line
        · split at h
          · obtain rfl := Except.ok.inj h
            exact untilGt_onLine (fun _ => rfl) 2 cs line
          · split at h
            · exact declaration_onLine h line
            · obtain rfl := Except.ok.inj h
              exact onLine_of_startLines_eq_nil rfl line

/-! ### Steps -/

theorem constructStep_onLine {final : Bool} {raw : Option RawElement} {line : Nat}
    {cs : List Char} {s : Step} (h : constructStep final raw line cs = .ok s) :
    OnLine line s.events := by
  unfold constructStep at h
  cases hconstruct : construct raw line cs with
  | error e => rw [hconstruct] at h; cases h
  | ok c =>
      rw [hconstruct] at h
      have hline := construct_onLine hconstruct
      cases c with
      | finished events length raw' =>
          obtain rfl := Except.ok.inj h
          exact hline
      | unfinished =>
          simp only [bind, Except.bind, pure, Except.pure] at h
          split at h
          · obtain rfl := Except.ok.inj h
            exact onLine_of_startLines_eq_nil rfl line
          · obtain rfl := Except.ok.inj h
            exact onLine_of_startLines_eq_nil rfl line

theorem numberStep_onLine {cs : List Char} {s : Step} (h : numberStep cs = .ok s)
    (line : Nat) : OnLine line s.events := by
  unfold numberStep at h
  split at h
  · split at h
    · cases h
    · obtain rfl := Except.ok.inj h
      exact onLine_of_startLines_eq_nil rfl line
  · obtain rfl := Except.ok.inj h
    split
    · exact onLine_of_startLines_eq_nil rfl line
    · exact onLine_of_startLines_eq_nil rfl line

theorem nameStep_onLine (final : Bool) (cs : List Char) (line : Nat) :
    OnLine line (nameStep final cs).events := by
  unfold nameStep
  split
  · exact onLine_of_startLines_eq_nil rfl line
  · exact onLine_of_startLines_eq_nil rfl line
  · split
    · exact onLine_of_startLines_eq_nil rfl line
    · exact onLine_of_startLines_eq_nil rfl line

/-- What a step opens is on the line where the step begins. -/
theorem step_onLine {final : Bool} {raw : Option RawElement} {line : Nat} {cs : List Char}
    {s : Step} (h : step final raw line cs = .ok s) : OnLine line s.events := by
  unfold step at h
  split at h
  · -- inside a raw element
    split at h
    · obtain rfl := Except.ok.inj h
      exact onLine_of_startLines_eq_nil rfl line
    · exact constructStep_onLine h
    · obtain rfl := Except.ok.inj h
      exact onLine_of_startLines_eq_nil rfl line
  · split at h
    · exact constructStep_onLine h
    · exact numberStep_onLine h line
    · obtain rfl := Except.ok.inj h
      exact nameStep_onLine final _ line
    · obtain rfl := Except.ok.inj h
      exact onLine_of_startLines_eq_nil rfl line

/-! ### Passes -/

theorem newlines_append (cs ds : List Char) : newlines (cs ++ ds) = newlines cs + newlines ds :=
  List.count_append

theorem newlines_take_add_drop (n : Nat) (cs : List Char) :
    newlines (cs.take n) + newlines (cs.drop n) = newlines cs := by
  rw [← newlines_append, List.take_append_drop]

/-- What is left after a step has no more line feeds than were not counted. A step of no
length still takes a character off, and a line feed there would not be counted. -/
theorem newlines_take_add_drop_le (n : Nat) (c : Char) (rest : List Char) :
    newlines ((c :: rest).take n) + newlines (rest.drop (n - 1)) ≤ newlines (c :: rest) := by
  cases n with
  | zero =>
      have hcons : newlines (c :: rest) = newlines [c] + newlines rest := newlines_append [c] rest
      have hnil : newlines ((c :: rest).take 0) = 0 := rfl
      rw [hnil, hcons, Nat.zero_sub, List.drop_zero]
      omega
  | succ n =>
      have hdrop : rest.drop (n + 1 - 1) = (c :: rest).drop (n + 1) := rfl
      rw [hdrop]
      exact Nat.le_of_eq (newlines_take_add_drop (n + 1) (c :: rest))

/-- A pass from a line on opens its elements in order, up to the line that it comes to, and
counts no more lines than it reads. -/
theorem pass_lines {final : Bool} {raw : Option RawElement} {line : Nat} {cs : List Char}
    {p : Progress} (h : pass final raw line cs = .ok p) :
    Within line p.line (startLines p.events) ∧
      p.line + newlines p.rest ≤ line + newlines cs := by
  fun_induction pass final raw line cs generalizing p with
  | case1 raw line =>
      obtain rfl := Except.ok.inj h
      exact ⟨.nil (Nat.le_refl line), Nat.le_refl _⟩
  | case2 raw line c rest e hstep => cases h
  | case3 raw line c rest s hstep next =>
      obtain rfl := Except.ok.inj h
      have hcount := newlines_take_add_drop s.length (c :: rest)
      refine ⟨(Within.of_forall_eq (step_onLine hstep)).mono (Nat.le_add_right _ _), ?_⟩
      dsimp only
      omega
  | case4 raw line c rest s hstep next _ =>
      rename_i ih
      cases hpass : pass final s.raw next (rest.drop (s.length - 1)) with
      | error e => rw [hpass] at h; cases h
      | ok q =>
          rw [hpass] at h
          obtain rfl := Except.ok.inj h
          obtain ⟨hlines, hleft⟩ := ih hpass
          have hcount := newlines_take_add_drop_le s.length c rest
          refine ⟨?_, ?_⟩
          · -- the step stays on its line, and the rest begins on the line it comes to
            rw [startLines_append]
            have hfirst : Within line next (startLines s.events) :=
              (Within.of_forall_eq (step_onLine hstep)).mono (Nat.le_add_right _ _)
            exact hfirst.append hlines
          · dsimp only
            omega

/-- **The start tags of a text are on its lines, in order.** -/
theorem readEvents_lines {text : String} {events : List Event} (h : readEvents text = .ok events) :
    Within 1 (1 + newlines text.toList) (startLines events) := by
  unfold readEvents at h
  cases hfirst : pass false none 1 text.toList with
  | error e => rw [hfirst] at h; cases h
  | ok first =>
      rw [hfirst] at h
      cases hsecond : pass true first.raw first.line first.rest with
      | error e => simp only [bind, Except.bind, hsecond] at h; cases h
      | ok second =>
          simp only [bind, Except.bind, hsecond] at h
          obtain rfl := Except.ok.inj h
          obtain ⟨hlines, hleft⟩ := pass_lines hfirst
          obtain ⟨hlines', hleft'⟩ := pass_lines hsecond
          have hremainder : startLines (remainder second) = [] := by
            unfold remainder
            split <;> rfl
          rw [startLines_append, startLines_append, hremainder, List.append_nil]
          exact (hlines.append hlines').mono (by omega)

end PageLandmarks.Markup
