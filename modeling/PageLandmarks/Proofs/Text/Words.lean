import PageLandmarks.Text.Blank

/-!
# PageLandmarks.Proofs.Text.Words

**The words of a text are its maximal blank-free runs.** `words` goes through the text once
and holds the run that it is in. Here a run is told by its place alone (`IsRun`): it has no
blank in it, and a blank or an end of the text on either side.

A blank cuts a text in two, and the words of the two parts are listed one after the other
(`words_append_blank`). So texts that are joined by blanks keep their words apart.
-/

namespace PageLandmarks.Text

/-- `run` is a maximal blank-free run of the text `cs`. -/
structure IsRun (run cs : List Char) : Prop where
  /-- There is something in it. -/
  ne_nil : run ≠ []
  /-- There is no blank in it. -/
  blankFree : ∀ c ∈ run, isBlank c = false
  /-- It stands in the text, and what is next to it on either side is blank. -/
  placed : ∃ before after, cs = before ++ run ++ after ∧
    (∀ c ∈ before.getLast?, isBlank c = true) ∧ ∀ c ∈ after.head?, isBlank c = true

/-! ### How words are collected -/

/-- What has no blank in it joins the run already begun. -/
theorem wordsFrom_append_of_blankFree {run : List Char} (h : ∀ c ∈ run, isBlank c = false)
    (word rest : List Char) :
    wordsFrom word (run ++ rest) = wordsFrom (run.reverse ++ word) rest := by
  induction run generalizing word with
  | nil => rfl
  | cons c run ih =>
      have hc : isBlank c = false := h c List.mem_cons_self
      have hrun : ∀ d ∈ run, isBlank d = false := fun d hd => h d (List.mem_cons_of_mem c hd)
      simp [wordsFrom, hc, ih hrun]

/-- A blank ends the run already begun. -/
theorem wordsFrom_append_blank {b : Char} (hb : isBlank b = true) (word xs ys : List Char) :
    wordsFrom word (xs ++ b :: ys) = wordsFrom word xs ++ words ys := by
  induction xs generalizing word with
  | nil => cases word <;> simp [wordsFrom, words, hb]
  | cons x xs ih =>
      by_cases hx : isBlank x = true
      · cases word <;> simp [wordsFrom, hx, ih]
      · simp [wordsFrom, hx, ih]

/-- **A blank cuts the words in two.** -/
theorem words_append_blank {b : Char} (hb : isBlank b = true) (xs ys : List Char) :
    words (xs ++ b :: ys) = words xs ++ words ys :=
  wordsFrom_append_blank hb [] xs ys

theorem words_of_blankFree {run : List Char} (hne : run ≠ [])
    (h : ∀ c ∈ run, isBlank c = false) : words run = [run] := by
  have hwords := wordsFrom_append_of_blankFree h [] []
  simpa [words, wordsFrom, hne] using hwords

/-- The words of texts joined by spaces are the words of each. -/
theorem words_intercalate (texts : List (List Char)) :
    words ([' '].intercalate texts) = texts.flatMap words := by
  induction texts with
  | nil => rfl
  | cons t ts ih =>
      cases ts with
      | nil => simp
      | cons u us =>
          rw [List.intercalate_cons_cons, List.append_assoc, List.singleton_append,
            words_append_blank (by decide), ih]
          rfl

/-! ### Words as runs -/

/-- A run of what comes after a blank is a run of the whole. -/
theorem IsRun.after_blank {run cs : List Char} (h : IsRun run cs) {b : Char}
    (hb : isBlank b = true) (front : List Char) : IsRun run (front ++ b :: cs) := by
  obtain ⟨before, after, rfl, hbefore, hafter⟩ := h.placed
  refine ⟨h.ne_nil, h.blankFree, front ++ b :: before, after, by simp, ?_, hafter⟩
  intro c hc
  -- next to the run stands the end of `before`, or the blank if there is nothing between them
  cases hlast : before.getLast? with
  | none =>
      simp only [List.getLast?_append, List.getLast?_cons, hlast] at hc
      cases hc
      exact hb
  | some d =>
      simp only [List.getLast?_append, List.getLast?_cons, hlast] at hc
      cases hc
      exact hbefore d hlast

/-- What has no blank in it is a run where a text begins with it, up to a blank or the end. -/
theorem isRun_append {run rest : List Char} (hne : run ≠ [])
    (hrun : ∀ c ∈ run, isBlank c = false) (hrest : ∀ c ∈ rest.head?, isBlank c = true) :
    IsRun run (run ++ rest) :=
  ⟨hne, hrun, [], rest, by simp, by simp, hrest⟩

/-- Every word collected after a run already begun is a run of the two together. -/
theorem isRun_of_mem_wordsFrom {word cs run : List Char} (hword : ∀ c ∈ word, isBlank c = false)
    (h : run ∈ wordsFrom word cs) : IsRun run (word.reverse ++ cs) := by
  induction cs generalizing word with
  | nil =>
      by_cases hne : word = []
      · simp [wordsFrom, hne] at h
      · have hrun : run = word.reverse := by simpa [wordsFrom, hne] using h
        rw [hrun]
        exact isRun_append (by simpa using hne) (by simpa using hword) (by simp)
  | cons c cs ih =>
      by_cases hc : isBlank c = true
      · by_cases hne : word = []
        · have hrun : run ∈ wordsFrom [] cs := by simpa [wordsFrom, hc, hne] using h
          exact (ih (by simp) hrun).after_blank hc word.reverse
        · have hcases : run = word.reverse ∨ run ∈ wordsFrom [] cs := by
            simpa [wordsFrom, hc, hne] using h
          rcases hcases with hrun | hrun
          · rw [hrun]
            exact isRun_append (by simpa using hne) (by simpa using hword) (by simpa using hc)
          · exact (ih (by simp) hrun).after_blank hc word.reverse
      · have hword' : ∀ d ∈ c :: word, isBlank d = false := by simpa [hc] using hword
        have hrun : run ∈ wordsFrom (c :: word) cs := by simpa [wordsFrom, hc] using h
        simpa using ih hword' hrun

/-- **The words are the maximal blank-free runs.** -/
theorem mem_words_iff {run cs : List Char} : run ∈ words cs ↔ IsRun run cs := by
  constructor
  · intro h
    have hnone : ∀ c ∈ ([] : List Char), isBlank c = false := by simp
    exact isRun_of_mem_wordsFrom hnone h
  · intro h
    obtain ⟨before, after, rfl, hbefore, hafter⟩ := h.placed
    have hrun : words run = [run] := words_of_blankFree h.ne_nil h.blankFree
    -- the blank after the run, if there is one, cuts off what follows
    have hright : run ∈ words (run ++ after) := by
      cases after with
      | nil => simp [hrun]
      | cons b after => simp [words_append_blank (hafter b rfl), hrun]
    -- and the blank before it cuts off what precedes
    cases hlast : before.getLast? with
    | none => simpa [List.getLast?_eq_none_iff.mp hlast] using hright
    | some b =>
        obtain ⟨front, rfl⟩ := List.getLast?_eq_some_iff.mp hlast
        rw [List.append_assoc, List.append_assoc, List.singleton_append,
          words_append_blank (hbefore b hlast)]
        exact List.mem_append_right _ hright

end PageLandmarks.Text
