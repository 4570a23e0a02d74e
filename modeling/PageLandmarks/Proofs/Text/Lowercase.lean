import Mathlib.Data.List.Forall2
import PageLandmarks.Proofs.Text.Words
import PageLandmarks.Text.Lowercase

/-!
# PageLandmarks.Proofs.Text.Lowercase

**Lower-casing and the words of a text.** Lower-casing puts a form of its own in the place of
each character. One form is longer than its character, and one depends on what stands around
it. What the words need of the forms is little (`IsForm`), and the table gives it
(`caseRanges_regular`): a blank is left alone, and no other form is empty or has a blank in it.
So the words of the lower-case form are the forms of the words (`Lowered.words`).

Of the characters beyond ASCII, only the Kelvin sign has a form that is ASCII throughout: it
becomes `k`. A word of other ASCII characters is therefore reached from its own spellings and
from nothing else (`mem_words_lower_iff`).
-/

namespace PageLandmarks.Text

/-! ### The table -/

/-- What a row of the table keeps to. -/
structure CaseRange.Regular (r : CaseRange) : Prop where
  /-- It covers no blank. -/
  covers_no_blank : ∀ b ∈ blankRanges, r.last < b.1 ∨ b.2 < r.first
  /-- None of its lower-case forms is a blank. -/
  forms_no_blank : ∀ b ∈ blankRanges, r.last + r.shift < b.1 ∨ b.2 < r.first + r.shift
  /-- They lie beyond ASCII, save that of the Kelvin sign. -/
  beyond_ascii : 0x80 ≤ r.first + r.shift ∨
    r.first = 0x212A ∧ r.last = 0x212A ∧ r.first + r.shift = 'k'.toNat
  /-- They are characters. -/
  are_chars : r.last + r.shift < 0xD800 ∨
    0xDFFF < r.first + r.shift ∧ r.last + r.shift < 0x110000

instance (r : CaseRange) : Decidable r.Regular :=
  decidable_of_iff (_ ∧ _ ∧ _ ∧ _)
    ⟨fun h => ⟨h.1, h.2.1, h.2.2.1, h.2.2.2⟩, fun h => ⟨h.1, h.2, h.3, h.4⟩⟩

theorem caseRanges_regular : ∀ r ∈ caseRanges, r.Regular := by decide +kernel

/-- Above the space, the blanks are those of the ranges. -/
theorem isBlank_iff_of_lt {c : Char} (hc : 0x20 < c.toNat) :
    isBlank c = true ↔ ∃ b ∈ blankRanges, b.1 ≤ c.toNat ∧ c.toNat ≤ b.2 := by
  simp [isBlank, Nat.not_le.mpr hc]

theorem CaseRange.bounds_of_covers {r : CaseRange} {n : Nat} (h : r.covers n = true) :
    r.first ≤ n ∧ n ≤ r.last := by
  simp only [covers, Bool.and_eq_true, decide_eq_true_eq] at h
  exact h.1

namespace CaseRange.Regular

variable {r : CaseRange} {n : Nat}

theorem toNat_form (h : r.Regular) (hn : r.covers n = true) :
    ((Char.ofNat (n + r.shift).toNat).toNat : Int) = n + r.shift := by
  have hbounds := bounds_of_covers hn
  have hchars := h.are_chars
  have hbeyond := h.beyond_ascii
  have hvalid : (n + r.shift).toNat.isValidChar := by
    unfold Nat.isValidChar
    omega
  rw [Char.ofNat, dif_pos hvalid]
  show ((n + r.shift).toNat : Int) = n + r.shift
  omega

theorem form_beyond (h : r.Regular) (hn : r.covers n = true) :
    0x80 ≤ (Char.ofNat (n + r.shift).toNat).toNat ∨ Char.ofNat (n + r.shift).toNat = 'k' := by
  have hform := h.toNat_form hn
  have hbounds := bounds_of_covers hn
  rcases h.beyond_ascii with hbeyond | ⟨hfirst, hlast, hk⟩
  · left
    omega
  · right
    apply Char.toNat_inj.mp
    omega

theorem form_not_blank (h : r.Regular) (hn : r.covers n = true) :
    isBlank (Char.ofNat (n + r.shift).toNat) = false := by
  have hform := h.toNat_form hn
  have habove : 0x20 < (Char.ofNat (n + r.shift).toNat).toNat := by
    rcases h.form_beyond hn with hbeyond | hk
    · omega
    · rw [hk]
      decide
  have hbounds := bounds_of_covers hn
  rw [Bool.eq_false_iff, ne_eq, isBlank_iff_of_lt habove]
  rintro ⟨b, hb, hlow, hhigh⟩
  have hblank := h.forms_no_blank b hb
  omega

theorem not_blank (h : r.Regular) {c : Char} (hc : 0x20 < c.toNat)
    (hn : r.covers c.toNat = true) : isBlank c = false := by
  have hbounds := bounds_of_covers hn
  rw [Bool.eq_false_iff, ne_eq, isBlank_iff_of_lt hc]
  rintro ⟨b, hb, hlow, hhigh⟩
  have hblank := h.covers_no_blank b hb
  omega

end CaseRange.Regular

/-! ### Forms of one character -/

/-- What can stand for a character in lower case. -/
structure IsForm (c : Char) (form : List Char) : Prop where
  /-- There is something in it. -/
  ne_nil : form ≠ []
  /-- A blank is left alone. -/
  of_blank : isBlank c = true → form = [c]
  /-- What is no blank becomes none. -/
  of_not_blank : isBlank c = false → ∀ d ∈ form, isBlank d = false
  /-- In ASCII, a capital becomes its small letter, and nothing else changes. -/
  of_ascii : c.toNat < 0x80 → form = [c.toLower]
  /-- What lies beyond ASCII leaves something beyond it, or a `k`. -/
  of_beyond : 0x80 ≤ c.toNat → ∃ d ∈ form, 0x80 ≤ d.toNat ∨ d = 'k'

/-- In ASCII, lower-casing makes no blank and leaves every blank alone. -/
theorem toLower_ascii : ∀ n < 0x80, isBlank (Char.ofNat n).toLower = isBlank (Char.ofNat n) ∧
    (isBlank (Char.ofNat n) = true → (Char.ofNat n).toLower = Char.ofNat n) := by
  decide

theorem toLower_of_le {c : Char} (hc : 0x80 ≤ c.toNat) : c.toLower = c := by
  have hnot : ¬ (c.val ≥ 'A'.val ∧ c.val ≤ 'Z'.val) := by
    rintro ⟨-, hle⟩
    have hnat : c.toNat ≤ 0x5A := UInt32.le_iff_toNat_le.mp hle
    omega
  exact dif_neg hnot

theorem isForm_toLower {c : Char} (hc : c.toNat < 0x80) : IsForm c [c.toLower] := by
  obtain ⟨hblank, hsame⟩ := toLower_ascii c.toNat hc
  rw [Char.ofNat_toNat] at hblank hsame
  refine ⟨by simp, fun h => by rw [hsame h], fun h => by simpa [hblank] using h, fun _ => rfl, ?_⟩
  intro hbeyond
  omega

/-- Of a character beyond ASCII that is no blank, little is asked. -/
theorem isForm_of_beyond {c : Char} {form : List Char} (hc : 0x80 ≤ c.toNat)
    (hblank : isBlank c = false) (hfree : ∀ d ∈ form, isBlank d = false)
    (hbeyond : ∃ d ∈ form, 0x80 ≤ d.toNat ∨ d = 'k') : IsForm c form := by
  have hne : form ≠ [] := by
    obtain ⟨d, hd, -⟩ := hbeyond
    exact List.ne_nil_of_mem hd
  refine ⟨hne, ?_, fun _ => hfree, ?_, fun _ => hbeyond⟩
  · intro h
    rw [hblank] at h
    cases h
  · intro h
    omega

theorem isForm_single {c d : Char} (hc : 0x80 ≤ c.toNat) (hblank : isBlank c = false)
    (hfree : isBlank d = false) (hbeyond : 0x80 ≤ d.toNat ∨ d = 'k') : IsForm c [d] :=
  isForm_of_beyond hc hblank (by simpa using hfree) (by simpa using hbeyond)

theorem isForm_lowerSigma (before after : List Char) : IsForm 'Σ' [lowerSigma before after] := by
  unfold lowerSigma
  split <;> exact isForm_single (by decide) (by decide) (by decide) (Or.inl (by decide))

theorem isForm_dottedI : IsForm 'İ' ['i', '\u0307'] :=
  isForm_of_beyond (by decide) (by decide)
    (List.forall_mem_cons.mpr ⟨by decide, List.forall_mem_singleton.mpr (by decide)⟩)
    ⟨'\u0307', by simp, Or.inl (by decide)⟩

theorem isForm_lowerChar (c : Char) : IsForm c (lowerChar c) := by
  by_cases hascii : c.toNat < 0x80
  · simpa [lowerChar, hascii] using isForm_toLower hascii
  · by_cases hdotted : c = 'İ'
    · subst hdotted
      exact isForm_dottedI
    · have hbeyond : 0x80 ≤ c.toNat := Nat.not_lt.mp hascii
      cases hrow : caseRanges.find? (·.covers c.toNat) with
      | none =>
          have hform : lowerChar c = [c] := by simp [lowerChar, hascii, hdotted, hrow]
          rw [hform]
          exact ⟨by simp, by simp, by simp, by simp [hascii], by simpa using Or.inl⟩
      | some r =>
          have hform : lowerChar c = [Char.ofNat (c.toNat + r.shift).toNat] := by
            simp [lowerChar, hascii, hdotted, hrow]
          have hregular : r.Regular := caseRanges_regular r (List.mem_of_find?_eq_some hrow)
          have hcovers : r.covers c.toNat = true := by simpa using List.find?_some hrow
          rw [hform]
          exact isForm_single hbeyond (hregular.not_blank (by omega) hcovers)
            (hregular.form_not_blank hcovers) (hregular.form_beyond hcovers)

/-! ### Forms of a text -/

/-- `ys` has a lower-case form for each character of `xs`, in order. -/
inductive Lowered : List Char → List Char → Prop
  /-- There are no characters. -/
  | nil : Lowered [] []
  /-- The first character has its form in front. -/
  | cons {c : Char} {form xs ys : List Char} (hform : IsForm c form) (hrest : Lowered xs ys) :
      Lowered (c :: xs) (form ++ ys)

theorem lowered_lowerAfter (before cs : List Char) : Lowered cs (lowerAfter before cs) := by
  induction cs generalizing before with
  | nil => exact .nil
  | cons c cs ih =>
      rw [lowerAfter]
      refine .cons ?_ (ih (c :: before))
      by_cases hsigma : c = 'Σ'
      · rw [if_pos hsigma, hsigma]
        exact isForm_lowerSigma before cs
      · rw [if_neg hsigma]
        exact isForm_lowerChar c

/-- The lower-case form of a text has a form for each of its characters. -/
theorem lowered_lower (cs : List Char) : Lowered cs (lower cs) := lowered_lowerAfter [] cs

/-- The text is in ASCII and has no `k`, so that no character from beyond ASCII becomes a part
of it in lower case. -/
def OnlyAscii (t : List Char) : Prop := ∀ c ∈ t, c.toNat < 0x80 ∧ c ≠ 'k'

namespace Lowered

variable {xs ys : List Char}

theorem append (h : Lowered xs ys) {xs' ys' : List Char} (h' : Lowered xs' ys') :
    Lowered (xs ++ xs') (ys ++ ys') := by
  induction h with
  | nil => exact h'
  | cons hform _ ih =>
      rw [List.append_assoc]
      exact .cons hform ih

theorem eq_nil_iff (h : Lowered xs ys) : xs = [] ↔ ys = [] := by
  cases h with
  | nil => simp
  | cons hform _ => simp [hform.ne_nil]

theorem single {c : Char} {form : List Char} (h : IsForm c form) : Lowered [c] form := by
  simpa using Lowered.cons h .nil

/-- The words collected from a text and from its form match, if the runs already begun do. -/
theorem wordsFrom (h : Lowered xs ys) {word word' : List Char}
    (hword : Lowered word.reverse word'.reverse) :
    List.Forall₂ Lowered (Text.wordsFrom word xs) (Text.wordsFrom word' ys) := by
  induction h generalizing word word' with
  | nil =>
      have hnil : word = [] ↔ word' = [] := by simpa using hword.eq_nil_iff
      by_cases hne : word = []
      · simp [Text.wordsFrom, hne, hnil.mp hne]
      · simpa [Text.wordsFrom, hne, mt hnil.mpr hne] using hword
  | @cons c form xs ys hform hrest ih =>
      by_cases hc : isBlank c = true
      · -- the blank ends both runs, which are empty together
        have hnil : word = [] ↔ word' = [] := by simpa using hword.eq_nil_iff
        have hwords := ih (show Lowered ([] : List Char).reverse ([] : List Char).reverse from .nil)
        rw [hform.of_blank hc]
        by_cases hne : word = []
        · simpa [Text.wordsFrom, hc, hne, hnil.mp hne] using hwords
        · simpa [Text.wordsFrom, hc, hne, mt hnil.mpr hne] using ⟨hword, hwords⟩
      · -- the character joins one run and its form the other
        have hfree : ∀ d ∈ form, isBlank d = false := hform.of_not_blank (by simpa using hc)
        have hword' : Lowered (c :: word).reverse (form.reverse ++ word').reverse := by
          simpa using hword.append (single hform)
        rw [wordsFrom_append_of_blankFree hfree]
        simpa [Text.wordsFrom, hc] using ih hword'

/-- **The words of the lower-case form are the forms of the words.** -/
theorem words (h : Lowered xs ys) : List.Forall₂ Lowered (Text.words xs) (Text.words ys) :=
  h.wordsFrom .nil

/-- Such a text is the form of nothing but its own spellings. -/
theorem eq_iff_map_toLower {t : List Char} (h : Lowered xs ys) (ht : OnlyAscii t) :
    ys = t ↔ xs.map Char.toLower = t := by
  induction h generalizing t with
  | nil => simp
  | @cons c form xs ys hform hrest ih =>
      by_cases hascii : c.toNat < 0x80
      · rw [hform.of_ascii hascii]
        cases t with
        | nil => simp
        | cons d t =>
            have ht' : OnlyAscii t := fun x hx => ht x (List.mem_cons_of_mem d hx)
            simp [ih ht']
      · -- neither text has room for what is beyond ASCII
        obtain ⟨d, hd, hbeyond⟩ := hform.of_beyond (by omega)
        constructor
        · intro heq
          have hmem := ht d (heq ▸ List.mem_append_left ys hd)
          rcases hbeyond with hbeyond | hk
          · omega
          · exact absurd hk hmem.2
        · intro heq
          have hmem := ht c.toLower (heq ▸ List.mem_cons_self)
          rw [toLower_of_le (by omega)] at hmem
          omega

/-- Among the forms of several texts, it stands for its own spellings. -/
theorem mem_forms_iff {t : List Char} (ht : OnlyAscii t) {runs forms : List (List Char)}
    (h : List.Forall₂ Lowered runs forms) : t ∈ forms ↔ ∃ run ∈ runs, run.map Char.toLower = t := by
  induction h with
  | nil => simp
  | cons hform _ ih =>
      rw [List.mem_cons, ih, eq_comm, hform.eq_iff_map_toLower ht]
      simp

end Lowered

/-- **A word in ASCII without a `k` is in the lower-case form of a text only where the text
spells it**, in capitals or small letters. -/
theorem mem_words_lower_iff {t : List Char} (ht : OnlyAscii t) (cs : List Char) :
    t ∈ words (lower cs) ↔ ∃ run, IsRun run cs ∧ run.map Char.toLower = t := by
  rw [Lowered.mem_forms_iff ht (lowered_lower cs).words]
  simp only [mem_words_iff]

end PageLandmarks.Text
