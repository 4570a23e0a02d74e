import Mathlib.Tactic.IntervalCases
import PageLandmarks.Text.Utf8

/-!
# PageLandmarks.Proofs.Text.Utf8

**A text in a file is read back.** The octets of a text in UTF-8 are decoded to its
characters (`decode_octets`), one character at a time: its lead octet says how many octets
are to come and in what range the next one lies, and each further octet brings six bits.

What a file holds is therefore the text that was put in it, except that its line ends are
line feeds (`readText_octets`).
-/

namespace PageLandmarks.Text.Utf8

/-! ### Octets of a text -/

/-- The octets of a text are those of its characters. -/
theorem octets_eq (s : String) : octets s = s.toList.flatMap String.utf8EncodeChar := by
  have hencoded : s.toUTF8 = (s.toList.flatMap String.utf8EncodeChar).toByteArray := by
    conv_lhs => rw [String.toUTF8_eq_toByteArray, ← String.ofList_toList (s := s)]
    rfl
  rw [octets, hencoded, List.toList_data_toByteArray]

/-! ### Single octets -/

section Octets

variable {pos k : Nat} {bs : List UInt8}

theorem leadOctet_one (h : k < 0x80) : leadOctet pos (.ofNat k) = some (.inl (Char.ofNat k)) := by
  interval_cases k <;> rfl

theorem leadOctet_two (h : 2 ≤ k) (h' : k < 0x20) :
    leadOctet pos (.ofNat (k + 0xC0)) =
      some (.inr ⟨.ofNat (k + 0xC0), pos, k, 0, 0x80, 0xBF⟩) := by
  interval_cases k <;> rfl

theorem leadOctet_three (h : k < 0x10) :
    leadOctet pos (.ofNat (k + 0xE0)) =
      some (.inr ⟨.ofNat (k + 0xE0), pos, k, 1, if k = 0 then 0xA0 else 0x80,
        if k = 0xD then 0x9F else 0xBF⟩) := by
  interval_cases k <;> rfl

theorem leadOctet_four (h : k < 5) :
    leadOctet pos (.ofNat (k + 0xF0)) =
      some (.inr ⟨.ofNat (k + 0xF0), pos, k, 2, if k = 0 then 0x90 else 0x80,
        if k = 4 then 0x8F else 0xBF⟩) := by
  interval_cases k <;> rfl

theorem toNat_continuation (h : k < 0x40) : (UInt8.ofNat (k + 0x80)).toNat = k + 0x80 := by
  rw [UInt8.toNat_ofNat']
  omega

section Continuation

variable {lead low high : UInt8} {start bits n : Nat} (h : k < 0x40)
  (hlow : low.toNat ≤ k + 0x80) (hhigh : k + 0x80 ≤ high.toNat)

include h hlow hhigh

theorem continuation_inRange :
    low ≤ UInt8.ofNat (k + 0x80) ∧ UInt8.ofNat (k + 0x80) ≤ high := by
  rw [UInt8.le_iff_toNat_le, UInt8.le_iff_toNat_le, toNat_continuation h]
  exact ⟨hlow, hhigh⟩

/-- The last octet of a sequence, in the range that the sequence asks for, brings six bits
and ends it. -/
theorem decodeFrom_last :
    decodeFrom pos (some ⟨lead, start, bits, 0, low, high⟩) (.ofNat (k + 0x80) :: bs) =
      (decodeFrom (pos + 1) none bs).map (Char.ofNat (bits * 0x40 + k) :: ·) := by
  have hbits : (k + 0x80) % 0x40 = k := by omega
  simp only [decodeFrom, if_pos (continuation_inRange h hlow hhigh), toNat_continuation h, hbits]

/-- Any other octet after the lead brings six bits, and the next one is in the full
range. -/
theorem decodeFrom_further :
    decodeFrom pos (some ⟨lead, start, bits, n + 1, low, high⟩) (.ofNat (k + 0x80) :: bs) =
      decodeFrom (pos + 1) (some ⟨lead, start, bits * 0x40 + k, n, 0x80, 0xBF⟩) bs := by
  have hbits : (k + 0x80) % 0x40 = k := by omega
  simp only [decodeFrom, if_pos (continuation_inRange h hlow hhigh), toNat_continuation h, hbits]

end Continuation

end Octets

/-! ### Characters -/

section Characters

variable {n pos : Nat} {bs : List UInt8}

theorem decodeFrom_two (h : 0x80 ≤ n) (h' : n < 0x800) :
    decodeFrom pos none (.ofNat (n / 64 % 32 + 192) :: .ofNat (n % 64 + 128) :: bs) =
      (decodeFrom (pos + 2) none bs).map (Char.ofNat n :: ·) := by
  have hbits : n / 64 % 32 * 64 + n % 64 = n := by omega
  rw [decodeFrom, leadOctet_two (by omega) (by omega)]
  dsimp only
  rw [decodeFrom_last (by omega) (by simp) (by simp; omega), hbits]

theorem decodeFrom_three (h : 0x800 ≤ n) (h' : n < 0x10000) (hpair : n < 0xD800 ∨ 0xE000 ≤ n) :
    decodeFrom pos none (.ofNat (n / 4096 % 16 + 224) :: .ofNat (n / 64 % 64 + 128) ::
        .ofNat (n % 64 + 128) :: bs) =
      (decodeFrom (pos + 3) none bs).map (Char.ofNat n :: ·) := by
  have hbits : (n / 4096 % 16 * 64 + n / 64 % 64) * 64 + n % 64 = n := by omega
  rw [decodeFrom, leadOctet_three (by omega)]
  dsimp only
  rw [decodeFrom_further (by omega) ?low ?high]
  case low =>
    -- an overlong form would have a smaller second octet
    split
    · show 0xA0 ≤ n / 64 % 64 + 0x80
      omega
    · show 0x80 ≤ n / 64 % 64 + 0x80
      omega
  case high =>
    -- half of a pair would have a greater one
    split
    · show n / 64 % 64 + 0x80 ≤ 0x9F
      omega
    · show n / 64 % 64 + 0x80 ≤ 0xBF
      omega
  rw [decodeFrom_last (by omega) (by simp) (by simp; omega), hbits]

theorem decodeFrom_four (h : 0x10000 ≤ n) (h' : n < 0x110000) :
    decodeFrom pos none (.ofNat (n / 262144 % 8 + 240) :: .ofNat (n / 4096 % 64 + 128) ::
        .ofNat (n / 64 % 64 + 128) :: .ofNat (n % 64 + 128) :: bs) =
      (decodeFrom (pos + 4) none bs).map (Char.ofNat n :: ·) := by
  have hbits : ((n / 262144 % 8 * 64 + n / 4096 % 64) * 64 + n / 64 % 64) * 64 + n % 64 = n := by
    omega
  rw [decodeFrom, leadOctet_four (by omega)]
  dsimp only
  rw [decodeFrom_further (by omega) ?low ?high]
  case low =>
    split
    · show 0x90 ≤ n / 4096 % 64 + 0x80
      omega
    · show 0x80 ≤ n / 4096 % 64 + 0x80
      omega
  case high =>
    -- a greater second octet would lead beyond the last character
    split
    · show n / 4096 % 64 + 0x80 ≤ 0x8F
      omega
    · show n / 4096 % 64 + 0x80 ≤ 0xBF
      omega
  rw [decodeFrom_further (by omega) (by simp) (by simp; omega),
    decodeFrom_last (by omega) (by simp) (by simp; omega), hbits]

end Characters

/-- The octets of a character are decoded to it. -/
theorem decodeFrom_utf8EncodeChar (c : Char) (pos : Nat) (bs : List UInt8) :
    decodeFrom pos none (String.utf8EncodeChar c ++ bs) =
      (decodeFrom (pos + (String.utf8EncodeChar c).length) none bs).map (c :: ·) := by
  have hchar : Char.ofNat c.val.toNat = c := Char.ofNat_toNat c
  have hvalid : c.val.toNat.isValidChar := c.valid
  unfold Nat.isValidChar at hvalid
  rw [String.utf8EncodeChar.eq_1]
  split
  · rw [List.singleton_append, decodeFrom, leadOctet_one (by omega), hchar]
    rfl
  split
  · rw [List.cons_append, List.singleton_append, decodeFrom_two (by omega) (by omega), hchar]
    rfl
  split
  · rw [List.cons_append, List.cons_append, List.singleton_append,
      decodeFrom_three (by omega) (by omega) (by omega), hchar]
    rfl
  · rw [List.cons_append, List.cons_append, List.cons_append, List.singleton_append,
      decodeFrom_four (by omega) (by omega), hchar]
    rfl

theorem decodeFrom_encoded (cs : List Char) (pos : Nat) :
    decodeFrom pos none (cs.flatMap String.utf8EncodeChar) = .ok cs := by
  induction cs generalizing pos with
  | nil => rfl
  | cons c cs ih =>
      rw [List.flatMap_cons, decodeFrom_utf8EncodeChar, ih]
      rfl

/-- The octets of a text are decoded to its characters. -/
theorem decode_octets (s : String) : decode (octets s) = .ok s.toList := by
  rw [decode, octets_eq, decodeFrom_encoded]

/-! ### Files -/

/-- A text with a line feed for every line end. -/
def unified (s : String) : String := .ofList (unifyNewlines s.toList)

/-- A file with the octets of a text holds the text, with unified line ends. -/
theorem readText_octets (s : String) : readText (octets s) = .ok (unified s) := by
  rw [readText, decode_octets]
  rfl

theorem unifyNewlines_of_not_mem {cs : List Char} (h : '\r' ∉ cs) : unifyNewlines cs = cs := by
  fun_induction unifyNewlines cs with
  | case1 => rfl
  | case2 cs ih => exact absurd List.mem_cons_self h
  | case3 c cs hpair ih =>
      rw [List.mem_cons, not_or] at h
      rw [ih h.2, if_neg (Ne.symm h.1)]

/-- A text without carriage returns has unified line ends. -/
theorem unified_of_not_mem {s : String} (h : '\r' ∉ s.toList) : unified s = s := by
  rw [unified, unifyNewlines_of_not_mem h, String.ofList_toList]

theorem unified_ne_empty {s : String} (h : s ≠ "") : unified s ≠ "" := by
  intro hempty
  have hnil : unifyNewlines s.toList = [] := by
    rw [← String.toList_ofList (l := unifyNewlines s.toList)]
    exact String.toList_eq_nil_iff.mpr hempty
  have hchars : s.toList ≠ [] := fun hs => h (String.toList_eq_nil_iff.mp hs)
  unfold unifyNewlines at hnil
  split at hnil
  · contradiction
  · cases hnil
  · cases hnil

end PageLandmarks.Text.Utf8
