import Mathlib.Tactic.SplitIfs
import PageLandmarks.Json.Parser
import PageLandmarks.Json.Printer

/-!
# PageLandmarks.Proofs.Json.RoundTrip

**A text is read back from the JSON that it is written in.** A character of a string is
written as itself or as an escape, and either way it is read as its code point, as long as
the string goes on behind it (`stringBody_stringChar`). So a string is read back to its closing
quote (`stringFrom_written`), and an object whose one field is a text is read back from its one
line (`parse_textField`).
-/

namespace PageLandmarks

/-! ### Code points of a text -/

theorem isValidChar_toNat (c : Char) : c.toNat.isValidChar := c.valid

theorem JsonString.ofPoints_map_toNat (cs : List Char) :
    ofPoints (cs.map Char.toNat) = .text (.ofList cs) := by
  have hvalid : (cs.map Char.toNat).all (fun n => n.isValidChar) = true := by
    simp [isValidChar_toNat]
  rw [ofPoints, if_pos hvalid, List.map_map]
  simp [Function.comp_def]

namespace Json

theorem ofPoints_map_toNat (cs : List Char) : ofPoints (cs.map Char.toNat) = .ofList cs := by
  rw [ofPoints, List.flatMap_map]
  simp [isValidChar_toNat]

/-! ### Strings -/

/-- The characters of a string behind its opening quote. -/
def written (cs : List Char) : List Char := cs.flatMap (stringChar false)

theorem stringLine_text (s : String) :
    stringLine false s = ('"' :: written s.toList ++ ['"']).map Char.toNat := by
  have hpoint : ∀ c : Char, stringPoint false c.toNat = (stringChar false c).map Char.toNat := by
    intro c
    rw [stringPoint, if_pos (isValidChar_toNat c), Char.ofNat_toNat]
  simp [stringLine, JsonString.points, written, pointsOf, List.flatMap_map, List.map_flatMap,
    hpoint]

/-- The four digits of a control character are read back. -/
theorem hexQuad_control {n : Nat} (h : n < 0x20) {rest : List Char} (hrest : rest ≠ []) :
    hexQuad (Text.hex 4 n ++ rest) = .ok (n, rest) := by
  have hdigits : ∀ n < 0x20, (Text.hex 4 n).length = 4 ∧ Text.ofHex? (Text.hex 4 n) = some n := by
    decide
  obtain ⟨hlength, hvalue⟩ := hdigits n h
  have hlong : ¬ (Text.hex 4 n ++ rest).length < 5 := by
    have hpos := List.length_pos_iff.mpr hrest
    rw [List.length_append, hlength]
    omega
  rw [hexQuad, List.take_left' hlength, hvalue]
  dsimp only
  rw [if_neg hlong, List.drop_left' hlength]

theorem unicodeEscape_control {n : Nat} (h : n < 0x20) {rest : List Char} (hrest : rest ≠ []) :
    unicodeEscape (Text.hex 4 n ++ rest) = .ok (n, rest) := by
  rw [unicodeEscape, hexQuad_control h hrest]
  simp only [bind, Except.bind]
  split
  · rw [if_neg (by omega)]
    rfl
  · rfl

/-- A written character is read as its code point, if the string goes on. -/
theorem stringBody_stringChar (opening fuel : Nat) (c : Char) {rest : List Char}
    (hrest : rest ≠ []) :
    stringBody opening (fuel + 1) (stringChar false c ++ rest) =
      (stringBody opening fuel rest).map fun r => (c.toNat :: r.1, r.2) := by
  have hescape : ∀ {cs : List Char} {n : Nat}, cs ≠ [] → escape cs = .ok (n, rest) →
      stringBody opening (fuel + 1) ('\\' :: cs) =
        (stringBody opening fuel rest).map fun r => (n :: r.1, r.2) := by
    intro cs n hcs hn
    rw [stringBody, hn]
    · simp only [bind, Except.bind]
      cases stringBody opening fuel rest <;> rfl
    · simpa using hcs
  unfold stringChar
  split_ifs with hquoted hn hr ht hf hb hcontrol
  · obtain rfl | rfl := hquoted <;> exact hescape (by simp) rfl
  · subst hn; exact hescape (by simp) rfl
  · subst hr; exact hescape (by simp) rfl
  · subst ht; exact hescape (by simp) rfl
  · subst hf; exact hescape (by simp) rfl
  · subst hb; exact hescape (by simp) rfl
  · have hlow : c.toNat < 0x20 := by simpa using hcontrol
    rw [unitEscapes, if_pos (by omega)]
    exact hescape (by simp) (unicodeEscape_control hlow hrest)
  · have hplain : ¬ c.toNat < 0x20 := by simpa using hcontrol
    obtain ⟨hquote, hslash⟩ := not_or.mp hquoted
    rw [List.singleton_append, stringBody, if_neg hplain]
    · simp only [bind, Except.bind]
      cases stringBody opening fuel rest <;> rfl
    all_goals simp_all

theorem stringBody_written (opening : Nat) {fuel : Nat} (cs rest : List Char)
    (h : cs.length < fuel) :
    stringBody opening fuel (written cs ++ '"' :: rest) = .ok (cs.map Char.toNat, rest) := by
  induction cs generalizing fuel with
  | nil =>
      obtain ⟨fuel, rfl⟩ := Nat.exists_eq_add_one.mpr h
      rfl
  | cons c cs ih =>
      obtain ⟨fuel, rfl⟩ := Nat.exists_eq_add_one.mpr (Nat.zero_lt_of_lt h)
      rw [written, List.flatMap_cons, List.append_assoc, ← written,
        stringBody_stringChar opening fuel c (by simp), ih (Nat.lt_of_succ_lt_succ h)]
      rfl

theorem length_le_length_written (cs : List Char) : cs.length ≤ (written cs).length := by
  have hsome : ∀ c, 1 ≤ (stringChar false c).length := by
    intro c
    have hescapes : 1 ≤ (unitEscapes c).length := by
      rw [unitEscapes]
      split_ifs <;> simp [unitEscape]
    unfold stringChar
    split_ifs <;> first | exact hescapes | simp
  induction cs with
  | nil => exact Nat.le_refl 0
  | cons c cs ih =>
      have hc := hsome c
      rw [written, List.flatMap_cons, List.length_append, List.length_cons, ← written]
      omega

/-- A written string is read back, and what follows its closing quote is left. -/
theorem stringFrom_written (cs rest : List Char) :
    stringFrom (written cs ++ '"' :: rest) = .ok (.text (.ofList cs), rest) := by
  have hfuel : cs.length < (written cs ++ '"' :: rest).length + 1 := by
    have hle := length_le_length_written cs
    rw [List.length_append]
    omega
  rw [stringFrom, stringBody_written _ cs rest hfuel]
  simp only [bind, Except.bind, JsonString.ofPoints_map_toNat]
  rfl

/-! ### An object with one text -/

/-- The characters behind the opening brace of an object whose one field is a text. -/
def textField (name value : List Char) : List Char :=
  '"' :: (written name ++ '"' :: ':' :: '"' :: (written value ++ '"' :: ['\x7d']))

theorem line_textField (name value : String) :
    line (.object [(name, .string value)]) =
      ('\x7b' :: textField name.toList value.toList).map Char.toNat := by
  simp [line, lineFields, stringLine_text, textField, pointsOf, List.intercalate]

theorem fields_textField (depth fuel : Nat) (name value : List Char) :
    fields depth (fuel + 2) [] (textField name value) =
      .ok ([(.text (.ofList name), .string (.text (.ofList value)))], []) := by
  have hvalue : Json.value depth (fuel + 1) ('"' :: (written value ++ '"' :: ['\x7d'])) =
      .ok (.string (.text (.ofList value)), ['\x7d']) := by
    rw [Json.value, stringFrom_written]
    rfl
  have hcolon : ∀ cs, skipSpace (':' :: cs) = ':' :: cs := fun _ => rfl
  have hquote : ∀ cs, skipSpace ('"' :: cs) = '"' :: cs := fun _ => rfl
  rw [textField, fields, stringFrom_written]
  simp only [bind, Except.bind]
  rw [hcolon]
  simp only [hquote, hvalue]
  rfl

theorem document_textField (name value : List Char) :
    document ('\x7b' :: textField name value) =
      .ok (.object [(.text (.ofList name), .string (.text (.ofList value)))]) := by
  obtain ⟨fuel, hfuel⟩ :
      ∃ fuel, 2 * ('\x7b' :: textField name value).length + 2 = fuel + 3 :=
    ⟨2 * (textField name value).length + 1, rfl⟩
  have hvalue : Json.value depthLimit (fuel + 3) ('\x7b' :: textField name value) =
      .ok (.object [(.text (.ofList name), .string (.text (.ofList value)))], []) := by
    rw [Json.value, if_neg (by decide)]
    show (fields (depthLimit - 1) (fuel + 2) [] (textField name value) >>= fun read =>
      pure (Json.object read.1, read.2)) = _
    rw [fields_textField]
    rfl
  have hbrace : ∀ cs, skipSpace ('\x7b' :: cs) = '\x7b' :: cs := fun _ => rfl
  rw [document, hfuel, hbrace, hvalue]
  rfl

theorem compact_textField (name value : String) :
    compact (.object [(name, .string value)]) =
      .ofList ('\x7b' :: textField name.toList value.toList) := by
  rw [compact, line_textField, ofPoints_map_toNat]

/-- **A text is read back** from the one line of an object that has it in a field. -/
theorem parse_textField (name value : String) :
    parse (compact (.object [(name, .string value)])) = .ok (.object [(name, .string value)]) := by
  rw [compact_textField, parse, String.toList_ofList, document_textField]
  simp [Except.mapError]

end Json

end PageLandmarks
