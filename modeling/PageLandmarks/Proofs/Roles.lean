import PageLandmarks.Landmark
import PageLandmarks.Proofs.Assoc
import PageLandmarks.Proofs.Text.Lowercase
import PageLandmarks.Tree.Document

/-!
# PageLandmarks.Proofs.Roles

**A landmark is marked by its tag or by a word of the role, exactly.** The role is lower-cased
as a whole and then cut into words, and a list of roles is joined before that. Neither makes a
word that was not there: the role counts exactly if it has a maximal blank-free run that is
the landmark's role, in capitals or small ASCII letters (`roleWords_contains_iff`), and a list
counts exactly if one of its items would (`isNamedIn_intercalate`).
-/

namespace PageLandmarks

/-- Two texts differ at most in the case of ASCII letters. -/
def Text.SameLetters (xs ys : List Char) : Prop := xs.map Char.toLower = ys.map Char.toLower

/-- One of the words of a role is the role of the landmark. -/
def Landmark.IsNamedIn (landmark : Landmark) (role : String) : Prop :=
  ∃ run, Text.IsRun run role.toList ∧ Text.SameLetters run landmark.role.toList

theorem Landmark.role_onlyAscii (landmark : Landmark) : Text.OnlyAscii landmark.role.toList := by
  have hall : landmark.role.toList.all (fun c => c.toNat < 0x80 && c != 'k') = true := by
    cases landmark <;> decide
  simpa [Text.OnlyAscii] using hall

theorem Landmark.role_small (landmark : Landmark) :
    landmark.role.toList.map Char.toLower = landmark.role.toList := by
  cases landmark <;> decide

/-- The words of a role in lower case have the landmark's role among them if the role names it. -/
theorem roleWords_contains_iff (value : AttrValue) (landmark : Landmark) :
    (roleWords value).contains landmark.role.toList = true ↔ landmark.IsNamedIn value.plain := by
  rw [List.contains_iff_mem, roleWords, Text.mem_words_lower_iff landmark.role_onlyAscii]
  simp only [Landmark.IsNamedIn, Text.SameLetters, landmark.role_small]

/-- Roles joined by spaces name a landmark if one of them does. -/
theorem isNamedIn_intercalate (landmark : Landmark) (items : List String) :
    landmark.IsNamedIn (" ".intercalate items) ↔ ∃ item ∈ items, landmark.IsNamedIn item := by
  have hspace : " ".toList = [' '] := rfl
  simp only [Landmark.IsNamedIn, ← Text.mem_words_iff, String.toList_intercalate, hspace,
    Text.words_intercalate, List.mem_flatMap, List.mem_map]
  constructor
  · rintro ⟨run, ⟨_, ⟨item, hitem, rfl⟩, hrun⟩, hsame⟩
    exact ⟨item, hitem, run, hrun, hsame⟩
  · rintro ⟨item, hitem, run, hrun, hsame⟩
    exact ⟨run, ⟨_, ⟨item, hitem, rfl⟩, hrun⟩, hsame⟩

namespace Tag

theorem marks_of_no_role {tag : Tag} (h : tag.attr? "role" = none) (landmark : Landmark) :
    tag.marks landmark = true ↔ tag.name = landmark.tagName := by
  simp [marks, h]

theorem marks_of_role {tag : Tag} {value : AttrValue} (h : tag.attr? "role" = some value)
    (landmark : Landmark) : tag.marks landmark = true ↔
      tag.name = landmark.tagName ∨ landmark.IsNamedIn value.plain := by
  rw [← roleWords_contains_iff]
  simp [marks, h]

end Tag

namespace Element

theorem setAttr_attr? (e : Element) (name : String) (value : AttrValue) :
    (e.setAttr name value).tag.attr? name = some value := by
  simp [setAttr, Tag.attr?, Assoc.lookup_put]

/-- **An element is marked by its tag, or by a word of its role that is the landmark's role**, in
capitals or small letters. With a list of roles it is marked exactly if it would be with one
of them alone. -/
theorem marks_by_word_of_role (e : Element) (landmark : Landmark) :
    (e.tag.attr? "role" = none →
      (e.tag.marks landmark = true ↔ e.name = landmark.tagName)) ∧
    (∀ value, e.tag.attr? "role" = some value →
      (e.tag.marks landmark = true ↔
        e.name = landmark.tagName ∨ landmark.IsNamedIn value.plain)) ∧
    (∀ roles, e.tag.attr? "role" = some (.tokens roles) →
      (e.tag.marks landmark = true ↔
        e.name = landmark.tagName ∨ ∃ role ∈ roles, landmark.IsNamedIn role) ∧
      (e.tag.marks landmark = true ↔ e.name = landmark.tagName ∨
        ∃ role ∈ roles, (e.setAttr "role" (.text role)).tag.marks landmark = true)) := by
  refine ⟨fun h => Tag.marks_of_no_role h landmark, fun _ h => Tag.marks_of_role h landmark, ?_⟩
  intro roles h
  have hitems : e.tag.marks landmark = true ↔
      e.name = landmark.tagName ∨ ∃ role ∈ roles, landmark.IsNamedIn role := by
    rw [Tag.marks_of_role h, AttrValue.plain, isNamedIn_intercalate]
    rfl
  have halone : ∀ role, (e.setAttr "role" (.text role)).tag.marks landmark = true ↔
      e.name = landmark.tagName ∨ landmark.IsNamedIn role := by
    intro role
    exact Tag.marks_of_role (e.setAttr_attr? "role" (.text role)) landmark
  refine ⟨hitems, hitems.trans ?_⟩
  simp only [halone]
  constructor
  · rintro (hname | ⟨role, hrole, hnamed⟩)
    · exact Or.inl hname
    · exact Or.inr ⟨role, hrole, Or.inr hnamed⟩
  · rintro (hname | ⟨role, hrole, hname | hnamed⟩)
    · exact Or.inl hname
    · exact Or.inl hname
    · exact Or.inr ⟨role, hrole, hnamed⟩

/-- A list of roles, one of them with an ideographic space in it. -/
def withRoles : Element :=
  ⟨⟨.numbered 0, "div", [("role", .tokens ["mainly", "REGION\u3000MaIn"])], some 1⟩, []⟩

/-- A role with a dotted capital, which is two characters in lower case. -/
def withDottedRole : Element :=
  ⟨⟨.numbered 0, "ul", [("role", .text "navİgation")], some 1⟩, []⟩

/-- The item with the space has the word, and the dotted capital is no `I`. -/
theorem marks_by_word_of_role_spaced :
    withRoles.tag.attr? "role" = some (.tokens ["mainly", "REGION\u3000MaIn"]) ∧
    (∃ role ∈ ["mainly", "REGION\u3000MaIn"], Landmark.main.IsNamedIn role) ∧
    withDottedRole.tag.attr? "role" = some (.text "navİgation") ∧
    ¬ Landmark.navigation.IsNamedIn "navİgation" := by
  obtain ⟨-, -, hroles⟩ := marks_by_word_of_role withRoles .main
  obtain ⟨-, hrole, -⟩ := marks_by_word_of_role withDottedRole .navigation
  refine ⟨rfl, ?_, rfl, ?_⟩
  · exact ((hroles _ rfl).1.mp (by decide +kernel)).resolve_left (by decide)
  · intro hnamed
    have hmarks := (hrole _ rfl).mpr (Or.inr hnamed)
    exact absurd hmarks (by decide +kernel)

end Element

end PageLandmarks
