/-!
# PageLandmarks.Text.Uppercase

**Upper-casing, as far as it leads to ASCII.** A word in capitals is compared with
words of ASCII letters. Some characters beyond ASCII have ASCII letters as their
upper-case form, one or several; all others cannot make up such a word and stay as
they are.
-/

namespace PageLandmarks.Text

/-- The characters beyond ASCII whose upper-case forms are ASCII letters. -/
def asciiUpperForms : List (Char × String) :=
  [('ı', "I"), ('ſ', "S"), ('ß', "SS"), ('ﬀ', "FF"), ('ﬁ', "FI"), ('ﬂ', "FL"), ('ﬃ', "FFI"),
    ('ﬄ', "FFL"), ('ﬅ', "ST"), ('ﬆ', "ST")]

/-- A text with every character that has an upper-case form in ASCII replaced by
it. -/
def asciiUppercase (s : String) : String :=
  .ofList (s.toList.flatMap fun c =>
    match asciiUpperForms.lookup c with
    | some form => form.toList
    | none => [c.toUpper])

end PageLandmarks.Text
