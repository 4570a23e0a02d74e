import PageLandmarks.Assoc
import PageLandmarks.Text.Blank
import PageLandmarks.Text.Utf8

/-!
# PageLandmarks.Dotenv

**Variables in a `.env` file.** A line gives a name a value, `NAME=value`, or names
a variable without a value; `export` may stand before the name. The value is in
quotes, where it can hold escapes and go on over several lines, or it is the rest of
the line up to a blank and `#`. Comments begin with `#`. A line that is none of this
is passed over. A byte order mark at the beginning is not part of the file's text.

A value can refer to variables, `${NAME}` or `${NAME:-default}`: to those of the
lines before it, and to those of the environment (`Dotenv.entries`).
-/

namespace PageLandmarks.Dotenv

open Text (isBlank)

/-- A variable, and its value if it has one. -/
abbrev Binding := String × Option String

/-- A reader's outcome: what it read and the text that follows. Where it fails, it
tells the text from there on. -/
abbrev Scan := Except (List Char)

/-! ### Lines -/

/-- A character that ends a line. -/
def endsLine (c : Char) : Bool := c == '\n' || c == '\r'

/-- A blank within a line. -/
def isInlineBlank (c : Char) : Bool := isBlank c && !endsLine c

/-- The text after the blanks that it begins with, in its first line. -/
def skipInline (cs : List Char) : List Char := cs.dropWhile isInlineBlank

/-- The text from the end of its first line on. -/
def skipLine (cs : List Char) : List Char := cs.dropWhile fun c => !endsLine c

/-- The text after `export` and blanks, if it begins so. -/
def skipExport (cs : List Char) : List Char :=
  let word := "export".toList
  let rest := cs.drop word.length
  if word.isPrefixOf cs && rest.head?.any isInlineBlank then skipInline rest else cs

/-- The rest of a line must be blank but for a comment. -/
def lineEnd (cs : List Char) : Scan (List Char) :=
  let rest := match skipInline cs with
    | '#' :: comment => skipLine comment
    | rest => rest
  match rest with
  | [] => .ok []
  | c :: after => if endsLine c then .ok after else .error rest

/-! ### Names -/

/-- A character of a name without quotes. -/
def isNameChar (c : Char) : Bool := !(c == '=' || c == '#' || isBlank c)

/-- The name of a variable, in single quotes or without. A comment has none. -/
def name (cs : List Char) : Scan (Option String × List Char) :=
  match cs with
  | '#' :: _ => .ok (none, cs)
  | '\'' :: rest =>
    let inner := rest.takeWhile (· != '\'')
    if inner.isEmpty || inner.length == rest.length then .error cs
    else .ok (some (.ofList inner), rest.drop (inner.length + 1))
  | _ =>
    let inner := cs.takeWhile isNameChar
    if inner.isEmpty then .error cs else .ok (some (.ofList inner), cs.drop inner.length)

/-! ### Values -/

/-- How much of the text comes before the quote that closes it. A backslash and
the character after it close nothing. -/
def closing? (quote : Char) : List Char → Option Nat
  | [] => none
  | ['\\'] => none
  | '\\' :: _ :: cs => (closing? quote cs).map (· + 2)
  | c :: cs => if c = quote then some 0 else (closing? quote cs).map (· + 1)

/-- What a backslash and a character stand for in single quotes. -/
def singleEscape? (c : Char) : Option Char := if c = '\\' ∨ c = '\'' then some c else none

/-- What a backslash and a character stand for in double quotes. -/
def doubleEscape? (c : Char) : Option Char :=
  [('\\', '\\'), ('\'', '\''), ('"', '"'), ('a', '\x07'), ('b', '\x08'), ('f', '\x0c'),
    ('n', '\n'), ('r', '\r'), ('t', '\t'), ('v', '\x0b')].lookup c

/-- The text with its escapes put in plain. A backslash that begins none stays. -/
def unescape (escape? : Char → Option Char) : List Char → List Char
  | '\\' :: c :: rest =>
    match escape? c with
    | some d => d :: unescape escape? rest
    | none => '\\' :: unescape escape? (c :: rest)
  | c :: rest => c :: unescape escape? rest
  | [] => []

/-- The text up to a comment: a `#` after a blank. `afterBlank` tells that a blank
comes directly before the text. -/
def beforeComment (afterBlank : Bool) : List Char → List Char
  | [] => []
  | c :: cs => if c = '#' ∧ afterBlank then [] else c :: beforeComment (isBlank c) cs

/-- A value in quotes, from after the opening one on. -/
def quotedValue (quote : Char) (escape? : Char → Option Char) (cs : List Char) :
    Scan (String × List Char) :=
  match closing? quote cs with
  | none => .error (quote :: cs)
  | some length => .ok (.ofList (unescape escape? (cs.take length)), cs.drop (length + 1))

/-- A value, from after the `=` on. Blanks before it are not part of it. -/
def value (cs : List Char) : Scan (String × List Char) :=
  match skipInline cs with
  | '\'' :: rest => quotedValue '\'' singleEscape? rest
  | '"' :: rest => quotedValue '"' doubleEscape? rest
  | _ =>
    let line := cs.takeWhile fun c => !endsLine c
    .ok (.ofList (Text.strip (beforeComment false line)), skipLine cs)

/-- The value that a name is given, if it is given one. -/
def assigned (cs : List Char) : Scan (Option String × List Char) :=
  match skipInline cs with
  | '=' :: rest => do
    let (v, rest') ← value rest
    return (some v, rest')
  | rest => .ok (none, rest)

/-! ### Bindings -/

/-- The binding at the beginning of the text, which is not blank. -/
def binding (cs : List Char) : Scan (Option Binding × List Char) := do
  let (name?, rest) ← name (skipExport cs)
  let (value?, rest) ← assigned rest
  return (name?.map fun n => (n, value?), ← lineEnd rest)

/-- The bindings of a text. -/
def bindings (cs : List Char) : List Binding :=
  match Text.stripLeft cs with
  | [] => []
  | text =>
    let (found, rest) : Option Binding × List Char :=
      match binding text with
      | .ok reading => reading
      | .error rest => (none, (skipLine rest).drop 1)
    if rest.length < cs.length then found.toList ++ bindings rest else found.toList
termination_by cs.length

/-! ### References -/

/-- A reference to a variable. -/
structure Reference where
  /-- The name of the variable. -/
  name : List Char
  /-- What stands for a variable that there is not. -/
  default : List Char
  /-- The length of the reference. -/
  length : Nat

/-- The reference that the text begins with. -/
def reference? (cs : List Char) : Option Reference :=
  if "$\x7b".toList.isPrefixOf cs then
    let name := (cs.drop 2).takeWhile fun c => !(c == '\x7d' || c == ':')
    let length := 2 + name.length
    match cs.drop length with
    | '\x7d' :: _ => some ⟨name, [], length + 1⟩
    | ':' :: '-' :: rest =>
      let default := rest.takeWhile (· != '\x7d')
      if default.length < rest.length then some ⟨name, default, length + 2 + default.length + 1⟩
      else none
    | _ => none
  else none

/-- A value with its references replaced by what `meaning` gives for a name and a
default. -/
def expand (meaning : List Char → List Char → List Char) (cs : List Char) : List Char :=
  match cs with
  | [] => []
  | c :: rest =>
    match reference? (c :: rest) with
    | some r => meaning r.name r.default ++ expand meaning (rest.drop (r.length - 1))
    | none => c :: expand meaning rest
termination_by cs.length
decreasing_by all_goals (simp only [List.length_cons, List.length_drop]; omega)

/-- What a name in a value means after the variables `done`: these come before the
environment, and one without a value means nothing. -/
def meaningOf (environment : List (String × String)) (done : List Binding)
    (name default : List Char) : List Char :=
  match done.lookup (.ofList name), environment.lookup (.ofList name) with
  | some v, _ => (v.getD "").toList
  | none, some v => v.toList
  | none, none => default

/-- Add a binding to the variables there are. -/
def addBinding (environment : List (String × String)) (done : List Binding) (b : Binding) :
    List Binding :=
  Assoc.put done b.1
    (b.2.map fun v => .ofList (expand (meaningOf environment done) v.toList))

/-- The text of a file as it is read: without a byte order mark, and with one
character for each end of a line. -/
def lines (text : String) : List Char :=
  Text.Utf8.unifyNewlines (Text.Utf8.withoutMark text.toList)

/-- The names that the values of a text refer to. -/
def referredNames (text : String) : List String :=
  let values := (bindings (lines text)).filterMap Prod.snd
  values.flatMap fun v =>
    (List.range v.length).filterMap fun k =>
      (reference? (v.toList.drop k)).map fun r => .ofList r.name

/-- The variables of a `.env` file, in the order of their first lines, each with
its last value. -/
def entries (environment : List (String × String)) (text : String) : List Binding :=
  (bindings (lines text)).foldl (addBinding environment) []

end PageLandmarks.Dotenv
