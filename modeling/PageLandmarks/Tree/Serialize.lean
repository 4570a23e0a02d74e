import PageLandmarks.Tree.Basic

/-!
# PageLandmarks.Tree.Serialize

**Writing the tree as markup.** Attributes are sorted by name; the characters
`&`, `<` and `>` are escaped in values and in text, but not in the text directly
in a script or style sheet. An element that never has content is written as one
tag. What declares the encoding of the document declares UTF-8.
-/

namespace PageLandmarks

/-- The elements that never have content. -/
def voidNames : List String :=
  ["area", "base", "br", "col", "embed", "hr", "img", "input", "keygen", "link", "menuitem",
    "meta", "param", "source", "track", "wbr", "basefont", "bgsound", "command", "frame",
    "image", "isindex", "nextid", "spacer"]

/-- An element of this name never has content. -/
def isVoid (name : String) : Bool := voidNames.contains name

/-! ### Characters -/

/-- A character of a value or a text. -/
def escapedChar (c : Char) : List Char :=
  if c = '&' then "&amp;".toList
  else if c = '<' then "&lt;".toList
  else if c = '>' then "&gt;".toList
  else [c]

/-- A value or a text with the characters of markup escaped. -/
def escaped (cs : List Char) : List Char := cs.flatMap escapedChar

/-- A value in quotes: double ones, unless the value has such and no single
ones; the double quotes of a value that has both are escaped. -/
def quotedValue (cs : List Char) : List Char :=
  if !cs.contains '"' then '"' :: cs ++ ['"']
  else if !cs.contains '\'' then '\'' :: cs ++ ['\'']
  else '"' :: cs.flatMap (fun c => if c = '"' then "&quot;".toList else [c]) ++ ['"']

/-! ### Attributes -/

/-- The length of blanks and `charset=` at the beginning of a text. -/
def charsetLabel? (cs : List Char) : Option Nat :=
  let label := "charset=".toList
  let blanks := Text.blankRun cs
  if label.isPrefixOf (cs.drop blanks) then some (blanks + label.length) else none

/-- The length through `charset=` at a place where it names the encoding: at the
start of a line or after a semicolon. -/
def charsetAt? (lineStart : Bool) (cs : List Char) : Option Nat :=
  let here := if lineStart then charsetLabel? cs else none
  match here, cs with
  | some n, _ => some n
  | none, ';' :: rest => (charsetLabel? rest).map (· + 1)
  | none, _ => none

/-- A content type with every encoding in it, which ends at a semicolon, replaced
by UTF-8. -/
def contentTypeUtf8 (lineStart : Bool) (cs : List Char) : List Char :=
  match cs with
  | [] => []
  | c :: rest =>
    match charsetAt? lineStart (c :: rest) with
    | none => c :: contentTypeUtf8 (c == '\n') rest
    | some n =>
      let encoding := ((c :: rest).drop n).takeWhile (· != ';')
      (c :: rest).take n ++ "utf-8".toList ++
        contentTypeUtf8 (encoding.getLast? == some '\n') (rest.drop (n - 1 + encoding.length))
termination_by cs.length
decreasing_by all_goals (simp only [List.length_cons, List.length_drop]; omega)

/-- The text that a value is written as, before escapes. -/
def AttrValue.written : AttrValue → List Char
  | .charset _ => "utf-8".toList
  | .contentType s => contentTypeUtf8 true s.toList
  | value => value.plain.toList

/-- An attribute, after a space. -/
def writtenAttr (a : String × AttrValue) : List Char :=
  ' ' :: a.1.toList ++ '=' :: quotedValue (escaped a.2.written)

/-- The attributes in the order of their names. -/
def sortedAttrs (attrs : Attributes) : Attributes :=
  attrs.mergeSort fun a b => !(b.1 < a.1)

/-! ### Nodes -/

/-- A piece of text in an element of this name. -/
def writtenText (parent : String) (kind : TextKind) (cs : List Char) : List Char :=
  match kind with
  | .comment => "<!--".toList ++ cs ++ "-->".toList
  | .cdata => "<![CDATA[".toList ++ cs ++ "]]>".toList
  | .instruction => "<?".toList ++ cs ++ ['>']
  | .declaration => "<?".toList ++ cs ++ "?>".toList
  | .doctype => "<!DOCTYPE ".toList ++ cs ++ ">\n".toList
  | _ => if parent = "script" ∨ parent = "style" then cs else escaped cs

/-- The start tag of an element, without the `>`. -/
def openingTag (tag : Tag) : List Char :=
  '<' :: tag.name.toList ++ (sortedAttrs tag.attrs).flatMap writtenAttr

/-- The end tag of an element. -/
def closingTag (tag : Tag) : List Char := "</".toList ++ tag.name.toList ++ ['>']

mutual

/-- The markup of a node in an element of the name `parent`, and after it
`rest`. -/
def Node.writeBefore (parent : String) (rest : List Char) : Node → List Char
  | .text kind content => writtenText parent kind content.toList ++ rest
  | .element tag children =>
    if tag.id = .root then Nodes.writeBefore tag.name rest children
    else if children.isEmpty && isVoid tag.name then openingTag tag ++ "/>".toList ++ rest
    else openingTag tag ++ '>' :: Nodes.writeBefore tag.name (closingTag tag ++ rest) children

/-- The markup of a list of nodes in an element of the name `parent`, and after it
`rest`. -/
def Nodes.writeBefore (parent : String) (rest : List Char) : List Node → List Char
  | [] => rest
  | n :: ns => n.writeBefore parent (Nodes.writeBefore parent rest ns)

end

/-- The markup of an element, its own tags included. Those of the root are
nothing. -/
def Element.outerHtml (e : Element) : String := .ofList (e.node.writeBefore "" [])

end PageLandmarks
