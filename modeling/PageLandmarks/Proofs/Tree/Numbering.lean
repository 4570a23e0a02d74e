import PageLandmarks.Proofs.Tree.Subtree

/-!
# PageLandmarks.Proofs.Tree.Numbering

**Elements are numbered in reading order.** While a tree is being built, what has
been opened so far has a reading order already: the finished children of the root,
then the open elements from the outermost on, each before its own children
(`Builder.tags`). Closing an element and adding a text leave that order alone, and
a start tag adds its element at the end of it (`Builder.add_tags`). So the numbers
count up in reading order at every point (`Builder.Numbered`), and in a document
that has just been read no two elements share an identity.
-/

namespace PageLandmarks

open Markup (Event)

/-! ### Tags in reading order -/

/-- The tags of the elements of a list of nodes, in reading order. -/
def Nodes.tags (ns : List Node) : List Tag := (Nodes.elements ns).map Element.tag

theorem Nodes.elements_append (ns ms : List Node) :
    Nodes.elements (ns ++ ms) = Nodes.elements ns ++ Nodes.elements ms := by
  induction ns with
  | nil => rfl
  | cons n ns ih => rw [List.cons_append, Nodes.elements, Nodes.elements, ih, List.append_assoc]

@[simp] theorem Nodes.tags_nil : Nodes.tags [] = [] := rfl

@[simp] theorem Nodes.tags_append (ns ms : List Node) :
    Nodes.tags (ns ++ ms) = Nodes.tags ns ++ Nodes.tags ms := by
  rw [Nodes.tags, Nodes.elements_append, List.map_append]; rfl

@[simp] theorem Nodes.tags_text (kind : TextKind) (content : String) :
    Nodes.tags [.text kind content] = [] := rfl

@[simp] theorem Nodes.tags_element (tag : Tag) (children : List Node) :
    Nodes.tags [.element tag children] = tag :: Nodes.tags children := by
  simp [Nodes.tags, Nodes.elements, Node.elements]

namespace Builder

/-- The tags of the open elements and of what they hold so far, in reading order:
the innermost one comes last. -/
def frameTags : List Frame → List Tag
  | [] => []
  | f :: fs => frameTags fs ++ f.tag :: Nodes.tags f.content.reverse

/-- The tags of all elements opened so far, in reading order. -/
def tags (b : Builder) : List Tag := Nodes.tags b.top.reverse ++ frameTags b.frames

/-! ### What leaves the elements alone -/

/-- The builder has the same elements in the same order, and has numbered no
others. -/
structure Keeps (b b' : Builder) : Prop where
  /-- The elements are the same, in the same order. -/
  tags : b'.tags = b.tags
  /-- No number has been given out. -/
  nextId : b'.nextId = b.nextId

theorem Keeps.refl (b : Builder) : b.Keeps b := ⟨rfl, rfl⟩

theorem Keeps.trans {b₁ b₂ b₃ : Builder} (h : b₁.Keeps b₂) (h' : b₂.Keeps b₃) : b₁.Keeps b₃ :=
  ⟨h'.tags.trans h.tags, h'.nextId.trans h.nextId⟩

/-- The tags of an added node come last: it is in the innermost open element. -/
theorem addNode_tags (b : Builder) (n : Node) : (b.addNode n).tags = b.tags ++ Nodes.tags [n] := by
  unfold addNode
  split
  · rename_i hf
    simp [tags, hf, frameTags]
  · rename_i f fs hf
    simp [tags, hf, frameTags]

@[simp] theorem addNode_nextId (b : Builder) (n : Node) : (b.addNode n).nextId = b.nextId := by
  unfold addNode
  split <;> rfl

/-- An element keeps its place when it is closed, since nothing was opened after
its last child. -/
theorem closeInnermost_keeps (b : Builder) : b.Keeps b.closeInnermost := by
  unfold closeInnermost
  split
  · exact .refl b
  · rename_i f fs hf
    refine ⟨?_, addNode_nextId _ _⟩
    rw [addNode_tags, Nodes.tags_element]
    simp [tags, hf, frameTags]

theorem closeFrames_keeps (count : Nat) (b : Builder) : b.Keeps (closeFrames count b) := by
  induction count generalizing b with
  | zero => exact .refl b
  | succ count ih => exact (closeInnermost_keeps b).trans (ih b.closeInnermost)

theorem closeNamed_keeps (b : Builder) (name : String) : b.Keeps (b.closeNamed name) := by
  unfold closeNamed
  split
  · exact closeFrames_keeps _ b
  · exact .refl b

theorem flush_keeps (b : Builder) (kind : TextKind) : b.Keeps (b.flush kind) := by
  unfold flush
  split
  · exact .refl b
  · refine ⟨?_, addNode_nextId _ _⟩
    rw [addNode_tags, Nodes.tags_text, List.append_nil]
    rfl

theorem flushText_keeps (b : Builder) : b.Keeps b.flushText := flush_keeps b _

theorem addText_keeps (b : Builder) (kind : TextKind) (s : String) :
    b.Keeps (b.addText kind s) := by
  have hpieces : b.flushText.Keeps { b.flushText with pieces := [s] } := ⟨rfl, rfl⟩
  exact (flushText_keeps b).trans (hpieces.trans (flush_keeps _ kind))

theorem addSection_keeps (b : Builder) (s : String) : b.Keeps (b.addSection s) := by
  unfold addSection
  dsimp only
  split
  · exact addText_keeps b _ _
  · exact addText_keeps b _ _

/-! ### What adds an element -/

/-- The tag of the element that a start tag opens. -/
def openedTag (b : Builder) (name : String) (attrs : List (String × Option String))
    (line : Nat) : Tag :=
  Tag.new (.numbered b.nextId) name
    ((Assoc.ofOccurrences attrs).map fun a => (a.1, AttrValue.text (a.2.getD ""))) (some line)

/-- The tags of the elements that an event opens. -/
def openedTags (b : Builder) : Event → List Tag
  | .startTag name attrs line _ => [b.openedTag name attrs line]
  | _ => []

theorem openElement_tags (b : Builder) (name : String) (attrs : List (String × Option String))
    (line : Nat) :
    (b.openElement name attrs line).tags = b.tags ++ [b.openedTag name attrs line] := by
  simp [openElement, openedTag, tags, frameTags]

theorem Keeps.openedTag {b b' : Builder} (h : b.Keeps b') (name : String)
    (attrs : List (String × Option String)) (line : Nat) :
    b'.openedTag name attrs line = b.openedTag name attrs line := by
  rw [Builder.openedTag, h.nextId]; rfl

/-- A start tag puts its element behind all others, whether it stays open or
not. -/
theorem add_startTag (b : Builder) (name : String) (attrs : List (String × Option String))
    (line : Nat) (closed : Bool) :
    (b.add (.startTag name attrs line closed)).tags = b.tags ++ [b.openedTag name attrs line] ∧
      (b.add (.startTag name attrs line closed)).nextId = b.nextId + 1 := by
  have hflush := flushText_keeps b
  have htags : (b.flushText.openElement name attrs line).tags =
      b.tags ++ [b.openedTag name attrs line] := by
    rw [openElement_tags, hflush.tags, hflush.openedTag]
  have hnext : (b.flushText.openElement name attrs line).nextId = b.nextId + 1 := by
    rw [openElement, hflush.nextId]
  have hclose := closeNamed_keeps (b.flushText.openElement name attrs line) name
  simp only [add]
  split
  · exact ⟨hclose.tags.trans htags, hclose.nextId.trans hnext⟩
  · split
    · exact ⟨hclose.tags.trans htags, hclose.nextId.trans hnext⟩
    · exact ⟨htags, hnext⟩

theorem add_endTag_keeps (b : Builder) (name : String) : b.Keeps (b.add (.endTag name)) := by
  simp only [add]
  split
  · exact ⟨rfl, rfl⟩
  · exact (flushText_keeps b).trans (closeNamed_keeps _ name)

/-- Every event adds what it opens at the end of the reading order, and counts
it. -/
theorem add_tags (b : Builder) (e : Event) :
    (b.add e).tags = b.tags ++ b.openedTags e ∧
      (b.add e).nextId = b.nextId + (b.openedTags e).length := by
  have keeps : ∀ {b' : Builder}, b.Keeps b' → b'.tags = b.tags ++ [] ∧ b'.nextId = b.nextId + 0 :=
    fun h => ⟨by rw [h.tags, List.append_nil], h.nextId⟩
  cases e with
  | text s => exact keeps ⟨rfl, rfl⟩
  | startTag name attrs line closed => exact add_startTag b name attrs line closed
  | endTag name => exact keeps (add_endTag_keeps b name)
  | comment s => exact keeps (addText_keeps b _ s)
  | instruction s => exact keeps (addText_keeps b _ s)
  | doctype s => exact keeps (addText_keeps b _ _)
  | markedSection s => exact keeps (addSection_keeps b s)

/-! ### The numbers -/

/-- The elements carry the numbers from zero on, in reading order. -/
def Numbered (b : Builder) : Prop :=
  b.tags.map Tag.id = (List.range b.nextId).map ElementId.numbered

theorem Numbered.of_keeps {b b' : Builder} (h : b.Numbered) (hk : b.Keeps b') : b'.Numbered := by
  rw [Numbered, hk.tags, hk.nextId]; exact h

theorem Numbered.add {b : Builder} (h : b.Numbered) (e : Event) : (b.add e).Numbered := by
  obtain ⟨htags, hnext⟩ := add_tags b e
  rw [Numbered, htags, hnext, List.map_append, h]
  -- only a start tag takes a number, and it takes the next one
  cases e with
  | startTag name attrs line closed =>
      rw [show (b.openedTags (.startTag name attrs line closed)).length = 1 from rfl,
        List.range_succ, List.map_append]
      rfl
  | _ => simp [openedTags]

theorem numbered_foldl (events : List Event) {b : Builder} (h : b.Numbered) :
    (events.foldl Builder.add b).Numbered := by
  induction events generalizing b with
  | nil => exact h
  | cons e events ih => exact ih (h.add e)

theorem finish_keeps (b : Builder) : b.Keeps b.finish :=
  (flushText_keeps b).trans (closeFrames_keeps _ _)

theorem closeInnermost_frames_length (b : Builder) :
    b.closeInnermost.frames.length = b.frames.length - 1 := by
  unfold closeInnermost
  split
  · rename_i hf
    simp [hf]
  · rename_i f fs hf
    unfold addNode
    split <;> simp_all

theorem closeFrames_frames_length (count : Nat) (b : Builder) :
    (closeFrames count b).frames.length = b.frames.length - count := by
  induction count generalizing b with
  | zero => rfl
  | succ count ih =>
      rw [closeFrames, ih, closeInnermost_frames_length]
      omega

/-- Nothing is open in the end, so all elements are under the root. -/
theorem finish_tags (b : Builder) : b.finish.tags = Nodes.tags b.finish.top.reverse := by
  have hlen : b.finish.frames.length = 0 := by
    rw [finish, closeFrames_frames_length, Nat.sub_self]
  rw [tags, List.eq_nil_of_length_eq_zero hlen, frameTags, List.append_nil]

theorem ofEvents_numbered (events : List Event) : (ofEvents events).Numbered :=
  (numbered_foldl events (show ({} : Builder).Numbered from rfl)).of_keeps (finish_keeps _)

theorem ofEvents_ids (events : List Event) :
    (Nodes.elements (ofEvents events).top.reverse).map Element.id =
      (List.range (ofEvents events).nextId).map ElementId.numbered := by
  have hnum := ofEvents_numbered events
  rw [Numbered, ofEvents, finish_tags, Nodes.tags, List.map_map] at hnum
  exact hnum

end Builder

/-! ### Documents just read -/

namespace Document

/-- A document that has just been read has nothing but its tree, and its elements
carry the numbers from zero on, in reading order. -/
theorem parse_numbered {text : String} {d : Document} (h : parse text = .ok d) :
    d.root.tag = Tag.root ∧ d.detached = [] ∧
      d.elements.map Element.id = (List.range d.nextId).map ElementId.numbered := by
  unfold parse at h
  cases hev : Markup.readEvents text with
  | error e => rw [hev] at h; exact absurd h (by simp [Except.map])
  | ok events =>
      rw [hev] at h
      obtain rfl := Except.ok.inj h
      exact ⟨rfl, rfl, Builder.ofEvents_ids events⟩

/-- No two elements of a document that has just been read share an identity. -/
theorem parse_distinct {text : String} {d : Document} (h : parse text = .ok d) : d.Distinct := by
  obtain ⟨hroot, hdetached, hids⟩ := parse_numbered h
  have hrootId : d.root.id = .root := by rw [Element.id, hroot]; rfl
  have hnodup : ((List.range d.nextId).map ElementId.numbered).Nodup :=
    List.nodup_range.map fun m n hmn => ElementId.numbered.inj hmn
  rw [Distinct, trees, hdetached, preorders_cons, preorders_nil, List.append_nil, root_preorder,
    List.map_cons, hrootId, hids]
  exact List.nodup_cons.mpr ⟨by simp, hnodup⟩

end Document

end PageLandmarks
