/-
**The tree of a page.**

* `Tag`: the name and the attributes of an element, with a key that tells it from all others.
* `Node`: a text or an element with what is in it.
* `Site`: an element together with the elements around it.
* `Node.strings`: the texts below a node, as far as they count as text of an element; `Node.sites`:
  the elements below it, both in the order of the page.
-/

import FeedFilter.Html.Token.Basic

namespace FeedFilter.Html

/-- What a text in a page is. -/
inductive TextRole where
  | plain
  | script
  | style
  | template
  | rubyText
  | rubyParenthesis
  | remark (kind : RemarkKind)
deriving DecidableEq, Repr

/-- The role of the text in an element, as its name decides it. -/
def TextRole.ofName (name : Text) : TextRole :=
  if name = "script".toList then script
  else if name = "style".toList then style
  else if name = "template".toList then template
  else if name = "rt".toList then rubyText
  else if name = "rp".toList then rubyParenthesis
  else plain

/-- Whether a text counts as text of an element, by the role of text in the element and that of the
text itself. Sections of plain characters go along with plain text. -/
def TextRole.counts : TextRole → TextRole → Bool
  | plain, remark .section => true
  | wanted, own => own = wanted

@[simp]
theorem TextRole.counts_plain (role : TextRole) : role.counts plain = decide (role = plain) := by
  cases role <;> simp [counts]

/-- An element without what is in it. -/
structure Tag where
  key : Nat
  name : Text
  attributes : List Attribute
deriving DecidableEq, Repr

namespace Tag

/-- The value of an attribute. -/
def attribute? (tag : Tag) (name : String) : Option Text := tag.attributes.lookup name.toList

/-- Gives an attribute a value: in the place of its old one, or at the end. -/
def putAttribute (name value : Text) : List Attribute → List Attribute
  | [] => [(name, value)]
  | (other, old) :: rest =>
    if other = name then (other, value) :: rest else (other, old) :: putAttribute name value rest

/-- A tag with a value for an attribute. -/
def withAttribute (tag : Tag) (name : String) (value : Text) : Tag :=
  { tag with attributes := putAttribute name.toList value tag.attributes }

/-- The classes of an element. -/
def classes (tag : Tag) : List Text := Text.words ((tag.attribute? "class").getD [])

/-- Whether an element has a class. -/
def hasClass (tag : Tag) (name : String) : Bool := tag.classes.contains name.toList

end Tag

/-- A node of a page. -/
inductive Node where
  | text (role : TextRole) (content : Text)
  | element (tag : Tag) (children : List Node)

/-- An element with the elements around it, the nearest first, and what is in it. -/
structure Site where
  above : List Tag
  tag : Tag
  children : List Node

namespace Node

mutual

/-- The texts in a node that count for a role. -/
def strings (role : TextRole) : Node → List Text
  | text own content => if role.counts own then [content] else []
  | element _ children => stringsOf role children

/-- The texts in some nodes that count for a role. -/
def stringsOf (role : TextRole) : List Node → List Text
  | [] => []
  | node :: rest => strings role node ++ stringsOf role rest

end

mutual

/-- The elements in a node, the outer ones before the inner ones. -/
def sites (above : List Tag) : Node → List Site
  | text _ _ => []
  | element tag children => ⟨above, tag, children⟩ :: sitesOf (tag :: above) children

/-- The elements in some nodes. -/
def sitesOf (above : List Tag) : List Node → List Site
  | [] => []
  | node :: rest => sites above node ++ sitesOf above rest

end

mutual

/-- A node in which the element with a key is replaced by other nodes. -/
def replace (key : Nat) (change : Tag → List Node → List Node) : Node → List Node
  | text role content => [text role content]
  | element tag children =>
    if tag.key = key then change tag children else [element tag (replaceIn key change children)]

/-- Nodes in which the element with a key is replaced by other nodes. -/
def replaceIn (key : Nat) (change : Tag → List Node → List Node) : List Node → List Node
  | [] => []
  | node :: rest => replace key change node ++ replaceIn key change rest

end

end Node

namespace Site

/-- The elements inside an element. -/
def inside (site : Site) : List Site := Node.sitesOf (site.tag :: site.above) site.children

/-- The texts that count as the text of an element. -/
def strings (site : Site) : List Text :=
  Node.stringsOf (TextRole.ofName site.tag.name) site.children

/-- The text of an element. -/
def text (site : Site) : Text := site.strings.flatten

/-- The text of an element with its pieces trimmed and kept apart. -/
def spacedText (site : Site) : Text :=
  Text.join [' '] ((site.strings.map Text.trim).filter fun piece => !piece.isEmpty)

end Site

end FeedFilter.Html
