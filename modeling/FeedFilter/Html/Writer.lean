/-
**Pages, written.**

Attributes are written in the order of their names, and only the characters that would be read as
something else are replaced by references. An element that declares the encoding of the page
declares the one in which pages are written.

* `Node.write`: the markup of a node.
-/

import FeedFilter.Html.Nesting

namespace FeedFilter.Html

/-- Replaces what would be read as markup. -/
def escapeText (text : Text) : Text :=
  text.replaceEach fun c =>
    if c = '&' then some "&amp;".toList
    else if c = '<' then some "&lt;".toList
    else if c = '>' then some "&gt;".toList
    else none

/-- A value in quotes: double ones, unless it holds some and no single ones. -/
def quoteValue (value : Text) : Text :=
  if !value.contains '"' then '"' :: value ++ ['"']
  else if !value.contains '\'' then '\'' :: value ++ ['\'']
  else '"' :: value.replaceEach (fun c => if c = '"' then some "&quot;".toList else none) ++ ['"']

/-- The encoding in which pages are written. -/
def encoding : Text := "utf-8".toList

/-- What the declaration of an encoding begins with. -/
def encodingMark : Text := "charset=".toList

/-- A type of content in which each declaration of an encoding names the one in which pages are
written. A declaration begins a line or follows a blank or a semicolon. `fuel` is the length of the
text at least. -/
def declareEncoding : Nat → Char → Text → Text
  | 0, _, text => text
  | _, _, [] => []
  | fuel + 1, before, c :: rest =>
    let declared (after : Text) : Text :=
      encodingMark ++ encoding
        ++ declareEncoding fuel ' ' ((after.drop encodingMark.length).dropWhile (· ≠ ';'))
    if before = '\n' && encodingMark.isPrefixOf (c :: rest) then declared (c :: rest)
    else if (Text.isBlank c || c = ';') && encodingMark.isPrefixOf rest then c :: declared rest
    else c :: declareEncoding fuel c rest

/-- The attribute by which an element declares the encoding of its page. -/
def encodingAttribute? (tag : Tag) : Option Text :=
  if tag.name ≠ "meta".toList then none
  else if (tag.attribute? "charset").isSome then some "charset".toList
  else if ((tag.attribute? "http-equiv").map Text.lower) = some "content-type".toList then
    some "content".toList
  else none

/-- The value of an attribute as it is written. -/
def writtenValue (tag : Tag) (pair : Attribute) : Text :=
  if encodingAttribute? tag ≠ some pair.1 then pair.2
  else if pair.1 = "charset".toList then encoding
  else declareEncoding pair.2.length '\n' pair.2

/-- An attribute as it is written. -/
def writeAttribute (tag : Tag) (pair : Attribute) : Text :=
  ' ' :: pair.1 ++ '=' :: quoteValue (escapeText (writtenValue tag pair))

/-- The attributes of an element as they are written. -/
def writeAttributes (tag : Tag) : Text :=
  ((tag.attributes.mergeSort fun first second => !decide (second.1 < first.1)).flatMap
    (writeAttribute tag))

/-- A remark as it is written. -/
def writeRemark (kind : RemarkKind) (content : Text) : Text :=
  match kind with
  | .comment => "<!--".toList ++ content ++ "-->".toList
  | .doctype => "<!DOCTYPE ".toList ++ content ++ ">\n".toList
  | .section => "<![CDATA[".toList ++ content ++ "]]>".toList
  | .declaration => "<?".toList ++ content ++ "?>".toList
  | .instruction => "<?".toList ++ content ++ ">".toList

/-- A text as it is written; in a script or a style nothing is replaced. -/
def writeText (raw : Bool) (role : TextRole) (content : Text) : Text :=
  match role with
  | .remark kind => writeRemark kind content
  | _ => if raw then content else escapeText content

namespace Node

mutual

/-- The markup of a node; `raw` tells whether it stands right in a script or a style. -/
def write (raw : Bool) : Node → Text
  | text role content => writeText raw role content
  | element tag [] =>
    if isVoid tag.name then '<' :: tag.name ++ writeAttributes tag ++ "/>".toList
    else '<' :: tag.name ++ writeAttributes tag ++ "></".toList ++ tag.name ++ ['>']
  | element tag (child :: rest) =>
    '<' :: tag.name ++ writeAttributes tag ++ '>'
      :: writeAll (rawElements.contains tag.name) (child :: rest)
      ++ "</".toList ++ tag.name ++ ['>']

/-- The markup of nodes one after the other. -/
def writeAll (raw : Bool) : List Node → Text
  | [] => []
  | node :: rest => write raw node ++ writeAll raw rest

end

end Node

end FeedFilter.Html
