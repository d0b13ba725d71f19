/-
**How elements nest.**

Nothing is implied by a start tag: an element is open until an end tag with its name, or with the
name of one around it, comes. An end tag without an open element of its name does nothing but keep
the texts around it apart. Some elements have no content; an end tag after one of these is skipped
once.

* `Nesting.take`: what one token does to the elements that are open.
* `Nesting.ofTokens`: the nodes that tokens make.
-/

import FeedFilter.Html.Node
import FeedFilter.Html.Token.Scan

namespace FeedFilter.Html

/-- The elements that have no content. -/
def voidNames : List Text :=
  (Unicode.items "area base br col embed hr img input keygen link menuitem meta param source track
    wbr basefont bgsound command frame image isindex nextid spacer").map String.toList

/-- Whether an element of a name has no content. -/
def isVoid (name : Text) : Bool := voidNames.contains name

/-- The elements whose blanks matter. -/
def preformattedNames : List Text := ["pre".toList, "textarea".toList]

/-- The attributes of any element whose values are words. -/
def wordAttributes : List Text := ["class".toList, "accesskey".toList, "dropzone".toList]

/-- The attributes of some elements whose values are words. -/
def wordAttributesOf : List (Text × List Text) :=
  [("a".toList, ["rel".toList, "rev".toList]), ("link".toList, ["rel".toList, "rev".toList]),
   ("td".toList, ["headers".toList]), ("th".toList, ["headers".toList]),
   ("form".toList, ["accept-charset".toList]), ("object".toList, ["archive".toList]),
   ("area".toList, ["rel".toList]), ("icon".toList, ["sizes".toList]),
   ("iframe".toList, ["sandbox".toList]), ("output".toList, ["for".toList])]

/-- Whether the value of an attribute is words. -/
def holdsWords (element name : Text) : Bool :=
  wordAttributes.contains name
    || ((wordAttributesOf.lookup element).getD []).contains name

/-- The attributes of an element: the last value of each name, words with single spaces between
them. -/
def attributesOf (element : Text) (written : List Attribute) : List Attribute :=
  written.foldl
    (fun attributes (name, value) =>
      let value := if holdsWords element name then Text.join [' '] (Text.words value) else value
      Tag.putAttribute name value attributes) []

/-- The blanks that alone do not matter. -/
def isPlainBlank (c : Char) : Bool := [' ', '\n', '\t', '\x0c', '\r'].contains c

/-- A text of nothing but blanks as a single one. -/
def squeeze (text : Text) : Text :=
  if !text.all isPlainBlank then text else if text.contains '\n' then ['\n'] else [' ']

/-- An element that is open, with what is in it so far, the last first. -/
structure OpenElement where
  tag : Tag
  content : List Node

/-- A page in the making: what is closed, what is open, the innermost first, the text not yet put
down, the elements without content whose end tags may still come, and the next key. -/
structure Nesting where
  done : List Node := []
  opened : List OpenElement := []
  pending : Text := []
  finished : List Text := []
  nextKey : Nat := 0

namespace Nesting

/-- Puts a node into the innermost open element. -/
def add (nesting : Nesting) (node : Node) : Nesting :=
  match nesting.opened with
  | [] => { nesting with done := node :: nesting.done }
  | inner :: outer =>
    { nesting with opened := { inner with content := node :: inner.content } :: outer }

/-- The names of the open elements, the innermost first. -/
def names (nesting : Nesting) : List Text := nesting.opened.map fun element => element.tag.name

/-- The role of running text. -/
def role (nesting : Nesting) : TextRole :=
  ((nesting.names.map TextRole.ofName).find? fun role => role ≠ .plain).getD .plain

/-- Puts down a text; blanks matter only in some elements. -/
def addText (nesting : Nesting) (role : TextRole) (content : Text) : Nesting :=
  let preformatted := nesting.names.any fun name => preformattedNames.contains name
  nesting.add (.text role (if preformatted then content else squeeze content))

/-- Puts down the pending text. -/
def flush (nesting : Nesting) : Nesting :=
  if nesting.pending.isEmpty then nesting
  else { nesting.addText nesting.role nesting.pending with pending := [] }

/-- Closes the innermost open element. -/
def close (nesting : Nesting) : Nesting :=
  match nesting.opened with
  | [] => nesting
  | inner :: outer =>
    { nesting with opened := outer }.add (.element inner.tag inner.content.reverse)

/-- Closes as many elements as there are. -/
def closeSome (nesting : Nesting) (count : Nat) : Nesting := count.repeat close nesting

/-- Closes all up to the innermost open element of a name, if there is one. -/
def closeTo (nesting : Nesting) (name : Text) : Nesting :=
  let inner := nesting.names.takeWhile (· ≠ name)
  if nesting.names.contains name then nesting.closeSome (inner.length + 1) else nesting

/-- What an end tag does. -/
def finish (nesting : Nesting) (name : Text) : Nesting :=
  if nesting.finished.contains name then
    { nesting with finished := nesting.finished.erase name }
  else nesting.flush.closeTo name

/-- What a start tag does. -/
def start (nesting : Nesting) (name : Text) (attributes : List Attribute) : Nesting :=
  let nesting := nesting.flush
  { nesting with
    opened := ⟨⟨nesting.nextKey, name, attributesOf name attributes⟩, []⟩ :: nesting.opened
    nextKey := nesting.nextKey + 1 }

/-- What a token does. -/
def take (nesting : Nesting) : Token → Nesting
  | .start name attributes closed =>
    let begun := nesting.start name attributes
    if closed then begun.finish name
    else if isVoid name then
      let ended := begun.closeTo name
      { ended with finished := name :: ended.finished }
    else begun
  | .finish name => nesting.finish name
  | .text content => { nesting with pending := nesting.pending ++ content }
  | .remark kind content => nesting.flush.addText (.remark kind) content

/-- Closes all that is open. -/
def complete (nesting : Nesting) : Nesting :=
  let nesting := nesting.flush
  nesting.closeSome nesting.opened.length

/-- What tokens make. -/
def ofTokens (tokens : List Token) : Nesting := (tokens.foldl take {}).complete

end Nesting

end FeedFilter.Html
