/-
**Pages as trees that can be changed.**

An element of a page is known by its key as long as it is there. It can be taken out and lie beside
the page, or be destroyed with all that is in it.

* `Page.ofText`: the page of a markup, if it is read at all.
* `Page.find?`: the element of a key.
* `Page.destroy`, `Page.detach`, `Page.change`: what can be done to an element.
* `Page.write`: the markup of a page.
-/

import FeedFilter.Html.Selector
import FeedFilter.Html.Writer

namespace FeedFilter.Html

/-- A page: what is in it, the elements taken out of it, and the next key. -/
structure Page where
  nodes : List Node
  loose : List Node
  nextKey : Nat

namespace Page

/-- The page of a markup. -/
def ofText (markup : Text) : Except Rejection Page := do
  let nesting := Nesting.ofTokens (← Token.ofText markup)
  return ⟨nesting.done.reverse, [], nesting.nextKey⟩

/-- The elements in a page. -/
def sites (page : Page) : List Site := Node.sitesOf [] page.nodes

/-- The elements of a page, also those beside it. -/
def allSites (page : Page) : List Site := page.sites ++ Node.sitesOf [] page.loose

/-- The element of a key. -/
def find? (page : Page) (key : Nat) : Option Site :=
  page.allSites.find? fun site => site.tag.key = key

/-- Replaces the element of a key by other nodes. -/
def replace (page : Page) (key : Nat) (change : Tag → List Node → List Node) : Page :=
  { page with
    nodes := Node.replaceIn key change page.nodes
    loose := Node.replaceIn key change page.loose }

/-- Changes the element of a key. -/
def change (page : Page) (key : Nat) (update : Tag → List Node → Node) : Page :=
  page.replace key fun tag children => [update tag children]

/-- Destroys an element with all that is in it. -/
def destroy (page : Page) (key : Nat) : Page := page.replace key fun _ _ => []

/-- Takes an element out of the page. -/
def detach (page : Page) (key : Nat) : Page :=
  match page.find? key with
  | none => page
  | some site =>
    let rest := page.destroy key
    { rest with loose := rest.loose ++ [.element site.tag site.children] }

/-- The markup of a page. -/
def write (page : Page) : Text := Node.writeAll false page.nodes

end Page

/-- The markup of an element. -/
def Site.write (site : Site) : Text := Node.write false (.element site.tag site.children)

end FeedFilter.Html
