/-
**Selectors.**

A selector accepts an element by its tag and by tags around it, wherever these stand.

* `Selector.accepts`: whether an element is accepted.
* `Site.select`: the elements inside an element that are accepted, in the order of the page.
-/

import FeedFilter.Html.Node

namespace FeedFilter.Html

/-- A test of an element, and tests of elements around it, the nearest first. -/
structure Selector where
  target : Tag → Bool
  around : List (Tag → Bool) := []

/-- Whether some of the tags pass the tests in their order. -/
def passInOrder : List (Tag → Bool) → List Tag → Bool
  | [], _ => true
  | _ :: _, [] => false
  | test :: rest, tag :: above =>
    (test tag && passInOrder rest above) || passInOrder (test :: rest) above

namespace Selector

/-- The elements of a class. -/
def ofClass (name : String) : Selector := { target := fun tag => tag.hasClass name }

/-- The element of a name for itself. -/
def ofId (name : String) : Selector :=
  { target := fun tag => tag.attribute? "id" = some name.toList }

/-- The elements of a kind inside those that another selector accepts. -/
def within (outer : Selector) (target : Tag → Bool) : Selector :=
  ⟨target, outer.target :: outer.around⟩

/-- Whether an element is accepted. -/
def accepts (selector : Selector) (site : Site) : Bool :=
  selector.target site.tag && passInOrder selector.around site.above

end Selector

/-- The elements inside an element that a selector accepts. -/
def Site.select (site : Site) (selector : Selector) : List Site :=
  site.inside.filter selector.accepts

end FeedFilter.Html
