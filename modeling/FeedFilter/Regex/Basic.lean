/-
**Regular expressions.**

* `Regex`: an expression that has been read, with its source and the flags in force.
* `Regex.compile`: reads an expression; it is invalid for a cause at a position, or its reading
  breaks down.
* `Regex.isFoundIn`: whether an expression matches somewhere in a text.
-/

import FeedFilter.Regex.Folding
import FeedFilter.Regex.Match
import FeedFilter.Regex.Parser

namespace FeedFilter

/-- An expression that has been read: its source, the flags in force for all of it, and the tree
that is matched. -/
structure Regex where
  source : Text
  flags : List Regex.Flag
  root : Regex.Node Nat

namespace Regex

/-- The flags that the user of an expression can tell apart. -/
def shownFlags : List Flag := [.ignoreCase, .multiline, .dotAll, .version1]

/-- Reads an expression with flags that are set from outside. -/
def compile (flags : List Flag) (source : Text) : Except Failure Regex :=
  match parse (Flags.ofList flags) source with
  | .error failure => .error failure
  | .ok (root, inForce) =>
    let root := if root.hasCalls then root else root.keepGroups root.references
    .ok ⟨source, shownFlags.filter inForce, root.withFoldings⟩

/-- Whether an expression matches somewhere in a text. -/
def isFoundIn (regex : Regex) (text : Text) : Bool := regex.root.finds text

end Regex

end FeedFilter
