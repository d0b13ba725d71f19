/-
**Blocks: lines nested by indentation.**

A line that is indented deeper than an earlier one belongs under it, whatever the step; blank lines
belong nowhere.

* `Block`: a line and the blocks under it.
* `Block.forest`: the blocks of lines whose indentation is known.
* `Block.ofLines`: the blocks of raw lines.
-/

import FeedFilter.Text.Basic

namespace FeedFilter

/-- A trimmed line and the blocks nested under it. -/
inductive Block where
  | node (line : Text) (children : List Block)
deriving Repr, Inhabited

namespace Block

/-- The line at the top of a block. -/
def line : Block → Text
  | node line _ => line

/-- The blocks under that line. -/
def children : Block → List Block
  | node _ children => children

/-- The blocks of lines given with their indentation: the lines that follow a line and are indented
deeper make up its children, and the first line that is not starts the next block. -/
def forest : List (Nat × Text) → List Block
  | [] => []
  | (indent, line) :: rest =>
    node line (forest (rest.takeWhile fun entry => indent < entry.1))
      :: forest (rest.dropWhile fun entry => indent < entry.1)
termination_by entries => entries.length
decreasing_by
  · exact Nat.lt_succ_of_le (List.takeWhile_sublist _).length_le
  · exact Nat.lt_succ_of_le (List.dropWhile_sublist _).length_le

/-- The lines that hold more than blanks, trimmed, each with its indentation. -/
def entries (lines : List Text) : List (Nat × Text) :=
  (lines.map fun line => (line.indent, line.trim)).filter fun entry => !entry.2.isEmpty

/-- The blocks of raw lines. -/
def ofLines (lines : List Text) : List Block := forest (entries lines)

end Block

end FeedFilter
