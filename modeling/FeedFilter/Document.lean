/-
**Documents: the text of a filter.**

A document has one directive on a line; comments, blank lines and indentation are allowed. A line
that is no directive is left out, and what is nested under it stays.

* `Document.compile`: the pattern of a document, with the lines that are left out.
* `Document.errors`: the lines that are no directives, each with the reason.
-/

import FeedFilter.Block
import FeedFilter.Comment
import FeedFilter.Log
import FeedFilter.Pattern

namespace FeedFilter

/-- A line that is left out, and why. -/
structure Ignored where
  line : Text
  error : DirectiveError
deriving DecidableEq, Repr

/-- The record about a line that is left out. -/
def Ignored.record (ignored : Ignored) : LogRecord :=
  ⟨.patterns, .debug, "Ignoring directive " ++ (Text.quote ignored.line).toString ++ ": "
    ++ ignored.error.message⟩

/-- The patterns of some lines, and the lines among them that are left out. -/
structure Outline where
  patterns : List Pattern
  ignored : List Ignored

namespace Outline

/-- An outline of nothing. -/
def empty : Outline := ⟨[], []⟩

/-- Two outlines one after the other. -/
def append (first second : Outline) : Outline :=
  ⟨first.patterns ++ second.patterns, first.ignored ++ second.ignored⟩

/-- The outline of one line. -/
def ofLine (line : Text) : Except Regex.Breakdown Outline :=
  match Directive.compile line with
  | .ok directive => .ok ⟨[directive.pattern], []⟩
  | .error (.invalid error) => .ok ⟨[], [⟨line, error⟩]⟩
  | .error (.breakdown breakdown) => .error breakdown

/-- The outline put into a block of its own. -/
def nested (outline : Outline) : Outline := ⟨[.block outline.patterns], outline.ignored⟩

mutual

/-- The outline of a block: its line, and then a block of what is nested under it, if anything is.
-/
def ofBlock : Block → Except Regex.Breakdown Outline
  | .node line [] => ofLine line
  | .node line (child :: rest) => do
    let own ← ofLine line
    let under ← ofForest (child :: rest)
    return own.append under.nested

/-- The outline of blocks one after the other. -/
def ofForest : List Block → Except Regex.Breakdown Outline
  | [] => .ok empty
  | block :: rest => do
    let first ← ofBlock block
    let others ← ofForest rest
    return first.append others

end

/-- The pattern of an outline. -/
def root (outline : Outline) : Pattern := .block outline.patterns

end Outline

namespace Document

/-- The lines of a document without comments, as far as anything is left of them. -/
def directiveLines (text : Text) : List Text :=
  (text.lines.map Comment.strip).filter fun line => !line.trim.isEmpty

/-- The blocks of a document. -/
def blocks (text : Text) : List Block := Block.ofLines (directiveLines text)

/-- The outline of a document. -/
def compile (text : Text) : Except Regex.Breakdown Outline := Outline.ofForest (blocks text)

/-- The lines that are no directives, each with the reason, in order. -/
def errorsOf : List Text → Except Regex.Breakdown (List Ignored)
  | [] => .ok []
  | line :: rest =>
    match Directive.compile line.trim with
    | .ok _ => errorsOf rest
    | .error (.invalid error) => do
      let others ← errorsOf rest
      return ⟨line.trim, error⟩ :: others
    | .error (.breakdown breakdown) => .error breakdown

/-- The lines of a document that are no directives, each with the reason, in order. -/
def errors (text : Text) : Except Regex.Breakdown (List Ignored) := errorsOf (directiveLines text)

/-- The lines that are left out before the first one that stops a compilation, in order. -/
def ignoredOf : List Text → List Ignored
  | [] => []
  | line :: rest =>
    match Directive.compile line.trim with
    | .ok _ => ignoredOf rest
    | .error (.invalid error) => ⟨line.trim, error⟩ :: ignoredOf rest
    | .error (.breakdown _) => []

/-- The lines of a document that are no directives, in order. -/
def invalidLines (text : Text) : Except Regex.Breakdown (List Text) := do
  let ignored ← errors text
  return ignored.map Ignored.line

/-- How many errors a description lists. -/
def listedErrors : Nat := 5

/-- A description of the lines that are left out; empty when there are none. -/
def describeErrors (ignored : List Ignored) : String :=
  if ignored.isEmpty then ""
  else
    let listed := ignored.take listedErrors
    let more := ignored.length - listed.length
    String.intercalate "\n"
      ((toString ignored.length ++ " line(s) ignored:")
        :: (listed.map fun one =>
              "- " ++ one.line.toString ++ " (" ++ one.error.message ++ ")")
        ++ if 0 < more then ["... and " ++ toString more ++ " more"] else [])

end Document

end FeedFilter
