/-
**Comments.**

A semicolon starts a comment that runs to the end of its line. A semicolon with a backslash directly
before it is meant as itself, and so is one inside a regular expression that the line begins with.

* `closingSlash?`: the end of the leading regular expression of a line.
* `strip`: the line without its comment and without the backslashes that protect semicolons.
* `escape`: protects every semicolon of a line, so that `strip` gives the line back.
-/

import FeedFilter.Text.Basic

namespace FeedFilter.Comment

/-- Whether the character at a position has a backslash directly before it. -/
def isProtected (text : Text) (position : Nat) : Bool :=
  0 < position && text[position - 1]? == some '\\'

/-- The position of the first slash that has no backslash directly before it, in a text that follows
the character `previous`. -/
def unprotectedSlash? (previous : Char) : Text → Option Nat
  | [] => none
  | c :: rest =>
    if c = '/' && previous ≠ '\\' then some 0
    else (unprotectedSlash? c rest).map (· + 1)

/-- The position of the slash that closes the regular expression a line begins with, blanks in front
of it left aside. -/
def closingSlash? (line : Text) : Option Nat :=
  match line.drop line.indent with
  | '/' :: rest => (unprotectedSlash? '/' rest).map (· + (line.indent + 1))
  | _ => none

/-- Whether the character at a position is a semicolon that stands after the closing slash, if there
is one. -/
def isSemicolon (closing : Option Nat) (text : Text) (position : Nat) : Bool :=
  text[position]? == some ';' && closing.all (· < position)

/-- Whether a comment may start at a position. -/
def startsAt (closing : Option Nat) (line : Text) (position : Nat) : Bool :=
  isSemicolon closing line position && !isProtected line position

/-- Where the comment of a line starts; the length of the line if it has none. -/
def start (line : Text) : Nat :=
  ((List.range line.length).find? (startsAt (closingSlash? line) line)).getD line.length

/-- Whether the character at a position is a backslash that protects a semicolon. -/
def isProtector (closing : Option Nat) (text : Text) (position : Nat) : Bool :=
  text[position]? == some '\\' && isSemicolon closing text (position + 1)

/-- The line without its comment, each protected semicolon without its backslash. Blanks before the
comment stay. -/
def strip (line : Text) : Text :=
  let closing := closingSlash? line
  ((line.take (start line)).zipIdx.filter fun (_, position) =>
    !isProtector closing line position).map Prod.fst

/-- Puts a backslash before each semicolon after the leading regular expression. -/
def escape (line : Text) : Text :=
  let closing := closingSlash? line
  line.zipIdx.flatMap fun (c, position) =>
    if isSemicolon closing line position then ['\\', c] else [c]

end FeedFilter.Comment
