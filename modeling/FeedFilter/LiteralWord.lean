/-
**Literal words as expressions.**

A word is looked for as it is written, whatever its case. It has to begin and end at the edge of a
word, but only on the sides where it has a word character itself, so `#tag` and `hello!` are found
inside other punctuation.

* `LiteralWord.expression`: the source of the expression for a word; it has no line break in it.
* `LiteralWord.regex`: the expression itself.
-/

import FeedFilter.Regex.Basic

namespace FeedFilter.LiteralWord

/-- The characters that mean something in an expression. -/
def special : List Char := "#$&()*+-.?[\\]^\x7b|\x7d~".toList

/-- A character of a word as it stands in an expression: line breaks by number, what means something
there and other blanks behind a backslash. -/
def escapeChar (c : Char) : Text :=
  if Text.isLineBreak c then '\\' :: 'u' :: Text.hexadecimal 4 c.toNat
  else if special.contains c || Text.isBlank c then ['\\', c]
  else [c]

/-- The edge of a word, where a character needs one. -/
def edge (c : Option Char) : Text :=
  if c.any fun c => Regex.Property.isWord c.toNat then ['\\', 'b'] else []

/-- The source of the expression that matches a word. -/
def expression (word : Text) : Text :=
  edge word.head? ++ word.flatMap escapeChar ++ edge word.getLast?

/-- The expression that matches a word, whatever its case. -/
def regex (word : Text) : Except Regex.Failure Regex :=
  Regex.compile [.ignoreCase] (expression word)

end FeedFilter.LiteralWord
