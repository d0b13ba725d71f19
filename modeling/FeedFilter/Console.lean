/-
**Messages on a console of fixed width.**

Text from outside is shown as it is, with three exceptions: a backslash in front of a bracket that
begins no style is left out, a single backslash at the very end is doubled, and characters that
would move the cursor are left out. Lines that are too long are broken between words; a word longer
than a line is cut.

* `Console.shown`: how a text from outside is shown.
* `Console.message`: a message, laid out.
-/

import FeedFilter.Unicode.Width

namespace FeedFilter.Console

/-- The width of a console that is no terminal. -/
def width : Nat := 80

/-! ### Text from outside -/

/-- The characters with which the name of a style may begin. -/
def beginsStyle (c : Char) : Bool := ('a' ≤ c && c ≤ 'z') || ['#', '/', '@'].contains c

/-- Whether a text goes on up to a closing bracket without an opening one. -/
def closes : Text → Bool
  | [] => false
  | ']' :: _ => true
  | '[' :: _ => false
  | _ :: rest => closes rest

/-- Whether what follows an opening bracket makes it the beginning of a style. -/
def isStyle : Text → Bool
  | [] => false
  | c :: rest => beginsStyle c && closes rest

/-- Leaves out the backslashes in front of brackets that begin no style, one for each bracket. -/
def plain : Text → Text
  | [] => []
  | '\\' :: '[' :: rest =>
    if isStyle rest then '\\' :: '[' :: plain rest else '[' :: plain rest
  | c :: rest => c :: plain rest

/-- Doubles a single backslash at the end. -/
def closed (text : Text) : Text :=
  match text.reverse with
  | '\\' :: '\\' :: _ => text
  | '\\' :: _ => text ++ ['\\']
  | _ => text

/-- The characters that would move the cursor or ring. -/
def cursorControls : List Char := ['\x07', '\x08', '\x0b', '\x0c', '\r']

/-- How a text from outside is shown. -/
def shown (text : Text) : Text :=
  (plain (closed text)).filter fun c => !cursorControls.contains c

/-! ### Layout -/

/-- The columns between the places that a tabulator leads to. -/
def tabWidth : Nat := 8

/-- Replaces tabulators by blanks up to the next place; `position` is the column reached. -/
def expandTabs (position : Nat) : Text → Text
  | [] => []
  | '\t' :: rest =>
    let blanks := tabWidth - position % tabWidth
    List.replicate blanks ' ' ++ expandTabs (position + blanks) rest
  | c :: rest => c :: expandTabs (position + Unicode.columns c.toNat) rest

/-- The words of a line, each with the blanks after it, the first also with those before it. -/
def wordsOf (line : Text) : List Text :=
  match line.splitBy fun c next => !Text.isBlank c || Text.isBlank next with
  | first :: second :: rest =>
    if first.all Text.isBlank then (first ++ second) :: rest else first :: second :: rest
  | words => words

/-- Cuts a word into pieces that are as wide as a line at most; `used` is the width of the piece in
hand. -/
def cut (used : Nat) : Text → List Text
  | [] => [[]]
  | c :: rest =>
    let wide := Unicode.columns c.toNat
    if width < used + wide then [] :: Text.consLine c (cut wide rest)
    else Text.consLine c (cut (used + wide) rest)

/-- Lines in the making: those that are complete, the last first, and the one in hand with its
width. -/
structure Layout where
  complete : List Text := []
  line : Text := []
  used : Nat := 0

namespace Layout

/-- Begins a new line with a word. -/
def breakBefore (layout : Layout) (word : Text) : Layout :=
  ⟨layout.line :: layout.complete, word, word.columns⟩

/-- Puts down a word: in the line in hand if it fits without the blanks after it, in a new line
otherwise. -/
def place (layout : Layout) (word : Text) : Layout :=
  let wide := word.trimEnd.columns
  if layout.used + wide ≤ width then
    { layout with line := layout.line ++ word, used := layout.used + word.columns }
  else if width < wide then
    match cut 0 word with
    | [] => layout
    | piece :: rest =>
      let begun := if layout.line.isEmpty then { layout with line := piece }
        else layout.breakBefore piece
      rest.foldl breakBefore { begun with used := begun.line.columns }
  else layout.breakBefore word

/-- The lines of a layout. -/
def lines (layout : Layout) : List Text := (layout.line :: layout.complete).reverse

end Layout

/-- Takes blanks off the end as far as a line has too many characters. -/
def trimExcess (line : Text) : Text :=
  let blanks := line.length - line.trimEnd.length
  line.take (line.length - min blanks (line.length - width))

/-- Takes off what is beyond the last column; half of a wide character becomes a blank. -/
def crop : Nat → Text → Text
  | _, [] => []
  | left, c :: rest =>
    let wide := Unicode.columns c.toNat
    if wide ≤ left then c :: crop (left - wide) rest else List.replicate left ' '

/-- The lines that one line is broken into. -/
def breakLine (line : Text) : List Text :=
  let line := if line.contains '\t' then expandTabs 0 line else line
  let words := wordsOf line
  let lines := if words.all (·.all Text.isBlank) then [line]
    else (words.foldl Layout.place {}).lines
  lines.map fun line => crop width (trimExcess line)

/-- The lines of a text that line feeds divide. -/
def divide : Text → List Text
  | [] => [[]]
  | '\n' :: rest => [] :: divide rest
  | c :: rest => Text.consLine c (divide rest)

/-- A message, laid out in lines. -/
def message (text : Text) : Text :=
  Text.join ['\n'] ((divide text).flatMap breakLine) ++ ['\n']

end FeedFilter.Console
