/-
**Tags, read.**

* `startTag?`: a start tag with its attributes. Values may stand in quotes of either kind or
  without; a quote that is never closed begins a name instead.
* `endTag?`: an end tag; all behind its name is skipped.
-/

import FeedFilter.Html.Reference.Decode
import FeedFilter.Html.Token.Basic
import FeedFilter.Unicode.Lower

namespace FeedFilter.Html

/-- What has been read and what follows it. -/
structure Reading where
  tokens : List Token
  rest : Text
  raw : Option Text := none

/-- A letter that can begin the name of a tag. -/
def isTagLetter (c : Char) : Bool := c.isAlpha

/-- A character that can stand in the name of a tag. -/
def isTagCharacter (c : Char) : Bool :=
  !(['\t', '\n', '\r', '\x0c', ' ', '/', '>', '\x00'].contains c)

/-- A character that can stand in the name of an attribute. -/
def isAttributeCharacter (c : Char) : Bool := !Text.isBlank c && !(['/', '=', '>'].contains c)

/-- A character that can stand in a value without quotes. -/
def isBareCharacter (c : Char) : Bool := !Text.isBlank c && c ≠ '>'

/-- A quote around a value. -/
def isQuote (c : Char) : Bool := c = '"' || c = '\''

/-- A place in a tag: the character before it and the text behind it. -/
structure Place where
  before : Char
  text : Text

namespace Place

/-- Passes blanks, and slashes that do not end a tag. -/
def pass (before : Char) : Text → Place
  | [] => ⟨before, []⟩
  | c :: rest =>
    if Text.isBlank c || (c = '/' && rest.head? ≠ some '>') then pass c rest
    else ⟨before, c :: rest⟩

/-- Whether the name of an attribute begins here. -/
def beginsAttribute (place : Place) : Bool :=
  (isQuote place.before || place.before = '/' || Text.isBlank place.before)
    && match place.text with
      | [] => false
      | c :: _ => !Text.isBlank c && c ≠ '/' && c ≠ '>'

/-- The place behind a piece of text. -/
def behind (place : Place) (piece rest : Text) : Place := ⟨piece.getLastD place.before, rest⟩

/-- A value without quotes, and the place behind it. -/
def bareValue (place : Place) : Text × Place :=
  let (value, rest) := place.text.span isBareCharacter
  (value, place.behind value rest)

/-- The value of an attribute, as it is written, if there is one, and the place behind it. -/
def value (place : Place) : Option Text × Place :=
  let (_, rest) := place.text.span Text.isBlank
  let (signs, rest) := rest.span (· = '=')
  let (blanks, rest) := rest.span Text.isBlank
  let inside : Place := (place.behind signs rest).behind blanks rest
  if signs.isEmpty then (none, place)
  else
    match rest with
    | quote :: more =>
      if !isQuote quote then inside.bareValue.map some id
      else
        let (content, after) := more.span (· ≠ quote)
        match after with
        | _ :: after => (some content, ⟨quote, after⟩)
        | [] =>
          if !blanks.isEmpty then (some [], inside)
          else if 2 ≤ signs.length then (Place.mk '=' ('=' :: rest)).bareValue.map some id
          else (none, place)
    | [] => (some [], inside)

/-- The attributes from a place on, and the place behind them; `fuel` is the length of the text at
least. -/
def attributes : Nat → Place → List Attribute × Place
  | 0, place => ([], place)
  | fuel + 1, place =>
    if place.beginsAttribute then
      let first := place.text.take 1
      let (others, rest) := (place.text.drop 1).span isAttributeCharacter
      let name := first ++ others
      let (value, after) := (place.behind name rest).value
      let (more, last) := attributes fuel (pass after.before after.text)
      ((Text.lower name, decode (value.getD [])) :: more, last)
    else ([], place)

end Place

/-- The elements whose content is not read as markup. -/
def rawElements : List Text := ["script".toList, "style".toList]

/-- Reads a start tag, which begins with an angle bracket and a letter. One that never ends is not
read; one that is broken off by a character out of place is text. -/
def startTag? (text : Text) : Option Reading :=
  let (name, rest) := (text.drop 1).span isTagCharacter
  let begun := Place.pass (name.getLastD '<') rest
  let (attributes, last) := begun.attributes rest.length
  match last.text with
  | '>' :: after =>
    let name := Text.lower name
    some ⟨[.start name attributes false], after,
      if rawElements.contains name then some name else none⟩
  | '/' :: '>' :: after => some ⟨[.start (Text.lower name) attributes true], after, none⟩
  | [] => none
  | c :: _ =>
    if c.isAlpha || c = '=' || c = '/' then none
    else some ⟨[.text (text.take (text.length - last.text.length))], last.text, none⟩

/-- Takes the blanks and then one character off the front. -/
def afterBlanksAnd (c : Char) (text : Text) : Option Text :=
  match text.dropWhile Text.isBlank with
  | [] => none
  | first :: rest => if first = c then some rest else none

/-- A character that can stand in the name of a plain end tag. -/
def isPlainTagCharacter (c : Char) : Bool := c.isAlphanum || ['-', '.', ':', '_'].contains c

/-- A plain end tag: nothing but a name and blanks between the brackets. -/
def plainEndTag? (text : Text) : Option Reading :=
  let inside := (text.drop 2).dropWhile Text.isBlank
  let (name, rest) := inside.span isPlainTagCharacter
  if !isTagLetter (name.headD ' ') then none
  else (afterBlanksAnd '>' rest).map fun after => ⟨[.finish (Text.lower name)], after, none⟩

/-- What stands before a character, and what stands behind it. -/
def cutAt? (c : Char) (text : Text) : Option (Text × Text) :=
  let (before, rest) := text.span (· ≠ c)
  if rest.isEmpty then none else some (before, rest.drop 1)

/-- Reads what begins with an angle bracket and a slash: an end tag, nothing, or a comment. -/
def endTag? (text : Text) : Option Reading :=
  match cutAt? '>' (text.drop 2) with
  | none => none
  | some (inside, after) =>
    match plainEndTag? text with
    | some reading => some reading
    | none =>
      if isTagLetter (inside.headD ' ') then
        some ⟨[.finish (Text.lower (inside.takeWhile isTagCharacter))], after, none⟩
      else if inside.isEmpty then some ⟨[], after, none⟩
      else some ⟨[.remark .comment inside], after, none⟩

end FeedFilter.Html
