/-
**A page as tokens.**

A page is read twice: first as far as it can be understood, and then what is left of it, with its
end known. What is never understood is text; the content of a script or a style that never ends is
lost.

* `Token.ofText`: the tokens of a page.
-/

import FeedFilter.Html.Token.Remark

namespace FeedFilter.Html

/-- What one step of reading gives: tokens, the rest, the element whose raw content follows, and
whether reading goes on. -/
structure Step where
  tokens : List Token
  rest : Text
  raw : Option Text
  goesOn : Bool

namespace Step

/-- A step that reading goes on after. -/
def next (reading : Reading) : Step := ⟨reading.tokens, reading.rest, reading.raw, true⟩

/-- A step that reading ends with. -/
def last (tokens : List Token) (rest : Text) : Step := ⟨tokens, rest, none, false⟩

/-- A step with a text before it. -/
def behind (step : Step) (content : Text) : Step :=
  if content.isEmpty then step else { step with tokens := .text content :: step.tokens }

end Step

/-- The end of an element whose content is raw. -/
def rawEnd? (name : Text) : Text → Option Text
  | '<' :: '/' :: rest =>
    let inside := rest.dropWhile Text.isBlank
    if Text.lower (inside.take name.length) = name then afterBlanksAnd '>' (inside.drop name.length)
    else none
  | _ => none

/-- Reads raw content up to its end. -/
def rawStep (name text : Text) : Step :=
  match cutWhere? (rawEnd? name) text with
  | some (before, after) => (Step.next ⟨[.finish name], after, none⟩).behind before
  | none => ⟨[], text, some name, false⟩

/-- What an angle bracket that begins nothing is taken with: all up to the next closing bracket, or
up to the next opening one, or nothing. -/
def unreadable (text : Text) : Reading :=
  match cutAt? '>' (text.drop 1) with
  | some (inside, after) => ⟨[.text (text.take 1 ++ inside ++ ['>'])], after, none⟩
  | none =>
    let (inside, rest) := (text.drop 1).span (· ≠ '<')
    if rest.isEmpty then ⟨[.text (text.take 1)], text.drop 1, none⟩
    else ⟨[.text (text.take 1 ++ inside)], rest, none⟩

/-- Reads what begins with an angle bracket. -/
def bracketStep (final : Bool) (text : Text) : Except Rejection Step := do
  let reading? (reading : Option Reading) : Step :=
    match reading with
    | some reading => .next reading
    | none => if final then .next (unreadable text) else .last [] text
  match text.drop 1 with
  | [] => return .last [] text
  | c :: rest =>
    if isTagLetter c then return reading? (startTag? text)
    else if c = '/' then return reading? (endTag? text)
    else if c = '!' || c = '?' then return reading? (← remark? text)
    else return .next ⟨[.text (text.take 1)], c :: rest, none⟩

/-- The number of a reference behind an ampersand and a number sign, and what follows it. A digit of
the wrong kind must not follow. -/
def numberReference? (text : Text) : Option (Nat × Text) :=
  let ended (digits : Text) (number : Nat) (rest : Text) : Option (Nat × Text) :=
    match rest with
    | [] => none
    | c :: _ =>
      if digits.isEmpty || (Text.hexValue? c).isSome then none
      else some (number, (afterSemicolon rest).2)
  match text with
  | mark :: rest =>
    if mark = 'x' || mark = 'X' then
      let (digits, rest) := rest.span fun c => (Text.hexValue? c).isSome
      ended digits (Text.ofHexadecimal digits) rest
    else
      let (digits, rest) := (mark :: rest).span Char.isDigit
      ended digits (Text.ofDecimal digits) rest
  | [] => none

/-- A character that can stand in the name of a reference. -/
def isReferenceCharacter (c : Char) : Bool := c.isAlphanum || c = '-' || c = '.'

/-- The name of a reference behind an ampersand, and what follows it. At the end of the text only
what stands before its last hyphen or point can be a name. -/
def nameReference? (text : Text) : Option (Text × Text) :=
  if !isTagLetter (text.headD ' ') then none
  else
    let (name, rest) := text.span isReferenceCharacter
    if !rest.isEmpty then some (name, (afterSemicolon rest).2)
    else
      let shorter := (name.reverse.dropWhile Char.isAlphanum).drop 1
      if shorter.isEmpty then none else some (shorter.reverse, text.drop shorter.length)

/-- Reads what begins with an ampersand and a number sign. -/
def numberStep (text : Text) : Step :=
  match numberReference? (text.drop 2) with
  | some (number, rest) => .next ⟨[.text (ofNumber number)], rest, none⟩
  | none =>
    if text.contains ';' then .last [.text (text.take 2)] (text.drop 2) else .last [] text

/-- Reads what begins with an ampersand. A single letter behind it at the end of the page loses it.
-/
def ampersandStep (final : Bool) (text : Text) : Step :=
  match text.drop 1 with
  | [] => .last [] text
  | c :: rest =>
    if c = '#' then numberStep text
    else
      match nameReference? (c :: rest) with
      | some (name, after) => .next ⟨[.text (ofName name)], after, none⟩
      | none =>
        if !isTagLetter c then .next ⟨[.text (text.take 1)], c :: rest, none⟩
        else if final && rest.isEmpty then .last [] [c]
        else .last [] text

/-- Reads up to the next bracket or ampersand, and what begins with it. -/
def plainStep (final : Bool) (text : Text) : Except Rejection Step := do
  let (before, rest) := text.span fun c => c ≠ '<' && c ≠ '&'
  match rest with
  | [] => return (Step.last [] []).behind before
  | c :: _ =>
    let step ← if c = '<' then bracketStep final rest else .ok (ampersandStep final rest)
    return step.behind before

/-- Reads as far as possible; `fuel` is more than the length of the text. -/
def scanWith (final : Bool) : Nat → Option Text → Text → Except Rejection Step
  | 0, raw, text => .ok ⟨[], text, raw, false⟩
  | fuel + 1, raw, text => do
    if text.isEmpty then return ⟨[], text, raw, false⟩
    let step ← match raw with
      | some name => .ok (rawStep name text)
      | none => plainStep final text
    if !step.goesOn then return step
    let others ← scanWith final fuel step.raw step.rest
    return { others with tokens := step.tokens ++ others.tokens }

/-- Reads a text as far as possible. -/
def scan (final : Bool) (raw : Option Text) (text : Text) : Except Rejection Step :=
  scanWith final (text.length + 1) raw text

/-- The tokens of a page. -/
def Token.ofText (text : Text) : Except Rejection (List Token) := do
  let first ← scan false none text
  let second ← scan true first.raw first.rest
  let left := if second.raw.isNone && !second.rest.isEmpty then [Token.text second.rest] else []
  return first.tokens ++ second.tokens ++ left

end FeedFilter.Html
