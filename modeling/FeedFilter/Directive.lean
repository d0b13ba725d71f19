/-
**Directives: one rule of a document.**

A directive is one line. `!` in front keeps what the rest matches, `$react` and blanks in front look
at who reacted and not at the post, and the rest is `/body/flags` or a literal word.

* `Form.ofLine`: the parts of a line.
* `Matcher.compile`: the expression of the rest of a line.
* `Directive.compile`: the directive of a line, or why it has none.
-/

import FeedFilter.LiteralWord
import FeedFilter.Text.Quoted

namespace FeedFilter

/-- Why a line is no directive. -/
inductive DirectiveError where
  | empty
  | repeatedFlag (letters : Text)
  | exclusiveFlags
  | unsupportedFlag (letter : Char)
  | invalidRegex (error : Regex.Error)
deriving DecidableEq, Repr

/-- The wording of an error. -/
def DirectiveError.message : DirectiveError → String
  | empty => "empty directive"
  | repeatedFlag letters => "repeated regex flag in " ++ (Text.quote letters).toString
  | exclusiveFlags => "regex flags u and v are mutually exclusive"
  | unsupportedFlag letter => "unsupported regex flag " ++ (Text.quote [letter]).toString
  | invalidRegex error => "invalid regex: " ++ error.message

/-- Why a line does not compile: it is no directive, or its expression breaks down. -/
inductive DirectiveFailure where
  | invalid (error : DirectiveError)
  | breakdown (breakdown : Regex.Breakdown)
deriving DecidableEq, Repr

/-- What a directive looks for: an expression, with the text it was written as. -/
structure Matcher where
  source : Text
  regex : Regex

namespace Matcher

/-- The last slash of a text cuts it in two. -/
def splitAtLastSlash? (text : Text) : Option (Text × Text) :=
  let back := text.reverse
  match back.dropWhile (· ≠ '/') with
  | [] => none
  | _ :: front => some (front.reverse, (back.takeWhile (· ≠ '/')).reverse)

/-- Whether a letter may follow the closing slash of an expression. -/
def isFlagLetter (c : Char) : Bool := 'a' ≤ c && c ≤ 'z'

/-- The body and the flag letters of a text written as `/body/flags`. The body is not empty and has
no line feed in it. -/
def literal? (text : Text) : Option (Text × Text) :=
  match text with
  | '/' :: rest =>
    match splitAtLastSlash? rest with
    | some (body, letters) =>
      if !body.isEmpty && !body.contains '\n' && letters.all isFlagLetter then some (body, letters)
      else none
    | none => none
  | _ => none

/-- What a letter changes: a flag of the expression, or nothing that a search can show. -/
def flagOfLetter? : Char → Option (Option Regex.Flag)
  | 'i' => some (some .ignoreCase)
  | 'm' => some (some .multiline)
  | 's' => some (some .dotAll)
  | 'v' => some (some .version1)
  | 'u' | 'g' | 'y' | 'd' => some none
  | _ => none

/-- Whether a letter stands twice in a list. -/
def hasRepeat : Text → Bool
  | [] => false
  | c :: rest => rest.contains c || hasRepeat rest

/-- The flags that letters set. A repeated letter is found first, then `u` together with `v`, then a
letter that means nothing. -/
def flagsOfLetters (letters : Text) : Except DirectiveError (List Regex.Flag) :=
  if hasRepeat letters then .error (.repeatedFlag letters)
  else if letters.contains 'u' && letters.contains 'v' then .error .exclusiveFlags
  else match letters.find? fun letter => (flagOfLetter? letter).isNone with
    | some letter => .error (.unsupportedFlag letter)
    | none => .ok (letters.filterMap fun letter => (flagOfLetter? letter).join)

/-- An expression out of a reading that may fail. -/
def ofRegex (source : Text) : Except Regex.Failure Regex → Except DirectiveFailure Matcher
  | .ok regex => .ok ⟨source, regex⟩
  | .error (.invalid error) => .error (.invalid (.invalidRegex error))
  | .error (.breakdown breakdown) => .error (.breakdown breakdown)

/-- The expression that a text stands for. -/
def compile (text : Text) : Except DirectiveFailure Matcher :=
  match literal? text with
  | some (body, letters) =>
    match flagsOfLetters letters with
    | .ok flags => ofRegex text (Regex.compile flags body)
    | .error error => .error (.invalid error)
  | none =>
    if text.isEmpty then .error (.invalid .empty) else ofRegex text (LiteralWord.regex text)

end Matcher

/-- One rule: what it looks for, whether it looks at who reacted, and whether it keeps a post. -/
structure Directive where
  keeps : Bool
  byReactor : Bool
  matcher : Matcher

namespace Directive

/-- The parts of a line: the two marks in front, and the rest. -/
structure Form where
  keeps : Bool
  byReactor : Bool
  rest : Text
deriving DecidableEq, Repr

/-- The mark of a directive that keeps what it matches. -/
def keepMark : Text := ['!']

/-- The mark of a directive that looks at who reacted; blanks have to follow it. -/
def reactorMark : Text := "$react".toList

/-- Whether a character counts as a blank after the mark. -/
def isSpace (c : Char) : Bool := Regex.Property.isSpace c.toNat

/-- The rest of a text after the mark of a reactor and all blanks behind it. -/
def afterReactor? (text : Text) : Option Text :=
  if text.startsWith reactorMark then
    match text.drop reactorMark.length with
    | c :: rest => if isSpace c then some (rest.dropWhile isSpace) else none
    | [] => none
  else none

/-- The rest of a line after the mark of a directive that keeps, if it has one. -/
def afterKeep? : Text → Option Text
  | '!' :: rest => some rest
  | _ => none

/-- The parts of a line. -/
def Form.ofLine (line : Text) : Form :=
  let unmarked := (afterKeep? line).getD line
  let reactor := afterReactor? unmarked
  ⟨(afterKeep? line).isSome, reactor.isSome, reactor.getD unmarked⟩

/-- The directive of a line, or why it has none. -/
def compile (line : Text) : Except DirectiveFailure Directive :=
  let form := Form.ofLine line
  match Matcher.compile form.rest with
  | .ok matcher => .ok ⟨form.keeps, form.byReactor, matcher⟩
  | .error failure => .error failure

end Directive

end FeedFilter
