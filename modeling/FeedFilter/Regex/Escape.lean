/-
**Escapes: what a backslash introduces.**

* `readCharEscape`: the escapes that stand for a character or a set of characters and are the same
  inside and outside of brackets.
* `readName`: the name or number of a group.
-/

import FeedFilter.Regex.Source
import FeedFilter.Regex.Syntax
import FeedFilter.Unicode.Digit
import FeedFilter.Unicode.Sequence

namespace FeedFilter.Regex

/-- What an escape for characters depends on. -/
structure Manner where
  spaced : Bool
  plainOnly : Bool

/-- How many digits follow the letter of a code point escape. -/
def codePointDigits? : Char → Option Nat
  | 'x' => some 2
  | 'u' => some 4
  | 'U' => some 8
  | _ => none

/-- Reads the digits of a code point. -/
def readCodePoint (manner : Manner) (letter : Char) (count : Nat) (source : Source) :
    Except Refusal (Nat × Source) :=
  let (digits, after) := source.takeUpTo manner.spaced isHexDigit count
  if digits.length < count then
    .error (.invalid ⟨.incompleteEscape letter digits, source.position⟩)
  else if numberOf 16 digits < 0x110000 then .ok (numberOf 16 digits, after)
  else .error (.invalid ⟨.badCodePoint letter digits, source.position⟩)

/-- Reads a code point in base eight, three digits at most, the first of which is read already. -/
def readOctal (manner : Manner) (first : Char) (source : Source) : Except Refusal (Nat × Source) :=
  let (digits, after) := source.takeUpTo manner.spaced isOctalDigit 2
  if isOctalDigit first then .ok (numberOf 8 (first :: digits), after)
  else .error (.invalid ⟨.badEscape first, after.position⟩)

/-- The characters that names of properties consist of. -/
def isNamePart (c : Char) : Bool := c.isAlphanum || [' ', '&', '_', '-', '.'].contains c

/-- Reads the name of a property, which may follow a word for its kind. -/
def readPropertyName (spaced : Bool) (source : Source) : Option Text × Text × Source :=
  let (first, after) := source.takeWhile spaced isNamePart
  match after.next spaced with
  | (some c, second) =>
    if c = ':' || c = '=' then
      let (value, last) := second.takeWhile spaced fun c => isNamePart c || c = '/'
      if value.all (· = ' ') then (none, first, after)
      else (if first.isEmpty then none else some first, Text.trim value, last)
    else (none, first, after)
  | (none, _) => (none, first, after)

/-- The property that is named at a position, with `false` when its opposite is meant. -/
def propertyAt (kind : Option Text) (value : Text) (plainClass : Bool) (position : Nat) :
    Except Refusal (Property × Bool) :=
  if kind.any Property.isInfinite || Property.isInfinite value then .error (.misfit .infinite)
  else match Property.named? kind value plainClass with
    | .ok found => .ok found
    | .error cause => .error (.invalid ⟨cause, position⟩)

/-- Reads a property after `\p` or, for the opposite, `\P`; `none` if none is written there. -/
def readProperty (manner : Manner) (positive : Bool) (source : Source) :
    Except Refusal (Option (CharSet × Source)) :=
  match source.next manner.spaced with
  | (some '\x7b', inner) =>
    let (positive, inner) :=
      match inner.accept? manner.spaced ['^'] with
      | some after => (!positive, after)
      | none => (positive, inner)
    let (kind, value, after) := readPropertyName manner.spaced inner
    match after.accept? manner.spaced ['\x7d'] with
    | none => .ok none
    | some last =>
      match propertyAt kind value false last.position with
      | .ok (property, holds) =>
        .ok (some (.property property (positive == holds) manner.plainOnly, last))
      | .error refusal => .error refusal
  | (some c, after) =>
    if ['C', 'L', 'M', 'N', 'P', 'S', 'Z'].contains c then
      match propertyAt none [c] false after.position with
      | .ok (property, holds) =>
        .ok (some (.property property (positive == holds) manner.plainOnly, after))
      | .error refusal => .error refusal
    else .ok none
  | (none, _) => .ok none

/-- The sets that a letter after a backslash stands for. -/
def classNamed? (plainOnly : Bool) : Char → Option CharSet
  | 'd' => some (.property (.category ["Nd"]) true plainOnly)
  | 'D' => some (.property (.category ["Nd"]) false plainOnly)
  | 'h' => some (.property .horizontalBlank true plainOnly)
  | 's' => some (.property (.binary "WHITESPACE") true plainOnly)
  | 'S' => some (.property (.binary "WHITESPACE") false plainOnly)
  | 'w' => some (.property .word true plainOnly)
  | 'W' => some (.property .word false plainOnly)
  | _ => none

/-- The control characters that a letter after a backslash stands for. -/
def controlNamed? : Char → Option Nat
  | 'a' => some 7
  | 'b' => some 8
  | 'f' => some 12
  | 'n' => some 10
  | 'r' => some 13
  | 't' => some 9
  | 'v' => some 11
  | _ => none

/-- Why a name in braces is refused; `none` if no name is written there. Names of single characters
are not known, and those of several characters are names of no character. -/
def nameRefusal? (manner : Manner) (source : Source) : Option Refusal :=
  match source.accept? manner.spaced ['\x7b'] with
  | none => none
  | some inner =>
    let (name, after) := inner.takeWhile false fun c => c.isAlphanum || c = ' ' || c = '-'
    match after.accept? manner.spaced ['\x7d'], Unicode.sequenceLength? name with
    | none, _ => none
    | some _, some length => some (.misfit (.sequence length))
    | some last, none => some (.invalid ⟨.unknownCharacterName, last.position⟩)

/-- Reads an escape that stands for a character or a set of characters. `letter` is the character
after the backslash, and `source` is what follows it. -/
def readCharEscape (manner : Manner) (letter : Char) (source : Source) :
    Except Refusal (CharSet × Source) :=
  match codePointDigits? letter with
  | some count =>
    match readCodePoint manner letter count source with
    | .ok (code, after) => .ok (.char code true, after)
    | .error refusal => .error refusal
  | none =>
    if letter = 'N' then
      match nameRefusal? manner source with
      | some refusal => .error refusal
      | none => .ok (.char letter.toNat true, source)
    else if letter = 'p' || letter = 'P' then
      match readProperty manner (letter = 'p') source with
      | .ok (some found) => .ok found
      | .ok none => .ok (.char letter.toNat true, source)
      | .error refusal => .error refusal
    else if letter.isAlpha then
      match classNamed? manner.plainOnly letter with
      | some members => .ok (members, source)
      | none =>
        match controlNamed? letter with
        | some code => .ok (.char code true, source)
        | none => .error (.invalid ⟨.badEscape letter, source.position⟩)
    else if letter.isDigit then
      match readOctal manner letter source with
      | .ok (code, after) => .ok (.char code true, after)
      | .error refusal => .error refusal
    else .ok (.char letter.toNat true, source)

/-- The number that digits write. No more than so many digits are read as one. -/
def readNumeral (text : Text) : Except Misfit Nat :=
  let decimals := text.takeWhile Unicode.isDecimal
  if Text.longestNumeral < decimals.length then .error (.tooLong decimals.length)
  else if decimals.length < text.length then .error (.notDecimal text)
  else .ok (decimals.foldl
    (fun number c => number * 10 + (Unicode.decimalValue? c).getD 0) 0)

/-- The number that digits write; there may be none. -/
def readCount? (digits : Text) : Except Misfit (Option Nat) :=
  if digits.isEmpty then .ok none else (readNumeral digits).map some

/-- Whether a text is an identifier. -/
def isIdentifier : Text → Bool
  | [] => false
  | c :: rest =>
    (c = '_' || Unicode.xidStart.contains c.toNat) &&
      rest.all fun c => Unicode.xidContinue.contains c.toNat

/-- The name of a group, with its number when it is written as one. -/
structure GroupName where
  text : Text
  number : Option Nat
deriving Repr

/-- Reads the name of a group, which numbers may stand for only where a group is referred to. -/
def readName (spaced numbersToo : Bool) (source : Source) : Except Refusal (GroupName × Source) :=
  let (name, after) := source.takeWhile spaced fun c => c ≠ ')' && c ≠ '>'
  if name.isEmpty then .error (.invalid ⟨.missingName, after.position⟩)
  else if numbersToo && name.all Unicode.isDigit then
    match readNumeral name with
    | .error misfit => .error (.misfit misfit)
    | .ok number =>
      if 0 < number then .ok (⟨name, some number⟩, after)
      else .error (.invalid ⟨.badName, after.position⟩)
  else if isIdentifier name then .ok (⟨name, none⟩, after)
  else .error (.invalid ⟨.badName, after.position⟩)

end FeedFilter.Regex
