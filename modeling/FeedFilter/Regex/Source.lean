/-
**The text of an expression while it is read.**

Where an expression is written with free spacing, blanks and comments between its parts do not
count; every step of a reading says whether that holds.

* `Source.next`: the next character that counts.
* `Source.accept?`: reads given characters, if they are next.
* `Source.takeWhile`: reads characters as long as they satisfy a condition.
-/

import FeedFilter.Regex.Error

namespace FeedFilter.Regex

/-- The unread rest of an expression and the position where it begins. -/
structure Source where
  rest : Text
  position : Nat
deriving Repr

namespace Source

/-- Leaves out blanks, and comments from a number sign to the end of the line. -/
def skipIgnored (inComment : Bool) : Text → Nat → Source
  | [], position => ⟨[], position⟩
  | c :: rest, position =>
    if inComment && c ≠ '\n' then skipIgnored true rest (position + 1)
    else if Text.isBlank c then skipIgnored false rest (position + 1)
    else if c = '#' then skipIgnored true rest (position + 1)
    else ⟨c :: rest, position⟩

/-- The source from the next character that counts. -/
def skip (spaced : Bool) (source : Source) : Source :=
  if spaced then skipIgnored false source.rest source.position else source

/-- The next character and what follows it. -/
def next (spaced : Bool) (source : Source) : Option Char × Source :=
  match (source.skip spaced).rest with
  | [] => (none, source.skip spaced)
  | c :: rest => (some c, ⟨rest, (source.skip spaced).position + 1⟩)

/-- What follows given characters, if they are next. -/
def accept? (spaced : Bool) (source : Source) : List Char → Option Source
  | [] => some source
  | expected :: more =>
    match source.next spaced with
    | (some c, after) => if c = expected then after.accept? spaced more else none
    | (none, _) => none

/-- What follows a character that has to be next. -/
def expect (spaced : Bool) (source : Source) (expected : Char) : Except Refusal Source :=
  match source.accept? spaced [expected] with
  | some after => .ok after
  | none => .error (.invalid ⟨.missing expected, source.position⟩)

/-- The characters that satisfy a condition, up to the first that does not, with free spacing. -/
def takeSpaced (condition : Char → Bool) (inComment : Bool) : Text → Nat → Text × Source
  | [], position => ([], ⟨[], position⟩)
  | c :: rest, position =>
    if inComment && c ≠ '\n' then takeSpaced condition true rest (position + 1)
    else if Text.isBlank c then takeSpaced condition false rest (position + 1)
    else if c = '#' then takeSpaced condition true rest (position + 1)
    else if condition c then
      let (taken, after) := takeSpaced condition false rest (position + 1)
      (c :: taken, after)
    else ([], ⟨c :: rest, position⟩)

/-- The characters that satisfy a condition, up to the first that does not. -/
def takeWhile (spaced : Bool) (source : Source) (condition : Char → Bool) : Text × Source :=
  if spaced then takeSpaced condition false source.rest source.position
  else
    let taken := source.rest.takeWhile condition
    (taken, ⟨source.rest.dropWhile condition, source.position + taken.length⟩)

/-- The next characters as far as they satisfy a condition, at most as many as asked for. -/
def takeUpTo (spaced : Bool) (condition : Char → Bool) : Nat → Source → Text × Source
  | 0, source => ([], source)
  | count + 1, source =>
    match source.next spaced with
    | (some c, after) =>
      if condition c then
        let (taken, last) := after.takeUpTo spaced condition count
        (c :: taken, last)
      else ([], source)
    | (none, _) => ([], source)

end Source

/-- The number that digits of a base write. -/
def numberOf (base : Nat) (digits : Text) : Nat :=
  digits.foldl
    (fun number c =>
      number * base +
        (if c.isDigit then c.toNat - '0'.toNat else (c.toLower.toNat - 'a'.toNat) + 10)) 0

/-- Whether a character is a digit in base sixteen. -/
def isHexDigit (c : Char) : Bool :=
  c.isDigit || ('a' ≤ c && c ≤ 'f') || ('A' ≤ c && c ≤ 'F')

/-- Whether a character is a digit in base eight. -/
def isOctalDigit (c : Char) : Bool := '0' ≤ c && c ≤ '7'

end FeedFilter.Regex
