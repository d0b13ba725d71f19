/-
**Why an expression cannot be read.**

* `Cause.message`: the wording of each cause.
* `Error`: a cause and the position it is reported at.
* `Conflict`, `Misfit`: flags that exclude each other, and a part of an expression that nothing can
  be made of where it stands. Neither is told apart as a fault of the notation: each is a
  `Breakdown`, which stops whatever reads the expression.
-/

import FeedFilter.Text.Quoted

namespace FeedFilter.Regex

/-- What is wrong with the notation. -/
inductive Cause where
  | missing (expected : Char)
  | unbalancedParenthesis
  | unterminatedSet
  | badRange
  | nothingToRepeat
  | multipleRepeat
  | reversedRepeat
  | repeatTooBig
  | escapeAtEnd
  | badEscape (letter : Char)
  | incompleteEscape (letter : Char) (digits : Text)
  | badCodePoint (letter : Char) (digits : Text)
  | invalidReference
  | openReference
  | unknownGroup
  | missingName
  | badName
  | unknownExtension
  | unknownVerb
  | lookaroundExpected
  | noFlagsToTurnOff
  | globalFlagTurnedOff
  | flagsTurnedOff
  | flagOnAndOff
  | unknownProperty
  | unknownPropertyValue
  | unknownCharacterName
  | unknownList
  | approximationUnclosed
  | badBound
  | repeatedWeight
  | secondSum
  | setExpected
  | nothingToBound
deriving DecidableEq, Repr

/-- The wording of a cause. -/
def Cause.message : Cause → String
  | missing expected => "missing " ++ String.singleton expected
  | unbalancedParenthesis => "unbalanced parenthesis"
  | unterminatedSet => "unterminated character set"
  | badRange => "bad character range"
  | nothingToRepeat => "nothing to repeat"
  | multipleRepeat => "multiple repeat"
  | reversedRepeat => "min repeat greater than max repeat"
  | repeatTooBig => "repeat count too big"
  | escapeAtEnd => "bad escape (end of pattern)"
  | badEscape letter => "bad escape \\" ++ String.singleton letter
  | incompleteEscape letter digits =>
    "incomplete escape \\" ++ String.singleton letter ++ String.ofList digits
  | badCodePoint letter digits =>
    "bad hex escape \\" ++ String.singleton letter ++ String.ofList digits
  | invalidReference => "invalid group reference"
  | openReference => "cannot refer to an open group"
  | unknownGroup => "unknown group"
  | missingName => "missing group name"
  | badName => "bad character in group name"
  | unknownExtension => "unknown extension"
  | unknownVerb => "unknown verb"
  | lookaroundExpected => "expected lookaround conditional"
  | noFlagsToTurnOff => "bad inline flags: no flags after '-'"
  | globalFlagTurnedOff => "bad inline flags: cannot turn off global flag"
  | flagsTurnedOff => "bad inline flags: cannot turn flags off"
  | flagOnAndOff => "bad inline flags: flag turned on and off"
  | unknownProperty => "unknown property"
  | unknownPropertyValue => "unknown property value"
  | unknownCharacterName => "undefined character name"
  | unknownList => "undefined named list"
  | approximationUnclosed => "expected \x7d"
  | badBound => "bad fuzzy cost limit"
  | repeatedWeight => "repeated fuzzy cost"
  | secondSum => "more than one cost equation"
  | setExpected => "expected character set"
  | nothingToBound => "nothing for fuzzy constraint"

/-- A cause at a position, counted in code points of the expression. -/
structure Error where
  cause : Cause
  position : Nat
deriving DecidableEq, Repr

/-- The wording of an error. -/
def Error.message (error : Error) : String :=
  error.cause.message ++ " at position " ++ toString error.position

/-- Flags that cannot hold together. -/
inductive Conflict where
  | versions
  | encodings
deriving DecidableEq, Repr

/-- The wording of a conflict. -/
def Conflict.message : Conflict → String
  | versions => "VERSION0 and VERSION1 flags are mutually incompatible"
  | encodings => "ASCII, LOCALE and UNICODE flags are mutually incompatible"

/-- What nothing can be made of: digits that are not all decimal, too many of them, none where there
have to be some, the name of an infinite number, the name of several characters, bounds that there
is no code for, and the call of a group that is left out. -/
inductive Misfit where
  | notDecimal (text : Text)
  | tooLong (digits : Nat)
  | missing
  | infinite
  | sequence (length : Nat)
  | noCode
  | leftOut (group : Nat)
deriving DecidableEq, Repr

/-- The wording for a text that is no number; two hundred characters of it are shown at most. -/
def notNumber (text : Text) : String :=
  "invalid literal for int() with base 10: " ++ String.ofList ((Text.quote text).take 200)

/-- The wording for what nothing can be made of. -/
def Misfit.message : Misfit → String
  | notDecimal text => notNumber text
  | tooLong digits => Text.tooLongNumeral digits
  | missing => notNumber []
  | infinite => "cannot convert float infinity to integer"
  | sequence length =>
    "ord() expected a character, but string of length " ++ toString length ++ " found"
  | noCode => "invalid RE code"
  | leftOut group => toString group

/-- Why a part of an expression cannot be read. -/
inductive Refusal where
  | invalid (error : Error)
  | misfit (fault : Misfit)
deriving DecidableEq, Repr

/-- What stops whatever reads an expression. -/
inductive Breakdown where
  | conflict (flags : Conflict)
  | misfit (fault : Misfit)
deriving DecidableEq, Repr

/-- The wording of a breakdown. -/
def Breakdown.message : Breakdown → String
  | conflict flags => flags.message
  | misfit fault => fault.message

/-- Why an expression does not compile. -/
inductive Failure where
  | invalid (error : Error)
  | breakdown (breakdown : Breakdown)
deriving DecidableEq, Repr

/-- What a refusal of a part means for the whole. -/
def Refusal.failure : Refusal → Failure
  | invalid error => .invalid error
  | misfit fault => .breakdown (.misfit fault)

end FeedFilter.Regex
