/-
**Flags of a regular expression.**

A flag changes how an expression is read or matched. A set of flags is a predicate, so sets with the
same members are equal.

* `Flag.ofLetter?`: the letters by which an expression itself sets flags.
* `Flags.missing`: how many flags a set lacks, which bounds the restarts of a reading.
-/

import FeedFilter.Text.Basic

namespace FeedFilter.Regex

/-- What can be set for an expression or a part of it. -/
inductive Flag where
  | ascii
  | bestMatch
  | enhancedMatch
  | fullCase
  | ignoreCase
  | localeDependent
  | multiline
  | longestMatch
  | backwards
  | dotAll
  | unicode
  | version0
  | version1
  | defaultWords
  | spaced
deriving DecidableEq, Repr

namespace Flag

/-- All flags. -/
def all : List Flag :=
  [ascii, bestMatch, enhancedMatch, fullCase, ignoreCase, localeDependent, multiline, longestMatch,
   backwards, dotAll, unicode, version0, version1, defaultWords, spaced]

/-- The flag that a letter sets inside an expression. The versions take a digit after their letter
and are not among these. -/
def ofLetter? : Char → Option Flag
  | 'a' => some ascii
  | 'b' => some bestMatch
  | 'e' => some enhancedMatch
  | 'f' => some fullCase
  | 'i' => some ignoreCase
  | 'L' => some localeDependent
  | 'm' => some multiline
  | 'p' => some longestMatch
  | 'r' => some backwards
  | 's' => some dotAll
  | 'u' => some unicode
  | 'w' => some defaultWords
  | 'x' => some spaced
  | _ => none

/-- The flags that hold for a whole expression wherever it sets them. -/
def isGlobal : Flag → Bool
  | bestMatch | enhancedMatch | longestMatch | backwards | version0 | version1 => true
  | _ => false

end Flag

/-- A set of flags. -/
abbrev Flags := Flag → Bool

namespace Flags

/-- The set without flags. -/
def none : Flags := fun _ => false

/-- The set of the flags in a list. -/
def ofList (flags : List Flag) : Flags := fun flag => flags.contains flag

/-- The flags in either set. -/
def union (first second : Flags) : Flags := fun flag => first flag || second flag

/-- The flags in the first set and not in the second. -/
def diff (first second : Flags) : Flags := fun flag => first flag && !second flag

/-- The flags in both sets. -/
def inter (first second : Flags) : Flags := fun flag => first flag && second flag

/-- Whether a set has a member. -/
def isAny (flags : Flags) : Bool := Flag.all.any flags

/-- The number of flags a set lacks. -/
def missing (flags : Flags) : Nat := Flag.all.countP fun flag => !flags flag

/-- Whether the reading follows the second version of the language: nested sets and flags that
apply from where they stand. -/
def isSecondVersion (flags : Flags) : Bool := flags .version1 && !flags .version0

/-- Full case folding comes with the second version. -/
def withDefaults (flags : Flags) : Flags :=
  if flags .version1 then flags.union (ofList [.fullCase]) else flags

end Flags

end FeedFilter.Regex
