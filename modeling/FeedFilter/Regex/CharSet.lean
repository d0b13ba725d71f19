/-
**Sets of characters inside an expression.**

* `CharSet.holds`: membership of a code point.
* `CharSet.holdsAlike`: membership when case is ignored. A set holds a code point when it holds one
  of its variants; a single property of one case holds for all three cases.
-/

import FeedFilter.Regex.Property

namespace FeedFilter.Regex

/-- How the operands of a set are put together. -/
inductive SetOperator where
  | union
  | intersection
  | difference
  | symmetricDifference
deriving DecidableEq, Repr

/-- A set of characters as it is written; `positive` is false for the opposite. -/
inductive CharSet where
  | char (code : Nat) (positive : Bool)
  | range (first last : Nat) (positive : Bool)
  | property (property : Property) (positive plainOnly : Bool)
  | combined (operator : SetOperator) (members : List CharSet) (positive : Bool)
deriving Repr, Inhabited

namespace CharSet

/-- Whether a set is written as itself and not as its opposite. -/
def isPositive : CharSet → Bool
  | char _ positive => positive
  | range _ _ positive => positive
  | property _ positive _ => positive
  | combined _ _ positive => positive

/-- The opposite of a set. -/
def negate : CharSet → CharSet
  | char code positive => char code !positive
  | range first last positive => range first last !positive
  | property named positive plainOnly => property named (!positive) plainOnly
  | combined operator members positive => combined operator members !positive

/-- Whether a code point has a property; outside the plain characters none has one where only these
count. -/
def hasProperty (named : Property) (plainOnly : Bool) (code : Nat) : Bool :=
  (!plainOnly || code < 0x80) && named.holds code

mutual

/-- Membership in what is written, an opposite left aside. -/
def holdsWritten : CharSet → Nat → Bool
  | char expected _, code => expected == code
  | range first last _, code => first ≤ code && code ≤ last
  | property named _ plainOnly, code => hasProperty named plainOnly code
  | combined .union members _, code => anyHolds members code
  | combined .intersection members _, code => allHold members code
  | combined .difference members _, code => firstOnlyHolds members code
  | combined .symmetricDifference members _, code => oddHold members code

/-- Whether one of some sets holds a code point. -/
def anyHolds : List CharSet → Nat → Bool
  | [], _ => false
  | first :: rest, code => (holdsWritten first code == first.isPositive) || anyHolds rest code

/-- Whether all of some sets hold a code point. -/
def allHold : List CharSet → Nat → Bool
  | [], _ => true
  | first :: rest, code => (holdsWritten first code == first.isPositive) && allHold rest code

/-- Whether of some sets only the first holds a code point. -/
def firstOnlyHolds : List CharSet → Nat → Bool
  | [], _ => false
  | first :: rest, code => (holdsWritten first code == first.isPositive) && !anyHolds rest code

/-- Whether an odd number of some sets holds a code point. -/
def oddHold : List CharSet → Nat → Bool
  | [], _ => false
  | first :: rest, code => (holdsWritten first code == first.isPositive) != oddHold rest code

end

/-- Membership of a code point. -/
def holds (set : CharSet) (code : Nat) : Bool := holdsWritten set code == set.isPositive

/-- Whether a set holds one of the variants of a code point, an opposite applied last. -/
def holdsVariant (variants : List Nat) (set : CharSet) : Bool :=
  variants.any (holdsWritten set) == set.isPositive

/-- Membership when case is ignored, given the variants of the code point. -/
def holdsAlike (set : CharSet) (variants : List Nat) (code : Nat) : Bool :=
  match set with
  | property (.category [letters]) positive plainOnly =>
    (if ["Lu", "Ll", "Lt"].contains letters && !plainOnly then Unicode.isCasedLetter code
      else hasProperty (.category [letters]) plainOnly code) == positive
  | property (.binary name) positive plainOnly =>
    (if ["UPPERCASE", "UPPER", "LOWERCASE", "LOWER"].contains name && !plainOnly then
        Unicode.cased.contains code
      else hasProperty (.binary name) plainOnly code) == positive
  | property named positive plainOnly => hasProperty named plainOnly code == positive
  | combined .union members positive => members.any (holdsVariant variants) == positive
  | combined .intersection members positive => members.all (holdsVariant variants) == positive
  | combined .difference members positive =>
    (match members with
      | [] => false
      | first :: rest => holdsVariant variants first && !rest.any (holdsVariant variants))
      == positive
  | combined .symmetricDifference members positive =>
    members.foldl (fun odd member => odd != holdsVariant variants member) false == positive
  | set => holdsVariant variants set

end CharSet

end FeedFilter.Regex
