/-
**Numbers as people write them.**

A number has a sign, digits with a point among them and an exponent, of which only the digits have
to be there. An underscore may stand between two digits. Infinity and what is no number are words.

* `Binary64.ofText?`: the number that a text writes.
* `Binary64.divide?`: the quotient of two numbers.
-/

import FeedFilter.Number.Binary64

namespace FeedFilter.Number

/-- A numeral without its underscores; `none` if one of them is not between digits. -/
def withoutMarks? (afterDigit : Bool) : Text → Option Text
  | [] => some []
  | c :: rest =>
    if c = '_' then
      if afterDigit && rest.head?.any Char.isDigit then withoutMarks? false rest else none
    else (withoutMarks? c.isDigit rest).map (c :: ·)

/-- Splits a sign off the front of a numeral, with `true` for the negative one. -/
def splitSign : Text → Bool × Text
  | '-' :: rest => (true, rest)
  | '+' :: rest => (false, rest)
  | text => (false, text)

/-- Splits digits with a point among them off the front of a numeral: the digits before the point,
those behind it, and the rest. -/
def splitDigits (text : Text) : Text × Text × Text :=
  let whole := text.takeWhile Char.isDigit
  match text.dropWhile Char.isDigit with
  | '.' :: rest => (whole, rest.takeWhile Char.isDigit, rest.dropWhile Char.isDigit)
  | rest => (whole, [], rest)

/-- The exponent that ends a numeral, zero if there is none. -/
def exponent? : Text → Option Int
  | [] => some 0
  | e :: rest =>
    let (negative, digits) := splitSign rest
    if e.toLower = 'e' && !digits.isEmpty && digits.all Char.isDigit then
      some (if negative then -(Text.ofDecimal digits : Int) else Text.ofDecimal digits)
    else none

namespace Binary64

/-- The number that a numeral without a sign writes. -/
def ofUnsigned? (negative : Bool) (text : Text) : Option Binary64 :=
  let word := String.ofList (text.map Char.toLower)
  if ["inf", "infinity"].contains word then some (infinite negative)
  else if word = "nan" then some notANumber
  else
    let (whole, fraction, rest) := splitDigits text
    if (whole ++ fraction).isEmpty then none
    else (exponent? rest).map fun power =>
      ofDecimal negative (Text.ofDecimal (whole ++ fraction)) (power - fraction.length)

/-- The number that a text writes, with blanks around it. -/
def ofText? (text : Text) : Option Binary64 :=
  (withoutMarks? false text.trim).bind fun numeral =>
    let (negative, unsigned) := splitSign numeral
    ofUnsigned? negative unsigned

/-- The quotient of two numbers; `none` if the second is zero. -/
def divide? : Binary64 → Binary64 → Option Binary64
  | _, finite _ 0 _ => none
  | finite negative mantissa exponent, finite otherNegative other otherExponent =>
    let shift := exponent - otherExponent
    some (ofQuotient (negative != otherNegative) (mantissa * Nat.pow 2 shift.toNat)
      (other * Nat.pow 2 (-shift).toNat))
  | finite negative _ _, infinite otherNegative => some (finite (negative != otherNegative) 0 0)
  | infinite negative, finite otherNegative _ _ => some (infinite (negative != otherNegative))
  | _, _ => some notANumber

/-- Whether a number is infinite. -/
def isInfinite : Binary64 → Bool
  | infinite _ => true
  | _ => false

end Binary64

end FeedFilter.Number
