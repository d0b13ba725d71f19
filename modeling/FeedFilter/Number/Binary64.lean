/-
**Floating-point numbers of 64 bits.**

A finite number is a natural number times a power of two, with 53 bits at most. Decimal numbers are
read to the nearest one, and written with the fewest digits that are read back.

* `ofDecimal`: the number nearest to a decimal one.
* `shortest`: the fewest digits that give a number back, and the power of ten of the last one.
* `text`: the written form: positional for powers of ten from -5 to 15, else with an exponent.
-/

import FeedFilter.Text.Basic

namespace FeedFilter.Number

/-- A floating-point number of 64 bits. -/
inductive Binary64 where
  | finite (negative : Bool) (mantissa : Nat) (exponent : Int)
  | infinite (negative : Bool)
  | notANumber
deriving DecidableEq, Repr

namespace Binary64

/-- The least exponent. -/
def leastExponent : Int := -1074

/-- The greatest exponent. -/
def greatestExponent : Int := 971

/-- A quotient rounded to the nearest natural number, a half to the even one. -/
def roundQuotient (numerator denominator : Nat) : Nat :=
  let quotient := numerator / denominator
  let twice := 2 * (numerator % denominator)
  if twice < denominator then quotient
  else if denominator < twice then quotient + 1
  else quotient + quotient % 2

/-- A quotient divided by a power of two, rounded. -/
def scaled (numerator denominator : Nat) (exponent : Int) : Nat :=
  if 0 ≤ exponent then roundQuotient numerator (denominator * Nat.pow 2 exponent.toNat)
  else roundQuotient (numerator * Nat.pow 2 (-exponent).toNat) denominator

/-- The number nearest to a quotient. -/
def ofQuotient (negative : Bool) (numerator denominator : Nat) : Binary64 :=
  if numerator = 0 then finite negative 0 0
  else
    let guess : Int := (Nat.log2 numerator : Int) - (Nat.log2 denominator : Int) - 53
    let exponent := max guess leastExponent
    let exponent :=
      if scaled numerator denominator exponent < Nat.pow 2 53 then exponent else exponent + 1
    let exponent :=
      if scaled numerator denominator exponent < Nat.pow 2 53 then exponent else exponent + 1
    let mantissa := scaled numerator denominator exponent
    if greatestExponent < exponent then infinite negative else finite negative mantissa exponent

/-- The number nearest to `digits · 10 ^ power`. -/
def ofDecimal (negative : Bool) (digits : Nat) (power : Int) : Binary64 :=
  let size : Int := (Nat.toDigits 10 digits).length
  if digits = 0 then finite negative 0 0
  else if 400 < size + power then infinite negative
  else if size + power < -400 then finite negative 0 0
  else if 0 ≤ power then ofQuotient negative (digits * Nat.pow 10 power.toNat) 1
  else ofQuotient negative digits (Nat.pow 10 (-power).toNat)

/-- The numerator and the denominator of a finite number without its sign. -/
def quotient (mantissa : Nat) (exponent : Int) : Nat × Nat :=
  if 0 ≤ exponent then (mantissa * Nat.pow 2 exponent.toNat, 1)
  else (mantissa, Nat.pow 2 (-exponent).toNat)

/-- Whether two finite numbers have the same value. -/
def sameValue (mantissa : Nat) (exponent : Int) : Binary64 → Bool
  | finite _ other otherExponent =>
    let (numerator, denominator) := quotient mantissa exponent
    let (otherNumerator, otherDenominator) := quotient other otherExponent
    numerator * otherDenominator == otherNumerator * denominator
  | _ => false

/-- The power of ten of the first digit of a quotient. -/
def firstPower (numerator denominator : Nat) : Int :=
  let guess : Int :=
    (Nat.toDigits 10 numerator).length - (Nat.toDigits 10 denominator).length
  if 0 ≤ guess then
    if numerator < denominator * Nat.pow 10 guess.toNat then guess - 1 else guess
  else
    if numerator * Nat.pow 10 (-guess).toNat < denominator then guess - 1 else guess

/-- The decimal of a count of digits that is nearest to a quotient, if it is read back as the number
it stands for. -/
def candidate? (mantissa : Nat) (exponent : Int) (count : Nat) : Option (Nat × Int) :=
  let (numerator, denominator) := quotient mantissa exponent
  let power := firstPower numerator denominator - (count - 1 : Nat)
  let (numerator, denominator) :=
    if 0 ≤ power then (numerator, denominator * Nat.pow 10 power.toNat)
    else (numerator * Nat.pow 10 (-power).toNat, denominator)
  let nearest := roundQuotient numerator denominator
  let below := numerator / denominator
  let others := if nearest = below then [below, below + 1] else [below + 1, below]
  (others.find? fun digits => sameValue mantissa exponent (ofDecimal false digits power)).map
    fun digits => (digits, power)

/-- The fewest digits that give a number back, and the power of ten of the last one. -/
def shortest (mantissa : Nat) (exponent : Int) : Nat × Int :=
  ((List.range 17).findSome? fun count => candidate? mantissa exponent (count + 1)).getD (0, 0)

/-- Digits without the zeros at their end, which the power takes over. -/
def withoutZeros : Nat → Nat × Int → Nat × Int
  | 0, decimal => decimal
  | fuel + 1, (digits, power) =>
    if digits ≠ 0 && digits % 10 = 0 then withoutZeros fuel (digits / 10, power + 1)
    else (digits, power)

/-- Digits as they are written: positional where the first digit stands for a power of ten from -4
to 15, else with one digit before the point and an exponent of two digits at least. -/
def layOut (digits : Nat) (power : Int) : String :=
  let written := (Nat.toDigits 10 digits)
  let first : Int := power + (written.length - 1 : Nat)
  if -4 ≤ first && first < 16 then
    if 0 ≤ power then String.ofList (written ++ List.replicate power.toNat '0') ++ ".0"
    else if 0 ≤ first then
      String.ofList (written.take (first.toNat + 1)) ++ "."
        ++ String.ofList (written.drop (first.toNat + 1))
    else "0." ++ String.ofList (List.replicate ((-first).toNat - 1) '0' ++ written)
  else
    let point := if written.length = 1 then "" else "." ++ String.ofList (written.drop 1)
    let exponent := Nat.toDigits 10 first.natAbs
    let exponent := if exponent.length = 1 then '0' :: exponent else exponent
    String.ofList (written.take 1) ++ point ++ "e" ++ (if first < 0 then "-" else "+")
      ++ String.ofList exponent

/-- The written form of a number. -/
def text : Binary64 → String
  | notANumber => "nan"
  | infinite negative => if negative then "-inf" else "inf"
  | finite negative mantissa exponent =>
    let sign := if negative then "-" else ""
    if mantissa = 0 then sign ++ "0.0"
    else
      let (digits, power) := withoutZeros 20 (shortest mantissa exponent)
      sign ++ layOut digits power

/-- Whether a number is zero. -/
def isZero : Binary64 → Bool
  | finite _ mantissa _ => mantissa == 0
  | _ => false

/-- The whole part of a finite number. -/
def truncate? : Binary64 → Option Int
  | finite negative mantissa exponent =>
    let (numerator, denominator) := quotient mantissa exponent
    let whole : Int := numerator / denominator
    some (if negative then -whole else whole)
  | _ => none

end Binary64

end FeedFilter.Number
