/-
**Named properties of characters.**

* `Property.holds`: whether a code point has a property.
* `Property.named?`: the property a name stands for, with or without a word that says what kind of
  property is meant. Case, blanks, dashes and underscores in names do not matter.
* `Property.isInfinite`: the names that are read as infinite numbers. A name may be a number or a
  fraction, which is put in its lowest terms before it is looked up.
-/

import FeedFilter.Number.Numeral
import FeedFilter.Regex.Error
import FeedFilter.Unicode.Binary
import FeedFilter.Unicode.Case
import FeedFilter.Unicode.Category
import FeedFilter.Unicode.Script

namespace FeedFilter.Regex

/-- What can be asked of a code point. -/
inductive Property where
  | category (members : List String)
  | script (code : String)
  | binary (name : String)
  | word
  | horizontalBlank
  | alphanumeric
  | graphic
  | printable
  | hexadecimal
  | plainDigit
  | plainAlphanumeric
  | plainPunctuation
  | plainHexadecimal
  | plain
  | any
deriving DecidableEq, Repr

namespace Property

/-- White space: spaces and line breaks. -/
def isSpace (code : Nat) : Bool := Unicode.whiteSpace.contains code

/-- Word characters: letters, marks, digits, connecting punctuation and the two joiners. -/
def isWord (code : Nat) : Bool :=
  Unicode.alphabetic.contains code || Unicode.joinControl.contains code ||
    ["Mn", "Mc", "Me", "Nd", "Pc"].contains (Unicode.category code)

/-- Characters that leave a mark on paper. -/
def isGraphic (code : Nat) : Bool :=
  !isSpace code && !(["Cc", "Cs", "Cn"].contains (Unicode.category code))

/-- Spaces that do not end a line. -/
def isHorizontalBlank (code : Nat) : Bool := code == 9 || Unicode.category code == "Zs"

/-- The plain digits. -/
def isPlainDigit (code : Nat) : Bool := 0x30 ≤ code && code ≤ 0x39

/-- Membership of a code point in the set of a property. -/
def holds : Property → Nat → Bool
  | category members, code => members.contains (Unicode.category code)
  | script name, code => Unicode.script code == name
  | binary name, code =>
    match Unicode.binaryNamed.find? fun entry => entry.1.contains name with
    | some (_, ranges) => ranges.contains code
    | none => false
  | word, code => isWord code
  | horizontalBlank, code => isHorizontalBlank code
  | alphanumeric, code => Unicode.alphabetic.contains code || Unicode.isDecimalDigit code
  | graphic, code => isGraphic code
  | printable, code =>
    (isGraphic code || isHorizontalBlank code) && Unicode.category code != "Cc"
  | hexadecimal, code => Unicode.hexDigit.contains code || Unicode.isDecimalDigit code
  | plainDigit, code => isPlainDigit code
  | plainAlphanumeric, code => Unicode.alphabetic.contains code || isPlainDigit code
  | plainPunctuation, code =>
    (Unicode.category code).startsWith "P" ||
      ((Unicode.category code).startsWith "S" && code < 0x80)
  | plainHexadecimal, code => Unicode.asciiHexDigit.contains code
  | plain, code => code < 0x80
  | any, _ => true

/-- Properties that a name alone stands for. -/
def simplyNamed? : String → Option Property
  | "WORD" => some word
  | "BLANK" => some horizontalBlank
  | "ALNUM" => some alphanumeric
  | "GRAPH" => some graphic
  | "PRINT" => some printable
  | "XDIGIT" => some hexadecimal
  | "ASCII" => some plain
  | "ANY" => some any
  | name =>
    if Unicode.binaryNamed.any fun entry => entry.1.contains name then some (binary name) else none

/-- The classes whose names mean something plainer between `[:` and `:]`. -/
def plainNamed? : String → Option Property
  | "ALNUM" => some plainAlphanumeric
  | "DIGIT" => some plainDigit
  | "PUNCT" => some plainPunctuation
  | "XDIGIT" => some plainHexadecimal
  | _ => none

/-- The general category of a name. -/
def categoryNamed? (name : String) : Option Property :=
  (Unicode.categoriesNamed.find? fun entry => entry.1.contains name).map fun entry =>
    category entry.2

/-- The script of a name. -/
def scriptNamed? (name : String) : Option Property :=
  (Unicode.scriptsNamed.find? fun entry => entry.2.contains name).map fun entry =>
    script entry.1

/-- A name without what does not matter in it. -/
def standardName (name : Text) : String :=
  String.ofList ((name.filter fun c => !(['_', '-', ' '].contains c)).map Char.toUpper)

/-- The number that a name writes: a numeral, or two of them with a slash between them. -/
def numberNamed? (name : Text) : Option Number.Binary64 :=
  match name.dropWhile (· ≠ '/') with
  | [] => Number.Binary64.ofText? name
  | _ :: denominator => do
    let numerator ← Number.Binary64.ofText? (name.takeWhile (· ≠ '/'))
    numerator.divide? (← Number.Binary64.ofText? denominator)

/-- Whether a name is read as an infinite number, a minus in front of it left aside. -/
def isInfinite (name : Text) : Bool :=
  match name with
  | '-' :: unsigned => (numberNamed? unsigned).any Number.Binary64.isInfinite
  | name => (numberNamed? name).any Number.Binary64.isInfinite

/-- The rest of a name after two letters in front of it. -/
def afterFront? (front name : String) : Option String :=
  if front.isPrefixOf name then some (String.ofList (name.toList.drop front.length)) else none

/-- The property a name alone stands for: a category, a script or a property of its own, the last
two also with `IS` in front. -/
def valueNamed? (name : String) : Option Property :=
  categoryNamed? name <|> scriptNamed? name <|> simplyNamed? name <|>
    (afterFront? "IS" name).bind simplyNamed? <|> (afterFront? "IS" name).bind scriptNamed?

/-- Whether a value of a yes-or-no property says yes. -/
def answerNamed? (name : String) : Option Bool :=
  if ["YES", "Y", "TRUE", "T"].contains name then some true
  else if ["NO", "N", "FALSE", "F"].contains name then some false
  else none

/-- The property that a value of a kind of property stands for, with `false` when its opposite is
meant. -/
def qualified (kind value : String) : Except Cause (Property × Bool) :=
  if ["GC", "GENERALCATEGORY"].contains kind then
    if value = "ASSIGNED" then .ok (category ["Cn"], false)
    else match categoryNamed? value with
      | some property => .ok (property, true)
      | none => .error .unknownPropertyValue
  else if ["SC", "SCRIPT"].contains kind then
    match scriptNamed? value with
    | some property => .ok (property, true)
    | none => .error .unknownPropertyValue
  else match simplyNamed? kind with
    | none => .error .unknownProperty
    | some property =>
      match answerNamed? value with
      | some answer => .ok (property, answer)
      | none => .error .unknownPropertyValue

/-- The property that a name stands for, with `false` when its opposite is meant. -/
def named? (kind : Option Text) (value : Text) (plainClass : Bool) :
    Except Cause (Property × Bool) :=
  match kind with
  | some kind => qualified (standardName kind) (standardName value)
  | none =>
    let name := standardName value
    match if plainClass then plainNamed? name else none with
    | some property => .ok (property, true)
    | none =>
      if name = "ASSIGNED" then .ok (category ["Cn"], false)
      else match valueNamed? name with
        | some property => .ok (property, true)
        | none => .error .unknownProperty

end Property

end FeedFilter.Regex
