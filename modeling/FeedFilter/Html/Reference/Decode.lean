/-
**Character references, read.**

* `ofNumber`: the character of a number in running text. Numbers from 128 to 159 are those of an old
  character set, and those of no character, surrogates among them, give a replacement.
* `ofName`: the characters of a name in running text.
* `decode`: the value of an attribute; here a name counts also when more letters follow it.
-/

import FeedFilter.Html.Reference.Table

namespace FeedFilter.Html

/-- The characters of the old character set from 128 to 159, as hexadecimal code points. -/
def oldCharacters : String :=
  "20ac 81 201a 192 201e 2026 2020 2021 2c6 2030 160 2039 152 8d 17d 8f 90 2018 2019 201c 201d 2022
   2013 2014 2dc 2122 161 203a 153 9d 17e 178"

/-- The code point that a number from 128 to 159 stands for. -/
def oldCode? (number : Nat) : Option Nat :=
  if 128 ≤ number && number < 160 then
    (Unicode.items oldCharacters)[number - 128]?.map fun digits =>
      Text.ofHexadecimal digits.toList
  else none

/-- The character in the place of a number that is no character. -/
def replacement : Char := '\uFFFD'

/-- The character of a code point, if it is one. -/
def characterOf (code : Nat) : Char :=
  if code < 0xD800 || (0xE000 ≤ code && code ≤ 0x10FFFF) then Char.ofNat code else replacement

/-- The character of a number in running text. -/
def ofNumber (number : Nat) : Text := [characterOf ((oldCode? number).getD number)]

/-- The characters of a name in running text. A name without a meaning stays. -/
def ofName (name : Text) : Text := (named? name true).getD ('&' :: name)

/-- Numbers of controls and of code points that are no characters. -/
def isUnwanted (number : Nat) : Bool :=
  (1 ≤ number && number ≤ 8) || number = 0x0B || (0x0E ≤ number && number ≤ 0x1F) || number = 0x7F
    || (0xFDD0 ≤ number && number ≤ 0xFDEF) || (0xFFFE ≤ number && 0xFFFE ≤ number % 0x10000)

/-- The characters of a number in an attribute. -/
def ofNumberInAttribute (number : Nat) : Text :=
  if number = 0 then [replacement]
  else
    match oldCode? number with
    | some code => [characterOf code]
    | none =>
      if 0x10FFFF < number then [replacement]
      else if isUnwanted number then []
      else [characterOf number]

/-- The characters of a name in an attribute: its meaning, or that of the longest beginning that
counts without a semicolon, followed by the rest of it. -/
def ofNameInAttribute (name : Text) (closed : Bool) : Text :=
  let written := if closed then name ++ [';'] else name
  let beginning? (length : Nat) : Option Text :=
    if length < 2 then none
    else (named? (written.take length) false).map fun expansion => expansion ++ written.drop length
  match named? name closed with
  | some expansion => expansion
  | none => ((List.range written.length).reverse.findSome? beginning?).getD ('&' :: written)

/-- Takes a semicolon off the front. -/
def afterSemicolon : Text → Bool × Text
  | ';' :: rest => (true, rest)
  | rest => (false, rest)

/-- How long the name of a reference may be. -/
def longestName : Nat := 32

/-- Whether a character may stand in the name of a reference in an attribute. -/
def isNameCharacter (c : Char) : Bool :=
  !(['\t', '\n', '\x0c', ' ', '<', '&', '#', ';'].contains c)

/-- The reference behind an ampersand in an attribute, and what follows it. -/
def attributeReference? (text : Text) : Option (Text × Text) :=
  let number (digits : Text) (value : Nat) (rest : Text) : Option (Text × Text) :=
    if digits.isEmpty then none else some (ofNumberInAttribute value, (afterSemicolon rest).2)
  match text with
  | '#' :: mark :: rest =>
    if mark = 'x' || mark = 'X' then
      let (digits, rest) := rest.span fun c => (Text.hexValue? c).isSome
      number digits (Text.ofHexadecimal digits) rest
    else
      let (digits, rest) := (mark :: rest).span Char.isDigit
      number digits (Text.ofDecimal digits) rest
  | text =>
    let name := (text.take longestName).takeWhile isNameCharacter
    let (closed, rest) := afterSemicolon (text.drop name.length)
    if name.isEmpty then none else some (ofNameInAttribute name closed, rest)

/-- Replaces the references in a text; `fuel` is the length of the text at least. -/
def decodeWith : Nat → Text → Text
  | 0, _ => []
  | _, [] => []
  | fuel + 1, c :: rest =>
    if c = '&' then
      match attributeReference? rest with
      | some (expansion, after) => expansion ++ decodeWith fuel after
      | none => c :: decodeWith fuel rest
    else c :: decodeWith fuel rest

/-- The value of an attribute that is written as a text. -/
def decode (text : Text) : Text := decodeWith text.length text

end FeedFilter.Html
