/-
**Reading structured values.**

The notation is strict: no comments, no commas at the end, no control characters in texts. Beyond it
`NaN`, `Infinity` and `-Infinity` are numbers, and of fields with the same key the last one counts.
A whole number may have no more than `Text.longestNumeral` digits. An escape of a lone surrogate is
read as the replacement character.

* `Json.read`: the value of a text, or the first thing that is wrong and where.
* `JsonFault.message`: the wording of what is wrong.
-/

import FeedFilter.Json.Basic

namespace FeedFilter

/-- What is wrong with a text that is no value. -/
inductive JsonFault where
  | valueExpected
  | nameExpected
  | colonExpected
  | commaExpected
  | extraData
  | unterminatedText
  | controlCharacter
  | badEscape
  | badCodeUnit
  | byteOrderMark
  | numeralTooLong (digits : Nat)
deriving DecidableEq, Repr

/-- The wording of a fault. -/
def JsonFault.message : JsonFault → String
  | valueExpected => "Expecting value"
  | nameExpected => "Expecting property name enclosed in double quotes"
  | colonExpected => "Expecting ':' delimiter"
  | commaExpected => "Expecting ',' delimiter"
  | extraData => "Extra data"
  | unterminatedText => "Unterminated string starting at"
  | controlCharacter => "Invalid control character at"
  | badEscape => "Invalid \\escape"
  | badCodeUnit => "Invalid \\uXXXX escape"
  | byteOrderMark => "Unexpected UTF-8 BOM (decode using utf-8-sig)"
  | numeralTooLong digits => Text.tooLongNumeral digits

/-- A fault and its position. -/
structure JsonError where
  fault : JsonFault
  position : Nat
deriving DecidableEq, Repr

/-- The wording of an error with the line and the column of its position in a text. -/
def JsonError.message (error : JsonError) (text : Text) : String :=
  let front := text.take error.position
  let line := front.count '\n' + 1
  let column := (front.reverse.takeWhile (· ≠ '\n')).length + 1
  error.fault.message ++ ": line " ++ toString line ++ " column " ++ toString column ++ " (char "
    ++ toString error.position ++ ")"

namespace Json

/-- What is left of a text, and its position. -/
structure Rest where
  text : Text
  position : Nat

namespace Rest

/-- The rest after some characters. -/
def drop (rest : Rest) (count : Nat) : Rest := ⟨rest.text.drop count, rest.position + count⟩

/-- Whether a character separates parts of a value. -/
def isSeparator (c : Char) : Bool := c = ' ' || c = '\t' || c = '\n' || c = '\r'

/-- The rest after blanks. -/
def skip (rest : Rest) : Rest :=
  rest.drop (rest.text.takeWhile isSeparator).length

/-- An error at the front of the rest. -/
def fail {Value : Type} (rest : Rest) (fault : JsonFault) : Except JsonError Value :=
  .error ⟨fault, rest.position⟩

end Rest

/-- The code unit that four hexadecimal digits write. -/
def codeUnit? : Text → Option Nat
  | [a, b, c, d] => do
    let a ← Text.hexValue? a
    let b ← Text.hexValue? b
    let c ← Text.hexValue? c
    let d ← Text.hexValue? d
    return a * 4096 + b * 256 + c * 16 + d
  | _ => none

/-- The character that a letter after a backslash stands for. -/
def escaped? : Char → Option Char
  | '"' => some '"'
  | '\\' => some '\\'
  | '/' => some '/'
  | 'b' => some '\x08'
  | 'f' => some '\x0c'
  | 'n' => some '\n'
  | 'r' => some '\r'
  | 't' => some '\t'
  | _ => none

/-- The character of two halves, if they are halves of one. -/
def joinHalves? (first second : Nat) : Option Char :=
  if 0xD800 ≤ first && first < 0xDC00 && 0xDC00 ≤ second && second < 0xE000 then
    some (Char.ofNat (0x10000 + (first - 0xD800) * 0x400 + (second - 0xDC00)))
  else none

/-- The character of a code unit that is none half; a half alone has no character of its own. -/
def unitChar (code : Nat) : Char :=
  if 0xD800 ≤ code && code < 0xE000 then '\ufffd' else Char.ofNat code

/-- Reads the code unit after `\u` and, if it is a first half, the second half after it. Something
has to follow the digits, because a text ends with a quote. -/
def readCodeUnit (rest : Rest) : Except JsonError (Char × Rest) :=
  if (rest.text.drop 4).isEmpty then .error ⟨.badCodeUnit, rest.position - 1⟩
  else match codeUnit? (rest.text.take 4) with
    | none => .error ⟨.badCodeUnit, rest.position - 1⟩
    | some first =>
      let after := rest.drop 4
      match after.text with
      | '\\' :: 'u' :: more =>
        if 0xD800 ≤ first && first < 0xDC00 && !(more.drop 4).isEmpty then
          match codeUnit? (more.take 4) with
          | none => .error ⟨.badCodeUnit, after.position + 1⟩
          | some second =>
            match joinHalves? first second with
            | some c => .ok (c, after.drop 6)
            | none => .ok (unitChar first, after)
        else .ok (unitChar first, after)
      | _ => .ok (unitChar first, after)

/-- Reads a text after its opening quote, which stands at `start`; `fuel` bounds its characters. -/
def readText (start : Nat) : Nat → Rest → Except JsonError (Text × Rest)
  | 0, _ => .error ⟨.unterminatedText, start⟩
  | fuel + 1, rest =>
    match rest.text with
    | [] => .error ⟨.unterminatedText, start⟩
    | '"' :: _ => .ok ([], rest.drop 1)
    | ['\\'] => .error ⟨.unterminatedText, start⟩
    | '\\' :: 'u' :: _ =>
      match readCodeUnit (rest.drop 2) with
      | .error error => .error error
      | .ok (c, after) => (readText start fuel after).map fun (text, last) => (c :: text, last)
    | '\\' :: letter :: _ =>
      match escaped? letter with
      | none => rest.fail .badEscape
      | some c => (readText start fuel (rest.drop 2)).map fun (text, last) => (c :: text, last)
    | c :: _ =>
      if c.toNat < 0x20 then rest.fail .controlCharacter
      else (readText start fuel (rest.drop 1)).map fun (text, last) => (c :: text, last)

/-- The number that decimal digits write. -/
def decimal (digits : Text) : Nat :=
  digits.foldl (fun number c => number * 10 + (c.toNat - '0'.toNat)) 0

/-- Splits an exponent off the front of a text: whether it is negative, how long its sign is, and
its digits. -/
def exponent? (text : Text) : Option (Bool × Nat × Text) :=
  match text with
  | e :: rest =>
    if e = 'e' || e = 'E' then
      let (negative, signLength) :=
        match rest with
        | '-' :: _ => (true, 1)
        | '+' :: _ => (false, 1)
        | _ => (false, 0)
      let digits := (rest.drop signLength).takeWhile Char.isDigit
      if digits.isEmpty then none else some (negative, signLength, digits)
    else none
  | [] => none

/-- The digits of a whole number at the front of a text; a zero stands alone. -/
def wholeDigits : Text → Text
  | '0' :: _ => ['0']
  | text => text.takeWhile Char.isDigit

/-- The digits after a point at the front of a text. -/
def fractionDigits : Text → Text
  | '.' :: rest => rest.takeWhile Char.isDigit
  | _ => []

/-- Reads a number. -/
def readNumber (rest : Rest) : Except JsonError (Json × Rest) :=
  let negative := rest.text.head? == some '-'
  let unsigned := if negative then rest.drop 1 else rest
  let digits := wholeDigits unsigned.text
  if digits.isEmpty then rest.fail .valueExpected
  else
    let afterDigits := unsigned.drop digits.length
    let fraction := fractionDigits afterDigits.text
    let afterFraction :=
      if fraction.isEmpty then afterDigits else afterDigits.drop (fraction.length + 1)
    match exponent? afterFraction.text with
    | some (negativePower, signLength, power) =>
      let shift : Int := if negativePower then -(decimal power : Int) else decimal power
      .ok (.real (.ofDecimal negative (decimal (digits ++ fraction)) (shift - fraction.length)),
        afterFraction.drop (1 + signLength + power.length))
    | none =>
      if fraction.isEmpty then
        if Text.longestNumeral < digits.length then rest.fail (.numeralTooLong digits.length)
        else .ok (.whole (if negative then -(decimal digits : Int) else decimal digits),
          afterFraction)
      else
        .ok (.real (.ofDecimal negative (decimal (digits ++ fraction)) (-(fraction.length : Int))),
          afterFraction)

/-- The words that stand for a value. -/
def words : List (String × Json) :=
  [("null", .null), ("true", .boolean true), ("false", .boolean false),
   ("NaN", .real .notANumber), ("Infinity", .real (.infinite false)),
   ("-Infinity", .real (.infinite true))]

/-- Reads a value that is neither a text nor a list nor an object. -/
def readPlain (rest : Rest) : Except JsonError (Json × Rest) :=
  match words.find? fun (word, _) => word.toList.isPrefixOf rest.text with
  | some (word, value) => .ok (value, rest.drop word.length)
  | none => readNumber rest

mutual

/-- Reads a value; `fuel` bounds the steps of the reading. -/
def readValue : Nat → Rest → Except JsonError (Json × Rest)
  | 0, rest => rest.fail .valueExpected
  | fuel + 1, rest =>
    match rest.text with
    | '"' :: _ =>
      (readText rest.position rest.text.length (rest.drop 1)).map
        fun (value, last) => (.string value, last)
    | '[' :: _ =>
      let inner := (rest.drop 1).skip
      if inner.text.head? = some ']' then .ok (.list [], inner.drop 1)
      else (readItems fuel inner).map fun (items, last) => (.list items, last)
    | '\x7b' :: _ =>
      let inner := (rest.drop 1).skip
      if inner.text.head? = some '\x7d' then .ok (.object [], inner.drop 1)
      else (readFields fuel [] inner).map fun (fields, last) => (.object fields, last)
    | _ => readPlain rest

/-- Reads values up to the closing bracket of their list. -/
def readItems : Nat → Rest → Except JsonError (List Json × Rest)
  | 0, rest => rest.fail .valueExpected
  | fuel + 1, rest =>
    match readValue fuel rest with
    | .error error => .error error
    | .ok (value, after) =>
      let after := after.skip
      match after.text with
      | ']' :: _ => .ok ([value], after.drop 1)
      | ',' :: _ =>
        (readItems fuel (after.drop 1).skip).map fun (items, last) => (value :: items, last)
      | _ => after.fail .commaExpected

/-- Reads fields up to the closing brace of their object. -/
def readFields : Nat → List (Text × Json) → Rest → Except JsonError (List (Text × Json) × Rest)
  | 0, _, rest => rest.fail .nameExpected
  | fuel + 1, fields, rest =>
    match rest.text with
    | '"' :: _ =>
      match readText rest.position rest.text.length (rest.drop 1) with
      | .error error => .error error
      | .ok (key, after) =>
        let after := after.skip
        match after.text with
        | ':' :: _ =>
          match readValue fuel (after.drop 1).skip with
          | .error error => .error error
          | .ok (value, after) =>
            let after := after.skip
            let fields := setField fields key value
            match after.text with
            | '\x7d' :: _ => .ok (fields, after.drop 1)
            | ',' :: _ => readFields fuel fields (after.drop 1).skip
            | _ => after.fail .commaExpected
        | _ => after.fail .colonExpected
    | _ => rest.fail .nameExpected

end

/-- Reads the value of a text. -/
def read (text : Text) : Except JsonError Json :=
  if text.head? = some '\ufeff' then .error ⟨.byteOrderMark, 0⟩
  else
    match readValue (text.length + 1) (Rest.skip ⟨text, 0⟩) with
    | .error error => .error error
    | .ok (value, after) =>
      let after := after.skip
      if after.text.isEmpty then .ok value else after.fail .extraData

end Json

end FeedFilter
