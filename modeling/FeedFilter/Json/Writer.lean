/-
**Writing structured values.**

* `Json.writeText`: a text in quotes; only quotes, backslashes and control characters are escaped.
* `Json.write`: a value on one line.
* `Json.writeIndented`: the fields of an object, one on a line.
-/

import FeedFilter.Json.Basic

namespace FeedFilter.Json

/-- A character inside quotes. -/
def writeChar (c : Char) : Text :=
  match c with
  | '"' => ['\\', '"']
  | '\\' => ['\\', '\\']
  | '\n' => ['\\', 'n']
  | '\r' => ['\\', 'r']
  | '\t' => ['\\', 't']
  | '\x08' => ['\\', 'b']
  | '\x0c' => ['\\', 'f']
  | c => if c.toNat < 0x20 then '\\' :: 'u' :: Text.hexadecimal 4 c.toNat else [c]

/-- A text in quotes. -/
def writeText (text : Text) : Text := '"' :: text.flatMap writeChar ++ ['"']

/-- A number that need not be whole. -/
def writeReal : Number.Binary64 → Text
  | .notANumber => "NaN".toList
  | .infinite negative => (if negative then "-Infinity" else "Infinity").toList
  | number => number.text.toList

mutual

/-- A value on one line. -/
def write : Json → Text
  | null => "null".toList
  | boolean true => "true".toList
  | boolean false => "false".toList
  | whole value => (toString value).toList
  | real value => writeReal value
  | string value => writeText value
  | list items => '[' :: writeItems items ++ [']']
  | object fields => '\x7b' :: writeFields fields ++ ['\x7d']

/-- Values with commas between them. -/
def writeItems : List Json → Text
  | [] => []
  | [last] => write last
  | first :: rest => write first ++ ", ".toList ++ writeItems rest

/-- Fields with commas between them. -/
def writeFields : List (Text × Json) → Text
  | [] => []
  | [(key, value)] => writeText key ++ ": ".toList ++ write value
  | (key, value) :: rest =>
    writeText key ++ ": ".toList ++ write value ++ ", ".toList ++ writeFields rest

end

/-- Fields, each on a line of its own with two blanks in front. -/
def writeLines : List (Text × Json) → Text
  | [] => []
  | [(key, value)] => "\n  ".toList ++ writeText key ++ ": ".toList ++ write value
  | (key, value) :: rest =>
    "\n  ".toList ++ writeText key ++ ": ".toList ++ write value ++ ',' :: writeLines rest

/-- An object with each field on a line of its own. -/
def writeIndented (fields : List (Text × Json)) : Text :=
  if fields.isEmpty then ['\x7b', '\x7d']
  else '\x7b' :: writeLines fields ++ ['\n', '\x7d']

end FeedFilter.Json
