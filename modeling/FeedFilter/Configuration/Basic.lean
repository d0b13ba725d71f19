/-
**The configuration of the program.**

One object of the file `config.json` says where the settings are, which pages are left alone and
what becomes of log records. The path of the settings may also be given from outside.

* `Configuration.load`: the configuration of a text, or what is wrong with it.
* `Configuration.mayFilter`: whether a page may be filtered.
-/

import FeedFilter.Disk
import FeedFilter.Json.Reader
import FeedFilter.Pass

namespace FeedFilter

/-- Why a configuration cannot be used. -/
inductive ConfigurationError where
  | missing (path : Text)
  | notJson (message : String)
  | numeralTooLong (digits : Nat)
  | notObject (kind : String)
  | notPath (kind : String)
  | notIterable (kind : String)
  | notFragment (kind : String)
  | notNumeral (text : Text)
  | notNumber (kind : String)
  | undefinedNumber
  | infiniteNumber
  | unknownLevel (name : String)
  | disk (error : DiskError)

/-- The wording of an error. -/
def ConfigurationError.message : ConfigurationError → String
  | missing path => "Config file not found: " ++ path.toString
  | notJson message => message
  | numeralTooLong digits => Text.tooLongNumeral digits
  | notObject kind => "'" ++ kind ++ "' object has no attribute 'get'"
  | notPath kind => "expected str, bytes or os.PathLike object, not " ++ kind
  | notIterable kind => "'" ++ kind ++ "' object is not iterable"
  | notFragment kind => "'in <string>' requires string as left operand, not " ++ kind
  | notNumeral text =>
    "invalid literal for int() with base 10: " ++ (Text.quote text).toString
  | notNumber kind =>
    "int() argument must be a string, a bytes-like object or a real number, not '" ++ kind ++ "'"
  | undefinedNumber => "cannot convert float NaN to integer"
  | infiniteNumber => "cannot convert float infinity to integer"
  | unknownLevel name => "Unknown level: '" ++ name ++ "'"
  | disk error => error.message

/-- The fields of an object. -/
def Json.fields (value : Json) : Except ConfigurationError (List (Text × Json)) :=
  match value with
  | .object fields => .ok fields
  | other => .error (.notObject other.kind)

/-- The value of a field, or a standard one where it is missing. -/
def Json.fieldOr (fields : List (Text × Json)) (key : String) (standard : Json) : Json :=
  (Json.field? fields key).getD standard

/-- Where the settings are, the fragments of addresses of pages that are left alone, and what is
said about log records. -/
structure Configuration where
  settingsPath : Text
  skipFragments : List Json
  logging : Json

namespace Configuration

/-- The name of the file of the configuration. -/
def fileName : Text := "config.json".toList

/-- The standard name of the file of the settings. -/
def standardSettings : Json := .string "filter_settings.json".toList

/-- A path below a directory; a path from the root stays as it is. -/
def below (directory path : Text) : Text :=
  if path.head? = some '/' then path else directory ++ '/' :: path

/-- A value that is a path. -/
def pathOf : Json → Except ConfigurationError Text
  | .string path => .ok path
  | other => .error (.notPath other.kind)

/-- The items that a value consists of: those of a list, the characters of a text, the keys of an
object. -/
def items : Json → Except ConfigurationError (List Json)
  | .list items => .ok items
  | .string text => .ok (text.map fun c => .string [c])
  | .object fields => .ok (fields.map fun field => .string field.1)
  | other => .error (.notIterable other.kind)

/-- The configuration that an object holds. A path of the settings from outside has precedence,
unless it is empty. -/
def ofFields (directory : Text) (settingsPath : Option Text) (fields : List (Text × Json)) :
    Except ConfigurationError Configuration := do
  let path ← match settingsPath.filter fun path => !path.isEmpty with
    | some path => .ok path
    | none => pathOf (Json.fieldOr fields "settings_path" standardSettings)
  let host ← (Json.fieldOr fields "host" (.object [])).fields
  let fragments ←
    items (Json.fieldOr host "skip_url_fragments" (.list (defaultSkipFragments.map .string)))
  return ⟨below directory path, fragments, Json.fieldOr fields "logging" (.object [])⟩

/-- The configuration of a directory, whose file holds a text, if it is there. -/
def load (directory : Text) (settingsPath : Option Text) (content : Option Text) :
    Except ConfigurationError Configuration :=
  match content with
  | none => .error (.missing (below directory fileName))
  | some text =>
    match Json.read text with
    | .error ⟨.numeralTooLong digits, _⟩ => .error (.numeralTooLong digits)
    | .error error => .error (.notJson (error.message text))
    | .ok value => do ofFields directory settingsPath (← value.fields)

/-- Whether an address contains one of some fragments. -/
def contains (url : Text) : List Json → Except ConfigurationError Bool
  | [] => .ok false
  | .string fragment :: rest =>
    if url.containsText fragment then .ok true else contains url rest
  | other :: _ => .error (.notFragment other.kind)

/-- Whether the page at an address may be filtered. -/
def mayFilter (configuration : Configuration) (url : Option Text) :
    Except ConfigurationError Bool := do
  match url.filter fun url => !url.isEmpty with
  | none => return true
  | some url => return !(← contains url configuration.skipFragments)

end Configuration

end FeedFilter
