/-
**Stored settings and their versions.**

A stored record says which version it has; one without a version is of the first release, which had
a list of words and expressions and no rules of any other kind. Records of later releases are
refused.

* `Migration.directive`: a directive with the meaning of an item of the first release.
* `Migration.run`: a record brought to the current version.
* `Settings.ofRecord`: the settings of a record; `Settings.toRecord` is the way back.
-/

import FeedFilter.Comment
import FeedFilter.Directive
import FeedFilter.Json.Basic
import FeedFilter.Settings

namespace FeedFilter

/-- Why a stored record gives no settings. -/
inductive RecordError where
  | unknownVersion (version : Json)
  | patternsNotText
  | listNotIterable (kind : String)

/-- The wording of an error. -/
def RecordError.message : RecordError → String
  | unknownVersion version => "Unknown settings version: " ++ version.shown.toString
  | patternsNotText => "filter_patterns must be a string"
  | listNotIterable kind => "'" ++ kind ++ "' object is not iterable"

/-- The fields of a stored record. -/
abbrev StoredRecord := List (Text × Json)

namespace Migration

/-- The version of the records that are written. -/
def currentVersion : Nat := 1

/-- Whether a text is a single line. -/
def isSingleLine (item : Text) : Bool := item.lines == [item]

/-- Whether an item of the first release is written as an expression with flags. -/
def isExpression (item : Text) : Bool :=
  match Matcher.literal? item with
  | some (_, letters) => letters.all fun letter => ['g', 'i', 'm', 'u', 'y'].contains letter
  | none => false

/-- Whether a directive reads an item as the same literal word. -/
def isPlainWord (item : Text) : Bool :=
  isSingleLine item && item == item.trim && (Directive.afterKeep? item).isNone
    && (Directive.afterReactor? item).isNone && (Matcher.literal? item).isNone

/-- An expression for a word, as a directive. -/
def wordDirective (item : Text) : Text := '/' :: LiteralWord.expression item ++ ['/', 'i']

/-- The directive with the meaning of an item of the first release. -/
def directive (item : Text) : Text :=
  if isSingleLine item && isExpression item then Comment.escape item
  else if isPlainWord item then Comment.escape item
  else Comment.escape (wordDirective item)

/-- The items of a list of the first release. A text counts as the list of its characters and an
object as the list of its keys. -/
def items (value : Option Json) : Except RecordError (List Text) :=
  match value with
  | none => .ok []
  | some value =>
    if !value.isTruthy then .ok []
    else match value with
      | .list items => .ok (items.map Json.asText)
      | .string text => .ok (text.map fun c => [c])
      | .object fields => .ok (fields.map Prod.fst)
      | value => .error (.listNotIterable value.kind)

/-- The document with the meaning of the items of the first release; empty ones mean nothing. -/
def document (items : List Text) : Text :=
  Text.join ['\n'] ((items.filter fun item => !item.isEmpty).map directive)

/-- The fields of a record of the current version. -/
def record (patterns : Text) (suggested credentials highlight : Bool) : StoredRecord :=
  [("version".toList, .whole currentVersion), ("filter_patterns".toList, .string patterns),
   ("hide_suggested".toList, .boolean suggested),
   ("hide_content_credentials".toList, .boolean credentials),
   ("highlight_mode".toList, .boolean highlight)]

/-- A record of the first release brought to the version after it. -/
def fromFirst (stored : StoredRecord) : Except RecordError StoredRecord := do
  let items ← items (Json.field? stored "regexList")
  let debug := ((Json.field? stored "debugMode").map Json.isTruthy).getD false
  return record (document items) false false debug

/-- The version of a record. -/
def version (stored : StoredRecord) : Except RecordError Nat :=
  match (Json.field? stored "version").getD (.whole 0) with
  | .whole number =>
    if 0 ≤ number && number ≤ currentVersion then .ok number.toNat
    else .error (.unknownVersion (.whole number))
  | value => .error (.unknownVersion value)

/-- A record brought to the current version; one that has it already stays as it is. -/
def run (stored : StoredRecord) : Except RecordError StoredRecord := do
  let version ← version stored
  if version = 0 then fromFirst stored else return stored

end Migration

namespace Settings

/-- Whether a field of a record is switched on; without the field it is off. -/
def switch (stored : StoredRecord) (key : String) : Bool :=
  ((Json.field? stored key).map Json.isTruthy).getD false

/-- The settings of a record of any known version. -/
def ofRecord (stored : StoredRecord) : Except RecordError Settings := do
  let current ← Migration.run stored
  match (Json.field? current "filter_patterns").getD (.string []) with
  | .string patterns =>
    return ⟨patterns, switch current "hide_suggested", switch current "hide_content_credentials",
      switch current "highlight_mode"⟩
  | _ => .error .patternsNotText

/-- The record of settings. -/
def toRecord (settings : Settings) : StoredRecord :=
  Migration.record settings.filterPatterns settings.hideSuggested settings.hideContentCredentials
    settings.highlightMode

end Settings

end FeedFilter
