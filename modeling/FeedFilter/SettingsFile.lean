/-
**Settings in a file.**

* `SettingsFile.load`: the settings of a file, or defaults when there is none.
* `SettingsFile.save`: writes settings, with the directories above the file as far as they are
  missing.
-/

import FeedFilter.Disk
import FeedFilter.Json.Reader
import FeedFilter.Json.Writer
import FeedFilter.Log
import FeedFilter.Migration
import FeedFilter.Text.Newline

namespace FeedFilter

/-- Why settings cannot be loaded. -/
inductive LoadError where
  | disk (error : DiskError)
  | notText (error : Text.Utf8Error)
  | notJson (fileName : Text) (error : JsonError)
  | numeralTooLong (digits : Nat)
  | rootNotObject
  | record (error : RecordError)

/-- The wording of an error. -/
def LoadError.message : LoadError → String
  | disk error => error.message
  | notText error => error.message
  | notJson fileName error => fileName.toString ++ " error: " ++ error.fault.message
  | numeralTooLong digits => Text.tooLongNumeral digits
  | rootNotObject => "settings root must be an object"
  | record error => error.message

/-- A settings file, known by its path and by the way this is written. -/
structure SettingsFile where
  path : Path
  label : Text

namespace SettingsFile

/-- The settings file at a path. -/
def ofText (path : Text) : SettingsFile := ⟨Path.ofText path, Path.tidy path⟩

/-- The settings that a text holds. -/
def parse (fileName : Text) (text : Text) : Except LoadError Settings :=
  match Json.read text with
  | .error ⟨.numeralTooLong digits, _⟩ => .error (.numeralTooLong digits)
  | .error error => .error (.notJson fileName error)
  | .ok (.object stored) =>
    match Settings.ofRecord stored with
    | .ok settings => .ok settings
    | .error error => .error (.record error)
  | .ok _ => .error .rootNotObject

/-- The settings that bytes hold. -/
def parseBytes (fileName : Text) (content : List UInt8) : Except LoadError Settings :=
  match Text.decode content with
  | .error error => .error (.notText error)
  | .ok text => parse fileName (Text.unifyNewlines text)

/-- The text that settings are saved as. -/
def write (settings : Settings) : Text := Json.writeIndented settings.toRecord ++ ['\n']

/-- The record about defaults in the place of a file. -/
def defaultsRecord (file : SettingsFile) : LogRecord :=
  ⟨.store, .info, "No settings at " ++ file.label.toString ++ ", using defaults"⟩

/-- The record about saved settings. -/
def savedRecord (file : SettingsFile) : LogRecord :=
  ⟨.store, .info, "Settings saved to " ++ file.label.toString⟩

/-- The settings of a file and the records on the way. -/
def load (file : SettingsFile) (disk : Disk) : List LogRecord × Except LoadError Settings :=
  if disk.isPresent file.path then
    ([], match disk.content file.path with
      | .error error => .error (.disk error)
      | .ok content => parseBytes file.path.name content)
  else ([file.defaultsRecord], .ok {})

/-- What saving gives: the disk afterwards, the records, and whether the settings are saved. -/
structure Saved where
  disk : Disk
  log : List LogRecord
  result : Except DiskError Unit

/-- Saves settings. -/
def save (file : SettingsFile) (settings : Settings) (disk : Disk) : Saved :=
  match disk.makeDirectories file.path.parent with
  | (above, .error error) => ⟨above, [], .error error⟩
  | (above, .ok ()) =>
    match above.writeFile file.path (Text.encode (write settings)) with
    | .error error => ⟨above, [], .error error⟩
    | .ok written => ⟨written, [file.savedRecord], .ok ()⟩

end SettingsFile

end FeedFilter
