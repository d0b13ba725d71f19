/-
**What becomes of log records.**

The configuration may send records to the console and to a file, from a level upwards. Without a
target nothing is set up.

* `LogSetup.ofJson`: the targets that a configuration asks for.
* `LogSetup.console`: the lines that records leave on the console.
-/

import FeedFilter.Configuration.Basic
import FeedFilter.Unicode.Case

namespace FeedFilter

/-- Where records go. A file is given by its path, the size in bytes from which a new one is begun,
and the number of old ones that are kept. -/
inductive LogTarget where
  | console
  | file (path : Path) (maxBytes backupCount : Int)
deriving DecidableEq, Repr

/-- The level from which records count, and where they go. -/
structure LogSetup where
  level : Nat
  targets : List LogTarget
deriving Repr

namespace LogSetup

/-- The level without any setup. -/
def standardLevel : Nat := 30

/-- Nothing set up. -/
def none : LogSetup := ⟨standardLevel, []⟩

/-- The layout of a record in a line. -/
def format : String := "%(asctime)s %(levelname)s %(name)s: %(message)s"

/-- The layout of a time in a line. -/
def timeFormat : String := "%Y-%m-%d %H:%M:%S"

/-- The name that looks like a level but stands for a layout. -/
def layoutName : String := "BASIC_FORMAT"

/-- The layout that stands where a level is expected. -/
def basicFormat : String := "%(levelname)s:%(name)s:%(message)s"

/-- The levels by name. -/
def levels : List (String × Nat) :=
  [("DEBUG", 10), ("INFO", 20), ("WARN", 30), ("WARNING", 30), ("ERROR", 40), ("CRITICAL", 50),
   ("FATAL", 50), ("NOTSET", 0)]

/-- The level in the place of an unknown one. -/
def defaultLevel : Nat := 20

/-- Whether a text is a name in capital letters, case ignored. -/
def names (text : Text) (name : String) : Bool :=
  text.length = name.toList.length
    && (text.zip name.toList).all fun (c, capital) => Unicode.alike c.toNat capital.toNat

/-- The level that a value names. The name of a layout is no level and is found out only when it is
used. -/
def levelOf (value : Json) : Except ConfigurationError Nat :=
  let text := value.asText
  if names text layoutName then .error (.unknownLevel basicFormat)
  else .ok (((levels.find? fun level => names text level.1).map Prod.snd).getD defaultLevel)

/-- The digits of a numeral, single low lines allowed between them. -/
def digits? : Text → Option Text
  | [] => Option.none
  | [c] => if c.isDigit then some [c] else Option.none
  | c :: '_' :: rest => if c.isDigit then (digits? rest).map (c :: ·) else Option.none
  | c :: rest => if c.isDigit then (digits? rest).map (c :: ·) else Option.none

/-- The whole number that a text writes, blanks around it allowed. -/
def wholeOfText (text : Text) : Except ConfigurationError Int :=
  let trimmed := text.trim
  let (sign, rest) : Int × Text := match trimmed with
    | '-' :: rest => (-1, rest)
    | '+' :: rest => (1, rest)
    | rest => (1, rest)
  match digits? rest with
  | some digits =>
    if Text.longestNumeral < digits.length then .error (.numeralTooLong digits.length)
    else .ok (sign * Text.ofDecimal digits)
  | Option.none => .error (.notNumeral text)

/-- The whole number that a value stands for; what follows the point does not count. -/
def wholeOf : Json → Except ConfigurationError Int
  | .whole value => .ok value
  | .boolean value => .ok (if value then 1 else 0)
  | .string text => wholeOfText text
  | .real .notANumber => .error .undefinedNumber
  | .real value =>
    match value.truncate? with
    | some whole => .ok whole
    | Option.none => .error .infiniteNumber
  | other => .error (.notNumber other.kind)

/-- The standard path of the file. -/
def standardPath : Json := .string "logs/nospam.log".toList

/-- The standard size of the file. -/
def standardSize : Json := .whole 5242880

/-- The standard number of old files. -/
def standardBackups : Json := .whole 5

/-- The components of a path without detours. -/
def straight (components : Path) : Path :=
  (components.foldl (fun done part =>
    match done with
    | above :: rest => if part = Path.back && above ≠ Path.back then rest else part :: done
    | [] => [part]) []).reverse

/-- The path of a file as it is seen from a directory. -/
def seenFrom (directory path : Text) : Path :=
  let target := straight (Path.ofText path)
  let start := straight (Path.ofText directory)
  if path.head? = some '/' && start.isPrefixOf target then target.drop start.length else target

/-- Whether a path can only be that of a directory. -/
def endsInDirectory (path : Text) : Bool :=
  [[], ['.'], Path.back].contains (path.reverse.takeWhile (· ≠ '/')).reverse

/-- The file that a configuration asks for. -/
def fileOf (directory : Text) (fields : List (Text × Json)) :
    Except ConfigurationError LogTarget := do
  let path ← Configuration.pathOf (Json.fieldOr fields "path" standardPath)
  let maxBytes ← wholeOf (Json.fieldOr fields "max_bytes" standardSize)
  let backups ← wholeOf (Json.fieldOr fields "backup_count" standardBackups)
  if endsInDirectory path then throw (.disk .isDirectory)
  return .file (seenFrom directory path) maxBytes backups

/-- The setup that an object asks for. -/
def ofFields (directory : Text) (fields : List (Text × Json)) :
    Except ConfigurationError LogSetup := do
  if !(Json.fieldOr fields "enabled" (.boolean false)).isTruthy then return none
  let level := levelOf (Json.fieldOr fields "level" .null)
  let console ←
    if (Json.fieldOr fields "console" (.boolean true)).isTruthy then
      level.map fun _ => [LogTarget.console]
    else .ok []
  let file ← (Json.fieldOr fields "file" (.object [])).fields
  let files ←
    if (Json.fieldOr file "enabled" (.boolean false)).isTruthy then do
      let target ← fileOf directory file
      level.map fun _ => [target]
    else .ok []
  match console ++ files with
  | [] => return none
  | targets => return ⟨← level, targets⟩

/-- The setup that the configuration of a directory asks for. -/
def ofJson (directory : Text) (logging : Json) : Except ConfigurationError LogSetup := do
  if !logging.isTruthy then return none
  ofFields directory (← logging.fields)

/-- The records that are let through to the console. -/
def console (setup : LogSetup) (log : List LogRecord) : List LogRecord :=
  if setup.targets.contains .console then
    log.filter fun record => setup.level ≤ record.level.weight
  else []

end LogSetup

end FeedFilter
