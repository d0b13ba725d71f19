/-
**Log records.**

What happens along the way is told as a list of records, each with where it comes from, a level and
a message.

* `LogRecord.line`: a record in one line.
* `LogRecord.signed`: a record in one line that tells where it comes from.
-/

namespace FeedFilter

/-- How much a record matters. -/
inductive LogLevel where
  | debug
  | info
deriving DecidableEq, Repr

/-- The name of a level. -/
def LogLevel.name : LogLevel → String
  | debug => "DEBUG"
  | info => "INFO"

/-- The weight of a level, as thresholds count it. -/
def LogLevel.weight : LogLevel → Nat
  | debug => 10
  | info => 20

/-- The part of the program that a record comes from. -/
inductive LogOrigin where
  | command
  | patterns
  | engine
  | processor
  | store
deriving DecidableEq, Repr

/-- The name that a part of the program signs its records with. -/
def LogOrigin.name : LogOrigin → String
  | command => "app"
  | patterns => "core.patterns"
  | engine => "core.filter_engine"
  | processor => "core.processor"
  | store => "adapters.json_settings_store"

/-- One record. -/
structure LogRecord where
  origin : LogOrigin
  level : LogLevel
  message : String
deriving DecidableEq, Repr

/-- A record as it is written in one line. -/
def LogRecord.line (record : LogRecord) : String := record.level.name ++ " " ++ record.message

/-- A record with where it comes from. -/
def LogRecord.signed (record : LogRecord) : String :=
  record.level.name ++ " " ++ record.origin.name ++ ": " ++ record.message

end FeedFilter
