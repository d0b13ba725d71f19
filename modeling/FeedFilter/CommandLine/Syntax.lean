/-
**What a command line may hold.**

* `CommandSyntax`: the options of a command and the operand it takes.
* `UsageError`: what is wrong with a command line, and its wording.
-/

import FeedFilter.Text.Quoted

namespace FeedFilter

/-- What an option is for. -/
inductive OptionKey where
  | help
  | output
  | url
  | reactor
  | suggested
  | credentials
deriving DecidableEq, Repr

/-- An option: its names, and whether a value follows. -/
structure OptionSyntax where
  key : OptionKey
  names : List Text
  takesValue : Bool
deriving DecidableEq, Repr

/-- The names of an option in messages. -/
def OptionSyntax.label (option : OptionSyntax) : String :=
  (Text.join ['/'] option.names).toString

/-- What a command takes besides options: a value that has to be there, or one of some commands with
all that follows. -/
inductive Operand where
  | value (name : Text)
  | command (names : List Text)
deriving DecidableEq, Repr

/-- A command: its full name, how it is used, a longer help, its options and its operand. -/
structure CommandSyntax where
  name : String
  usage : String
  help : String
  options : List OptionSyntax
  operand : Option Operand

/-- What is wrong with a command line. -/
inductive UsageError where
  | ambiguous (word : Text) (candidates : List Text)
  | valueMissing (option : OptionSyntax)
  | valueIgnored (option : OptionSyntax) (value : Text)
  | operandMissing (name : Text)
  | unknownCommand (word : Text) (names : List Text)
  | unrecognized (words : List Text)
deriving DecidableEq, Repr

/-- The wording of an error. -/
def UsageError.message : UsageError → String
  | ambiguous word candidates =>
    "ambiguous option: " ++ word.toString ++ " could match "
      ++ (Text.join [',', ' '] candidates).toString
  | valueMissing option => "argument " ++ option.label ++ ": expected one argument"
  | valueIgnored option value =>
    "argument " ++ option.label ++ ": ignored explicit argument " ++ (Text.quote value).toString
  | operandMissing name => "the following arguments are required: " ++ name.toString
  | unknownCommand word names =>
    "argument command: invalid choice: " ++ (Text.quote word).toString ++ " (choose from "
      ++ (Text.join [',', ' '] (names.map Text.quote)).toString ++ ")"
  | unrecognized words => "unrecognized arguments: " ++ (Text.join [' '] words).toString

end FeedFilter
