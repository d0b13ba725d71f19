/-
**The commands and how they are used.**

* `Command`: what a command line asks for.
* `Command.ofWords`: the command of some words, or why there is none.
-/

import FeedFilter.CommandLine.Arguments

namespace FeedFilter

/-- What a command line asks for. -/
inductive Command where
  | overview
  | filter (page : Text) (output url : Option Text)
  | check (text : Text) (reactor : Option Text) (suggested credentials : Bool)
  | configure
deriving DecidableEq, Repr

/-- Why no command is carried out: help was asked for, or the command line is wrong. -/
inductive CommandRefusal where
  | help (text : String)
  | usage (usage name : String) (error : UsageError)

/-- The option that asks for help. -/
def helpOption : OptionSyntax := ⟨.help, ["-h".toList, "--help".toList], false⟩

/-- Lines of a text. -/
def helpLines (lines : List String) : String := String.join (lines.map fun line => line ++ "\n")

/-- The names of the commands. -/
def commandNames : List Text := ["filter".toList, "check".toList, "config".toList]

/-- How the program is used. -/
def mainUsage : String := "usage: nospam [-h] \x7bfilter,check,config\x7d ...\n"

/-- The syntax of the program. -/
def mainSyntax : CommandSyntax where
  name := "nospam"
  usage := mainUsage
  help := mainUsage ++ helpLines
    ["",
     "positional arguments:",
     "  \x7bfilter,check,config\x7d",
     "    filter              Filter a saved feed page",
     "    check               Show the decision for a piece of text",
     "    config              Launch the settings TUI",
     "",
     "options:",
     "  -h, --help            show this help message and exit"]
  options := [helpOption]
  operand := some (.command commandNames)

/-- How `filter` is used. -/
def filterUsage : String := "usage: nospam filter [-h] [-o OUTPUT] [--url URL] page\n"

/-- The syntax of `filter`. -/
def filterSyntax : CommandSyntax where
  name := "nospam filter"
  usage := filterUsage
  help := filterUsage ++ helpLines
    ["",
     "positional arguments:",
     "  page                  Path to the saved HTML page",
     "",
     "options:",
     "  -h, --help            show this help message and exit",
     "  -o OUTPUT, --output OUTPUT",
     "                        Write filtered HTML here instead of stdout",
     "  --url URL             Original page URL, used to skip single-post pages"]
  options :=
    [helpOption, ⟨.output, ["-o".toList, "--output".toList], true⟩, ⟨.url, ["--url".toList], true⟩]
  operand := some (.value "page".toList)

/-- How `check` is used. -/
def checkUsage : String := helpLines
  ["usage: nospam check [-h] [--reacted-by REACTED_BY] [--suggested]",
   "                    [--credentials]",
   "                    text"]

/-- The syntax of `check`. -/
def checkSyntax : CommandSyntax where
  name := "nospam check"
  usage := checkUsage
  help := checkUsage ++ helpLines
    ["",
     "positional arguments:",
     "  text",
     "",
     "options:",
     "  -h, --help            show this help message and exit",
     "  --reacted-by REACTED_BY",
     "                        Name of the person who reacted",
     "  --suggested",
     "  --credentials         Entry has content credentials"]
  options :=
    [helpOption, ⟨.reactor, ["--reacted-by".toList], true⟩,
     ⟨.suggested, ["--suggested".toList], false⟩, ⟨.credentials, ["--credentials".toList], false⟩]
  operand := some (.value "text".toList)

/-- How `config` is used. -/
def configUsage : String := "usage: nospam config [-h]\n"

/-- The syntax of `config`. -/
def configSyntax : CommandSyntax where
  name := "nospam config"
  usage := configUsage
  help := configUsage ++ helpLines
    ["",
     "options:",
     "  -h, --help  show this help message and exit"]
  options := [helpOption]
  operand := none

/-- The syntax of a command by its name. -/
def syntaxOf? (name : Text) : Option CommandSyntax :=
  (commandNames.zip [filterSyntax, checkSyntax, configSyntax]).lookup name

namespace CommandSyntax

/-- The refusal of a command line for an error. -/
def refuse (command : CommandSyntax) (error : UsageError) : CommandRefusal :=
  .usage command.usage command.name error

/-- The arguments of a command, unless help is asked for. -/
def argumentsOrHelp (command : CommandSyntax) (words : List Text) :
    Except CommandRefusal Arguments :=
  match command.arguments words with
  | .error error => .error (command.refuse error)
  | .ok arguments => if arguments.has .help then .error (.help command.help) else .ok arguments

end CommandSyntax

namespace Command

/-- The command of a name with its arguments. -/
def ofArguments (name : Text) (arguments : Arguments) : Command :=
  let value := (arguments.operand.getD []).head?.getD []
  if name = "filter".toList then
    filter value (arguments.value? .output) (arguments.value? .url)
  else if name = "check".toList then
    check value (arguments.value? .reactor) (arguments.has .suggested) (arguments.has .credentials)
  else configure

/-- The command of some words. Words that are left over are only found fault with at the end. -/
def ofWords (words : List Text) : Except CommandRefusal Command := do
  let outer ← mainSyntax.argumentsOrHelp words
  let (command, leftover) ← match outer.operand.getD [] with
    | [] => .ok (overview, [])
    | name :: rest =>
      match syntaxOf? name with
      | none => .error (mainSyntax.refuse (.unknownCommand name commandNames))
      | some inner => do
        let arguments ← inner.argumentsOrHelp rest
        .ok (ofArguments name arguments, arguments.leftover)
  if outer.leftover.isEmpty && leftover.isEmpty then return command
  else throw (mainSyntax.refuse (.unrecognized (outer.leftover ++ leftover)))

end Command

end FeedFilter
