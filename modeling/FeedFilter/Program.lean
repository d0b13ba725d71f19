/-
**The program: what its commands do.**

* `Workplace`: where the program works and how it is configured.
* `Program.run`: what a command line does to the files, what is printed, and with which code the
  program ends.
-/

import FeedFilter.CommandLine.Commands
import FeedFilter.Configuration.Logging
import FeedFilter.Console
import FeedFilter.FeedPage
import FeedFilter.SettingsFile

namespace FeedFilter

/-- Where the program works: the directory of the project and the one it is started in, the file of
the settings, and the configuration. -/
structure Workplace where
  project : Text
  directory : Path
  settings : SettingsFile
  configuration : Configuration

/-- What makes the program fail without a message of its own. -/
inductive ProgramFailure where
  | configuration (error : ConfigurationError)
  | load (error : LoadError)
  | disk (error : DiskError)
  | notText (error : Text.Utf8Error)
  | markup (rejection : Html.Rejection)
  | fault (fault : Fault)

/-- The wording of a failure. -/
def ProgramFailure.message : ProgramFailure → String
  | configuration error => error.message
  | load error => error.message
  | disk error => error.message
  | notText error => error.message
  | markup rejection => rejection.message
  | fault .gone => "the entry is gone"
  | fault (.unknownPattern label) => "unknown pattern " ++ label.toString
  | fault (.breakdown breakdown) => breakdown.message

/-- How the program ends: its code, what it prints, the records let through, the messages printed
after them, and the files. -/
structure Ending where
  code : Nat
  output : Text
  log : List LogRecord
  messages : Text
  disk : Disk

/-- Records and messages as they are printed, each record behind the time. -/
def Ending.complaints (ending : Ending) (time : String) : Text :=
  (ending.log.flatMap fun record => (time ++ " " ++ record.signed ++ "\n").toList)
    ++ ending.messages

namespace Program

/-- The code when the page is not there. -/
def missingInputCode : Nat := 1

/-- The code when the settings cannot be read. -/
def settingsErrorCode : Nat := 2

/-- The code when the command line is wrong. -/
def usageErrorCode : Nat := 2

/-- The banner of the editor. -/
def banner : List String :=
  ["     ",
   "███╗░░██╗ ░█████╗░ ░██████╗ ██████╗░ ░█████╗░ ███╗░░░███╗",
   "████╗░██║ ██╔══██╗ ██╔════╝ ██╔══██╗ ██╔══██╗ ████╗░████║",
   "██╔██╗██║ ██║░░██║ ╚█████╗░ ██████╔╝ ███████║ ██╔████╔██║",
   "██║╚████║ ██║░░██║ ░╚═══██╗ ██╔═══╝░ ██╔══██║ ██║╚██╔╝██║",
   "██║░╚███║ ╚█████╔╝ ██████╔╝ ██║░░░░░ ██║░░██║ ██║░╚═╝░██║",
   "╚═╝░░╚══╝ ░╚════╝░ ╚═════╝░ ╚═╝░░░░░ ╚═╝░░╚═╝ ╚═╝░░░░░╚═╝"]

/-! ### Messages -/

/-- What is said of settings that a later release has written. -/
def newerSettings (message : String) : Text :=
  Console.message (Console.shown message.toList
    ++ (". The settings file was written by a newer nospam; "
      ++ "please upgrade before filtering.").toList)

/-- What is said of settings that cannot be read. -/
def unreadableSettings (message : String) : Text :=
  Console.message ("Could not read settings: ".toList ++ Console.shown message.toList)

/-- What is said of settings that cannot be loaded, unless they make the program fail. -/
def settingsMessage? : LoadError → Option Text
  | .record (.unknownVersion version) =>
    some (newerSettings (RecordError.unknownVersion version).message)
  | .record .patternsNotText => some (unreadableSettings RecordError.patternsNotText.message)
  | .notJson fileName error => some (unreadableSettings (LoadError.notJson fileName error).message)
  | .rootNotObject => some (unreadableSettings LoadError.rootNotObject.message)
  | _ => none

/-- What is said of a page that is not there. -/
def missingInput (page : Text) : Text :=
  Console.message ("Input not found: ".toList ++ Console.shown (Path.tidy page))

/-- What is said after a pass. -/
def summaryMessage (entries : Nat) (summary : Summary) : Text :=
  Console.message
    (toString entries ++ " entries: " ++ toString summary.hidden ++ " removed, "
      ++ toString summary.highlighted ++ " highlighted, " ++ toString summary.shown
      ++ " allowed, " ++ toString summary.untouched ++ " untouched").toList

/-- A reason as it is added to a decision. -/
def reasonText (reason : Option String) : Text :=
  match reason.filter fun reason => !reason.isEmpty with
  | some reason => " (".toList ++ Console.shown reason.toList ++ [')']
  | none => []

/-- What is said of a decision. -/
def decisionMessage (decision : Decision) : Text :=
  let label := match decision with
    | .hide _ => "hide"
    | .keep _ => "show"
    | .nothing => "nothing"
  Console.message (label.toList ++ reasonText decision.reason)

/-- The record about a page that is left alone. -/
def skippedRecord (url : Text) : LogRecord :=
  ⟨.command, .info, "Skipping filter for " ++ url.toString⟩

/-! ### Commands -/

/-- An ending with nothing but a code and messages. -/
def complain (code : Nat) (messages : Text) (disk : Disk) : Ending := ⟨code, [], [], messages, disk⟩

/-- An ending with nothing but what is printed. -/
def say (output : Text) (disk : Disk) : Ending := ⟨0, output, [], [], disk⟩

/-- The text of a page. -/
def readPage (disk : Disk) (path : Path) : Except ProgramFailure Text :=
  match disk.content path with
  | .error error => .error (.disk error)
  | .ok bytes =>
    match Text.decode bytes with
    | .error error => .error (.notText error)
    | .ok text => .ok (Text.unifyNewlines text)

/-- Puts out a page: into a file if one is named, on the console otherwise. -/
def putOut (place : Workplace) (output : Option Text) (page : Text) (log : List LogRecord)
    (messages : Text) (disk : Disk) : Except ProgramFailure Ending :=
  match output.filter fun path => !path.isEmpty with
  | none => .ok ⟨0, page, log, messages, disk⟩
  | some path =>
    match disk.writeFile (Path.resolve place.directory path) (Text.encode page) with
    | .ok written => .ok ⟨0, [], log, messages, written⟩
    | .error error => .error (.disk error)

/-- Loads the settings: with the records on the way, or with what is said when they cannot be
loaded. -/
def loadSettings (place : Workplace) (disk : Disk) :
    Except ProgramFailure (List LogRecord × Except Text Settings) :=
  match place.settings.load disk with
  | (log, .ok settings) => .ok (log, .ok settings)
  | (log, .error error) =>
    match settingsMessage? error with
    | some message => .ok (log, .error message)
    | none => .error (.load error)

/-- Filters a page with settings. -/
def filterPage (place : Workplace) (settings : Settings) (markup : Text) (output : Option Text)
    (log : List LogRecord) (disk : Disk) : Except ProgramFailure Ending := do
  let page ← (Html.Page.ofText markup).mapError .markup
  let processor := Processor.new (Engine.new settings) none
  let outcome := processor.run Html.Page.feed page.entries page
  let summary ← outcome.summary.mapError .fault
  putOut place output outcome.state.write (log ++ outcome.log)
    (summaryMessage page.entries.length summary) disk

/-- Filters the page in a file, unless it is to be left alone. -/
def filter (place : Workplace) (page : Text) (output url : Option Text) (disk : Disk) :
    Except ProgramFailure Ending := do
  let path := Path.resolve place.directory page
  if !disk.isPresent path then
    return complain missingInputCode (missingInput page) disk
  let markup ← readPage disk path
  if !(← (place.configuration.mayFilter url).mapError .configuration) then
    putOut place output markup [skippedRecord (url.getD [])] [] disk
  else
    match ← loadSettings place disk with
    | (log, .error message) => return ⟨settingsErrorCode, [], log, message, disk⟩
    | (log, .ok settings) => filterPage place settings markup output log disk

/-- Decides on a text. -/
def check (place : Workplace) (entry : Entry) (disk : Disk) : Except ProgramFailure Ending := do
  match ← loadSettings place disk with
  | (log, .error message) => return ⟨settingsErrorCode, message, log, [], disk⟩
  | (log, .ok settings) =>
    let answer := (Engine.new settings).decide entry
    let decision ← answer.inspection.result.mapError .fault
    return ⟨0, decisionMessage decision, log ++ answer.log, [], disk⟩

/-- What a refused command line leads to. -/
def refuse (refusal : CommandRefusal) (disk : Disk) : Ending :=
  match refusal with
  | .help text => say text.toList disk
  | .usage usage name error =>
    complain usageErrorCode (usage ++ name ++ ": error: " ++ error.message ++ "\n").toList disk

/-- What a command does, the editor apart. -/
def carryOut (place : Workplace) (command : Command) (disk : Disk) :
    Except ProgramFailure Ending :=
  match command with
  | .overview => .ok (say mainSyntax.help.toList disk)
  | .configure => .ok (say (helpLines banner).toList disk)
  | .filter page output url => filter place page output url disk
  | .check text reactor suggested credentials =>
    check place (.ofValues text reactor suggested credentials) disk

/-- Lets those records through that the configuration asks for. -/
def carryOutLogged (place : Workplace) (command : Command) (disk : Disk) :
    Except ProgramFailure Ending := do
  let setup ← (LogSetup.ofJson place.project place.configuration.logging).mapError .configuration
  let ending ← carryOut place command disk
  return { ending with log := setup.console ending.log }

/-- What a command line does. -/
def run (place : Workplace) (words : List Text) (disk : Disk) : Except ProgramFailure Ending :=
  match Command.ofWords words with
  | .error refusal => .ok (refuse refusal disk)
  | .ok .configure => carryOut place .configure disk
  | .ok command => carryOutLogged place command disk

end Program

end FeedFilter
