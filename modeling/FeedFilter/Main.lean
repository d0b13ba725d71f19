/-
**The program, started from a command line.**

The files that a command may touch are looked at, the command is carried out on what was seen, and
then the page is put out. Paths count from the root of the file system.
-/

import FeedFilter.Program
import Std.Time

namespace FeedFilter.Shell

/-- A path from the root as the system knows it. -/
def systemPath (path : Path) : String := String.ofList ('/' :: Text.join ['/'] path)

/-- Adds what is at a path to what is known. -/
def look (disk : Disk) (path : Path) : IO Disk := do
  try
    let content ← IO.FS.readBinFile (systemPath path)
    return disk.put path (.file content.toList)
  catch
    | .inappropriateType .. => return disk.put path .directory
    | _ => return disk

/-- Adds what is on the way to a path and at it. -/
def observe (disk : Disk) (path : Path) : IO Disk := (Disk.ways path ++ [path]).foldlM look disk

/-- The paths that a command line may name. -/
def namedPaths (directory : Path) (words : List Text) : List Path :=
  match Command.ofWords words with
  | .ok (.filter page output _) => (page :: output.toList).map (Path.resolve directory)
  | _ => []

/-- Puts out a text. -/
def putText (stream : IO.FS.Stream) (text : Text) : IO Unit := do
  stream.putStr text.toString
  stream.flush

/-- Writes the files that were changed. -/
def writeChanges (before after : Disk) (paths : List Path) : IO Unit := do
  for path in paths do
    match after.place? path with
    | some (.file content) =>
      if before.place? path ≠ some (.file content) then
        IO.FS.writeBinFile (systemPath path) ⟨content.toArray⟩
    | _ => pure ()

/-- What the file of the configuration says. -/
def configurationText (disk : Disk) (directory : Path) : Option Text :=
  match disk.content (directory ++ [Configuration.fileName]) with
  | .ok content => (Text.decode content).toOption.map Text.unifyNewlines
  | .error _ => none

/-- Reports a failure. -/
def fail (message : String) : IO UInt32 := do
  (← IO.getStderr).putStrLn message
  return 1

/-- Carries out a command line in a directory. -/
def carryOut (directory : Path) (words : List Text) : IO UInt32 := do
  let project := (systemPath directory).toList
  let given := (← IO.getEnv "NOSPAM_SETTINGS_PATH").map String.toList
  let start ← observe Disk.empty (directory ++ [Configuration.fileName])
  match Configuration.load project given (configurationText start directory) with
  | .error error => fail error.message
  | .ok configuration =>
    let written := configuration.settingsPath
    let settings : SettingsFile := ⟨Path.resolve directory written, Path.tidy written⟩
    let named := namedPaths directory words
    let disk ← (settings.path :: named).foldlM observe start
    match Program.run ⟨project, directory, settings, configuration⟩ words disk with
    | .error failure => fail failure.message
    | .ok ending =>
      let time := (← Std.Time.PlainDateTime.now).format "uuuu-MM-dd HH:mm:ss"
      putText (← IO.getStderr) (ending.complaints time)
      putText (← IO.getStdout) ending.output
      writeChanges disk ending.disk named
      return UInt32.ofNat ending.code

end FeedFilter.Shell

open FeedFilter

/-- The entry point. -/
def main (words : List String) : IO UInt32 := do
  let directory := Path.ofText (← IO.currentDir).toString.toList
  Shell.carryOut directory (words.map String.toList)
