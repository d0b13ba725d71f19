/-
**The settings editor.**

The editor holds settings in memory, shows them in its forms, and saves them where they came from.
Settings that were edited are marked as such until they are saved or given up; leaving or loading
again is then asked about first.

A handler stops where it comes upon something that it does not know of: an expression that breaks
down, or an error of the place that is no matter of settings or of the disk. What it did before that
stays. Whether the editor takes further events then is not decided here.

* `Panel`: the state of the editor and what it shows.
* `PanelEvent`: what the user does.
* `Panel.take`: what an event does to the editor and to the place where its settings are kept.
-/

import FeedFilter.Editor.Prompt
import FeedFilter.Editor.Store
import FeedFilter.Engine

namespace FeedFilter

/-- The options that a switch stands for. -/
inductive SettingsOption where
  | hideSuggested
  | hideContentCredentials
  | highlightMode
deriving DecidableEq, Repr

namespace SettingsOption

/-- All of them, in the order of the form. -/
def all : List SettingsOption := [hideSuggested, hideContentCredentials, highlightMode]

/-- Whether an option is on. -/
def isOn (settings : Settings) : SettingsOption → Bool
  | hideSuggested => settings.hideSuggested
  | hideContentCredentials => settings.hideContentCredentials
  | highlightMode => settings.highlightMode

/-- Settings with an option turned on or off. -/
def put (settings : Settings) (value : Bool) : SettingsOption → Settings
  | hideSuggested => { settings with hideSuggested := value }
  | hideContentCredentials => { settings with hideContentCredentials := value }
  | highlightMode => { settings with highlightMode := value }

end SettingsOption

/-- A change of one field of the settings. -/
inductive Edit where
  | patterns (text : Text)
  | option (option : SettingsOption) (value : Bool)
deriving DecidableEq, Repr

/-- Settings with a change made. -/
def Settings.edit (settings : Settings) : Edit → Settings
  | .patterns text => { settings with filterPatterns := text }
  | .option option value => option.put settings value

/-- What the header says. -/
inductive PanelStatus where
  | error (message : String)
  | modified
  | loaded
deriving DecidableEq, Repr

/-- The wording of a status. -/
def PanelStatus.text : PanelStatus → String
  | error message => "settings: " ++ message
  | modified => "settings: modified *"
  | loaded => "settings: loaded"

/-- The state of the editor: the settings, whether they were edited, what went wrong last; and what
is shown, which is only brought up to date where a handler says so. -/
structure Panel where
  settings : Option Settings := none
  dirty : Bool := false
  error : Option String := none
  status : Option PanelStatus := none
  saveLocked : Bool := false
  editor : Text := []
  editorLocked : Bool := false
  remarks : String := ""
  switches : List (SettingsOption × Bool) := SettingsOption.all.map fun option => (option, false)
  switchesLocked : Bool := false
  testResult : String := ""
  tab : Option Text := none
  prompt : Option Prompt := none
  exited : Bool := false

/-- Why a handler stops. -/
inductive PanelFault where
  | load (error : LoadError)
  | save (error : SaveError)
  | fault (fault : Fault)

/-- What the user does. A change is only taken for one of the user unless a form is being filled. -/
inductive PanelEvent where
  | mount
  | edit (text : Text) (filling : Bool)
  | switch (option : SettingsOption) (value filling : Bool)
  | save
  | reload
  | leave
  | answer (answer : Answer)
  | showTab (name : Text)
  | test (text reactor : Text) (suggested credentials : Bool)
deriving DecidableEq, Repr

/-- What handling gives: the editor and the world afterwards, and whether the handler came to its
end. -/
structure PanelStep (World : Type) where
  panel : Panel
  world : World
  result : Except PanelFault Unit

/-- What the editor tells the user of settings that cannot be loaded; some causes it does not know.
-/
def LoadError.report? : LoadError → Option String
  | disk error => some ("load failed: " ++ error.message)
  | notText _ => none
  | notJson fileName error => some (notJson fileName error).message
  | numeralTooLong _ => none
  | rootNotObject => some rootNotObject.message
  | record (.unknownVersion version) =>
    some ((RecordError.unknownVersion version).message
      ++ ": written by a newer nospam, please upgrade")
  | record .patternsNotText => some RecordError.patternsNotText.message
  | record (.listNotIterable _) => none

/-- What the editor tells the user of settings that cannot be saved: it only knows what is about the
disk. -/
def SaveError.report? : SaveError → Option String
  | disk error => some ("save failed: " ++ error.message)
  | other _ => none

namespace Panel

/-! ### What is shown -/

/-- The status that the state asks for: an error first, then unsaved edits. -/
def currentStatus (panel : Panel) : PanelStatus :=
  match panel.error with
  | some message => .error message
  | none => if panel.dirty then .modified else .loaded

/-- Brings the header up to date. -/
def refreshHeader (panel : Panel) : Panel :=
  { panel with
    status := some panel.currentStatus
    saveLocked := panel.settings.isNone || !panel.dirty }

/-- Brings the list of ignored lines up to date. -/
def refreshRemarks (panel : Panel) (text : Text) : Except Regex.Breakdown Panel := do
  return { panel with remarks := Document.describeErrors (← Document.errors text) }

/-- Fills the editor of patterns. -/
def fillEditor (panel : Panel) : Panel :=
  { panel with
    editor := (panel.settings.map Settings.filterPatterns).getD []
    editorLocked := panel.settings.isNone }

/-- Fills the form of options. -/
def fillSwitches (panel : Panel) : Panel :=
  { panel with
    switches := SettingsOption.all.map fun option =>
      (option, (panel.settings.map option.isOn).getD false)
    switchesLocked := panel.settings.isNone }

/-- Puts a switch. -/
def putSwitch (panel : Panel) (option : SettingsOption) (value : Bool) : Panel :=
  { panel with
    switches := panel.switches.map fun (other, old) =>
      (other, if other = option then value else old) }

/-- Puts a tab in front. -/
def openTab (panel : Panel) (name : Text) : Panel := { panel with tab := some name }

/-! ### Edits -/

/-- Makes a change to the settings in memory. Without settings there is nothing to change. -/
def update (panel : Panel) (edit : Edit) : Panel :=
  match panel.settings with
  | none => panel
  | some settings =>
    { panel with settings := some (settings.edit edit), dirty := true }.refreshHeader

variable {World : Type}

/-- A handler that came to its end. -/
def finish (world : World) (panel : Panel) : PanelStep World := ⟨panel, world, .ok ()⟩

/-- A handler that stops at an expression which breaks down. -/
def stop (world : World) (panel : Panel) (breakdown : Regex.Breakdown) : PanelStep World :=
  ⟨panel, world, .error (.fault (.breakdown breakdown))⟩

/-- What a change in the editor of patterns does. -/
def edit (panel : Panel) (world : World) (text : Text) (filling : Bool) : PanelStep World :=
  let typed := { panel with editor := text }
  if filling then finish world typed
  else
    let updated := typed.update (.patterns text)
    match updated.refreshRemarks text with
    | .ok refreshed => finish world refreshed
    | .error breakdown => stop world updated breakdown

/-- What a change of a switch does. -/
def switch (panel : Panel) (option : SettingsOption) (value filling : Bool) : Panel :=
  let put := panel.putSwitch option value
  if filling then put else put.update (.option option value)

/-! ### Loading and saving -/

/-- Shows the settings that have just been loaded, or that there are none. -/
def showLoaded (panel : Panel) (world : World) : PanelStep World :=
  let filled := { panel with dirty := false }.refreshHeader.fillEditor
  match filled.refreshRemarks filled.editor with
  | .ok refreshed => finish world refreshed.fillSwitches
  | .error breakdown => stop world filled breakdown

/-- Loads the settings. -/
def load (store : SettingsStore World) (panel : Panel) (world : World) : PanelStep World :=
  match store.load world with
  | (after, .ok settings) =>
    { panel with settings := some settings, error := none }.showLoaded after
  | (after, .error error) =>
    match error.report? with
    | some report => { panel with settings := none, error := some report }.showLoaded after
    | none => ⟨panel, after, .error (.load error)⟩

/-- What it says when there are no settings to save. -/
def nothingToSave : String := "Nothing to save"

/-- Saves the settings; also tells whether they are saved. An error that the editor does not know of
stops the handler before anything is shown. -/
def save (store : SettingsStore World) (panel : Panel) (world : World) :
    Panel × World × Except PanelFault Bool :=
  match panel.settings with
  | none => ({ panel with error := some nothingToSave }.refreshHeader, world, .ok false)
  | some settings =>
    match store.save settings world with
    | (after, .ok ()) =>
      ({ panel with dirty := false, error := none }.refreshHeader, after, .ok true)
    | (after, .error error) =>
      match error.report? with
      | some report => ({ panel with error := some report }.refreshHeader, after, .ok false)
      | none => (panel, after, .error (.save error))

/-- Saves the settings, and does something else after it if they are saved. -/
def saveThen (store : SettingsStore World) (panel : Panel) (world : World)
    (next : Panel → World → PanelStep World) : PanelStep World :=
  match panel.save store world with
  | (after, ending, .ok true) => next after ending
  | (after, ending, .ok false) => finish ending after
  | (after, ending, .error fault) => ⟨after, ending, .error fault⟩

/-! ### Leaving and loading again -/

/-- Leaves the editor. -/
def exit (panel : Panel) : Panel := { panel with exited := true }

/-- What a question about leaving calls it. -/
def leaveAction : Text := "exit".toList

/-- Leaves, or asks first when there are unsaved edits. -/
def requestLeave (store : SettingsStore World) (panel : Panel) (world : World) : PanelStep World :=
  if panel.dirty then
    match describeSave panel.settings store.label leaveAction with
    | .ok body => finish world { panel with prompt := some ⟨.leave, body⟩ }
    | .error breakdown => stop world panel breakdown
  else finish world panel.exit

/-- Loads again, or asks first when there are unsaved edits. -/
def requestReload (store : SettingsStore World) (panel : Panel) (world : World) : PanelStep World :=
  if panel.dirty then
    finish world { panel with prompt := some ⟨.reload, describeReload store.label⟩ }
  else panel.load store world

/-- What an answer to the question about leaving does. -/
def answerLeave (store : SettingsStore World) (panel : Panel) (world : World) :
    Answer → PanelStep World
  | .save => panel.saveThen store world fun after ending => finish ending after.exit
  | .discard => finish world panel.exit
  | _ => finish world panel

/-- What an answer to the question about loading again does. -/
def answerReload (store : SettingsStore World) (panel : Panel) (world : World) :
    Answer → PanelStep World
  | .save => panel.saveThen store world fun after ending => after.load store ending
  | .reload => panel.load store world
  | _ => finish world panel

/-- What an answer does; it closes the question. -/
def answer (store : SettingsStore World) (panel : Panel) (world : World) (answer : Answer) :
    PanelStep World :=
  match panel.prompt with
  | none => finish world panel
  | some prompt =>
    let closed := { panel with prompt := none }
    match prompt.kind with
    | .leave => closed.answerLeave store world answer
    | .reload => closed.answerReload store world answer

/-! ### Trying the patterns -/

/-- What the tester says without settings. -/
def noSettings : String := "Settings are not loaded."

/-- What the tester says without a text. -/
def noTestText : String := "Add test text to run."

/-- The entry that the tester makes of its form. -/
def testEntry (text reactor : Text) (suggested credentials : Bool) : Entry :=
  .ofValues text (if reactor.trim.isEmpty then none else some reactor.trim) suggested credentials

/-- Tries the settings in memory, saved or not. -/
def test (panel : Panel) (text : Text) (entry : Entry) : Except Fault Panel :=
  match panel.settings with
  | none => .ok { panel with testResult := noSettings }
  | some settings =>
    if text.trim.isEmpty then .ok { panel with testResult := noTestText }
    else
      match ((Engine.new settings).decide entry).inspection.result with
      | .ok decision => .ok { panel with testResult := decision.describe }
      | .error fault => .error fault

/-! ### Events -/

/-- The tab that is open at the start. -/
def firstTab : Text := "patterns".toList

/-- The start: the settings are loaded and the first tab is opened. -/
def mount (store : SettingsStore World) (panel : Panel) (world : World) : PanelStep World :=
  match panel.load store world with
  | ⟨loaded, after, .ok ()⟩ => finish after (loaded.openTab firstTab)
  | stopped => stopped

/-- What an event does. -/
def take (store : SettingsStore World) (panel : Panel) (world : World) :
    PanelEvent → PanelStep World
  | .mount => panel.mount store world
  | .edit text filling => panel.edit world text filling
  | .switch option value filling => finish world (panel.switch option value filling)
  | .save => panel.saveThen store world fun after ending => finish ending after
  | .reload => panel.requestReload store world
  | .leave => panel.requestLeave store world
  | .answer answer => Panel.answer store panel world answer
  | .showTab name => finish world (panel.openTab name)
  | .test text reactor suggested credentials =>
    match panel.test text (testEntry text reactor suggested credentials) with
    | .ok tested => finish world tested
    | .error fault => ⟨panel, world, .error (.fault fault)⟩

end Panel

end FeedFilter
