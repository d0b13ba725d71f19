/-
**Where settings are kept.**

* `SettingsStore`: a place that settings are loaded from and saved to. Its world is all that loading
  and saving depend on and change.
* `SaveError`: why it cannot take settings.
* `SettingsFile.store`: a file as such a place; `SettingsStore.memory`: a place that forgets.
-/

import FeedFilter.SettingsFile

namespace FeedFilter

/-- Why settings cannot be saved: something about the disk, or anything else that can go wrong, such
as a text that has no encoding. -/
inductive SaveError where
  | disk (error : DiskError)
  | other (wording : String)
deriving DecidableEq, Repr

/-- The wording of an error. -/
def SaveError.message : SaveError → String
  | disk error => error.message
  | other wording => wording

/-- A place for settings, and the label by which users know it. -/
structure SettingsStore (World : Type) where
  label : Text
  load : World → World × Except LoadError Settings
  save : Settings → World → World × Except SaveError Unit

/-- A file as a place for settings; its world is the disk. -/
def SettingsFile.store (file : SettingsFile) : SettingsStore Disk where
  label := file.path.name
  load disk := (disk, (file.load disk).2)
  save settings disk :=
    let saved := file.save settings disk
    (saved.disk, saved.result.mapError .disk)

namespace SettingsStore

/-- The label of a place that is no file. -/
def memoryLabel : Text := "(custom store)".toList

/-- A place for settings that lasts as long as the program; its world is what was saved last. -/
def memory : SettingsStore Settings where
  label := memoryLabel
  load held := (held, .ok held)
  save settings _ := (settings, .ok ())

end SettingsStore

end FeedFilter
