/-
**Saving that fails, and loading, leave the disk alone.**

Saving makes the directories above the file and then writes the file. It can fail at both, but in a
tree not after it has made anything: the directories fail where one on the way is a file, and then
at once; the file fails where a directory has its path, and then the directories above are there
already. So does an editor leave the disk alone in whose history no save succeeds, whatever its
handlers stop at.

* `Disk.IsBarred`: where no file can be written; `Disk.IsWritten`: what writing one changes.
* `save_of_barred`, `save_of_not_barred`: saving fails just there, and leaves the disk alone then.
* `Panel.take_world_of_unsaved`: so does an editor that saves nothing.
* `SettingsFile.save_or_untouched`: all of it.
-/

import FeedFilter.Proofs.Disk.Tree
import FeedFilter.Proofs.Editor.Session

namespace FeedFilter

/-! ### Where files can be written -/

namespace Disk

/-- Whether no file can be written at a path: a directory has this path, or a file is on the way. -/
def IsBarred (disk : Disk) (path : Path) : Prop :=
  disk.place? path = some .directory ∨ disk.HasFile (ways path)

/-- What is said of a disk on which a file has been written: the file is there, and the directories
on the way, which were missing or there already. Nothing else has changed. -/
structure IsWritten (disk written : Disk) (path : Path) (content : List UInt8) : Prop where
  tree : written.IsTree
  file : written.place? path = some (.file content)
  above : ∀ way ∈ ways path, written.place? way = some .directory
    ∧ (disk.place? way = none ∨ disk.place? way = some .directory)
  outside : ∀ other, other ≠ path → other ∉ ways path → written.place? other = disk.place? other

variable {disk : Disk}

/-- A disk without anything on it is a tree. -/
theorem empty_isTree : Disk.empty.IsTree := by
  intro path part there
  rw [place?, if_neg (by simp)] at there
  exact absurd rfl there

/-- A file is written where directories have been made. -/
theorem IsMade.writeFile {made : Disk} {front : Path} {part : Text}
    (isMade : IsMade disk made front) (free : ¬ disk.IsBarred (front ++ [part]))
    (content : List UInt8) :
    ∃ written, made.writeFile (front ++ [part]) content = .ok written
      ∧ IsWritten disk written (front ++ [part]) content := by
  have noDirectory : made.place? (front ++ [part]) ≠ some .directory := by
    rw [isMade.outside _ concat_not_mem_lineage]
    exact fun directory => free (.inl directory)
  have there := isMade.inside front (self_mem_lineage front)
  refine ⟨made.put (front ++ [part]) (.file content), ?_,
    isMade.tree.put there (.inr noDirectory), place?_put_concat _, ?_, ?_⟩
  · rw [Disk.writeFile, isMade.tree.obstacle?_of_directory there]
    dsimp only
    split
    · next directory => exact absurd directory noDirectory
    · rfl
  · intro way member
    rw [place?_put_of_ne _ (ne_of_mem_ways member)]
    exact ⟨isMade.inside way (ways_concat front part ▸ member),
      missing_or_directory (fun blocked => free (.inr blocked)) member⟩
  · intro other different aside
    rw [place?_put_of_ne _ different, isMade.outside other (ways_concat front part ▸ aside)]

end Disk

/-! ### Saving -/

namespace SettingsFile

variable {file : SettingsFile} {disk : Disk}

/-- **Saving at a barred path fails and leaves the disk alone.** -/
theorem save_of_barred (tree : disk.IsTree) (barred : disk.IsBarred file.path)
    (settings : Settings) : ∃ error, file.save settings disk = ⟨disk, [], .error error⟩ := by
  obtain ⟨path, label⟩ := file
  rcases List.eq_nil_or_concat' path with rfl | ⟨front, part, rfl⟩
  · exact ⟨.isDirectory, rfl⟩
  have parent : Path.parent (front ++ [part]) = front := List.dropLast_concat
  rw [save, parent]
  rcases barred with directory | blocked
  · have above := tree front part (directory ▸ Option.some_ne_none _)
    refine ⟨.isDirectory, ?_⟩
    simp only [tree.makeDirectories_of_directory above, Disk.writeFile,
      tree.obstacle?_of_directory above, directory]
  · rw [Disk.ways_concat] at blocked
    obtain ⟨error, failed⟩ := tree.makeDirectories_of_file blocked
    exact ⟨error, by rw [failed]⟩

/-- **Saving anywhere else succeeds**, and changes nothing but the file and the directories that
were missing. -/
theorem save_of_not_barred (tree : disk.IsTree) (free : ¬ disk.IsBarred file.path)
    (settings : Settings) :
    ∃ written, file.save settings disk = ⟨written, [file.savedRecord], .ok ()⟩
      ∧ disk.IsWritten written file.path (Text.encode (write settings)) := by
  obtain ⟨path, label⟩ := file
  rcases List.eq_nil_or_concat' path with rfl | ⟨front, part, rfl⟩
  · exact absurd (.inl rfl) free
  have parent : Path.parent (front ++ [part]) = front := List.dropLast_concat
  have above : ¬ disk.HasFile (Disk.lineage front) := fun blocked =>
    free (.inr (by rwa [Disk.ways_concat]))
  obtain ⟨made, done, isMade⟩ := tree.makeDirectories_of_free above
  obtain ⟨written, wrote, isWritten⟩ := isMade.writeFile free (Text.encode (write settings))
  refine ⟨written, ?_, isWritten⟩
  rw [save, parent]
  simp only [done, wrote]

end SettingsFile

/-! ### An editor that saves nothing -/

namespace Panel

variable {World : Type} {store : SettingsStore World}

/-- **An event keeps what loading and saving keep.** -/
theorem take_keeps (store : SettingsStore World) (Holds : World → Prop)
    (load : ∀ world, Holds world → Holds (store.load world).1)
    (save : ∀ settings world, Holds world → Holds (store.save settings world).1) (panel : Panel)
    {world : World} (holds : Holds world) (event : PanelEvent) :
    Holds (panel.take store world event).world := by
  -- A store on the worlds of which this holds.
  let guarded : SettingsStore { world : World // Holds world } :=
    ⟨store.label, fun world => (⟨_, load world.1 world.2⟩, (store.load world.1).2),
      fun settings world => (⟨_, save settings world.1 world.2⟩, (store.save settings world.1).2)⟩
  have shows : guarded.Shows Subtype.val store := ⟨rfl, fun _ => rfl, fun _ _ => rfl⟩
  have seen : panel.take store world event = (panel.take guarded ⟨world, holds⟩ event).seen
      Subtype.val := take_seen shows panel ⟨world, holds⟩ event
  rw [seen]
  exact (panel.take guarded ⟨world, holds⟩ event).world.2

/-- Where loading changes nothing, and saving changes nothing unless it succeeds, an event without a
save that succeeds changes nothing. -/
theorem take_world_of_unsaved {world : World} (loads : (store.load world).1 = world)
    (fails : ∀ settings error, (store.save settings world).2 = .error error →
      (store.save settings world).1 = world)
    (panel : Panel) (event : PanelEvent)
    (unsaved : ∀ settings, .save settings (.ok ()) ∉ store.callsOf panel world event) :
    (panel.take store world event).world = world := by
  have same : panel.take store world event
      = (panel.take store.recorded (world, []) event).seen Prod.fst :=
    take_seen store.recorded_shows panel (world, []) event
  rw [same]
  refine take_keeps store.recorded
    (fun seen => (∀ settings, .save settings (.ok ()) ∉ seen.2) → seen.1 = world)
    ?_ ?_ panel (fun _ => rfl) event unsaved
  · intro seen kept none
    have before := kept fun settings member => none settings (List.mem_append_left _ member)
    show (store.load seen.1).1 = world
    rw [before, loads]
  · intro settings seen kept none
    have before := kept fun other member => none other (List.mem_append_left _ member)
    show (store.save settings seen.1).1 = world
    rw [before]
    cases result : (store.save settings world).2 with
    | error error => exact fails settings error result
    | ok =>
      refine absurd (List.mem_append_right _ (List.mem_singleton.mpr ?_)) (none settings)
      rw [before, result]

end Panel

/-- So it is for an editor from its start on, as long as nobody else is about. -/
theorem Session.after_world_of_unsaved {World : Type} {session : Session World}
    (loads : (session.store.load session.start).1 = session.start)
    (fails : ∀ settings error, (session.store.save settings session.start).2 = .error error →
      (session.store.save settings session.start).1 = session.start)
    {history : List (Moment World)}
    (alone : ∀ moment ∈ history, ∃ event later, moment = .event event later)
    (unsaved : ∀ settings, .call (.save settings (.ok ())) ∉ session.trace history) :
    (session.after history).2 = session.start := by
  have uncalled {event : PanelEvent} {calls : List StoreCall}
      (none : ∀ settings, .call (.save settings (.ok ())) ∉ event.happenings calls) :
      ∀ settings, .save settings (.ok ()) ∉ calls := fun settings member =>
    none settings (List.mem_append_right _ (List.mem_map_of_mem member))
  induction history with
  | nil => exact Panel.take_world_of_unsaved loads fails {} .mount (uncalled unsaved)
  | cons moment history ih =>
    obtain ⟨⟨event, later, rfl⟩, rest⟩ := List.forall_mem_cons.mp alone
    have before := ih rest fun settings member => unsaved settings (List.mem_append_left _ member)
    have here := uncalled fun settings member => unsaved settings (List.mem_append_right _ member)
    rw [before] at here
    rw [after, before]
    exact Panel.take_world_of_unsaved loads fails _ event here

namespace SettingsFile

/-- **Saving that fails, and loading, leave the disk alone.** On a disk that is a tree:

* saving fails just where a directory has the path of the file, or a file is on the way to it, and
  then the disk is as it was and no record tells of saved settings;
* otherwise it succeeds, and only the file and the directories on the way that were missing are new;
* loading changes nothing, whatever comes of it;
* an editor of the file in which no save succeeded has changed nothing since its start. -/
theorem save_or_untouched (file : SettingsFile) {disk : Disk} (tree : disk.IsTree)
    (settings : Settings) :
    (disk.IsBarred file.path → ∃ error, file.save settings disk = ⟨disk, [], .error error⟩)
      ∧ (¬ disk.IsBarred file.path →
        ∃ written, file.save settings disk = ⟨written, [file.savedRecord], .ok ()⟩
          ∧ disk.IsWritten written file.path (Text.encode (write settings)))
      ∧ (file.store.load disk).1 = disk
      ∧ ∀ history : List (Moment Disk),
        (∀ moment ∈ history, ∃ event later, moment = .event event later) →
        (∀ settings, .call (.save settings (.ok ())) ∉ Session.trace ⟨file.store, disk⟩ history) →
        (Session.after ⟨file.store, disk⟩ history).2 = disk := by
  refine ⟨fun barred => save_of_barred tree barred settings,
    fun free => save_of_not_barred tree free settings, rfl, fun history alone unsaved => ?_⟩
  refine Session.after_world_of_unsaved rfl (fun settings error failed => ?_) alone unsaved
  by_cases barred : disk.IsBarred file.path
  · obtain ⟨error, same⟩ := save_of_barred tree barred settings
    show (file.save settings disk).disk = disk
    rw [same]
  · obtain ⟨written, same, -⟩ := save_of_not_barred tree barred settings
    have succeeded : (file.save settings disk).result = .ok () := by rw [same]
    have answered : (file.store.save settings disk).2 = .ok () :=
      congrArg (Except.mapError SaveError.disk) succeeded
    cases answered.symm.trans failed

/-- A disk with one file. -/
def noteDisk : Disk := Disk.empty.put ["note".toList] (.file [])

/-- Nothing is saved below this file, and directories are made to save elsewhere. -/
theorem save_or_untouched_noteDisk :
    noteDisk.IsTree
      ∧ (∃ error, (ofText "note/deep/settings.json".toList).save {} noteDisk
          = ⟨noteDisk, [], .error error⟩)
      ∧ ∃ written, (ofText "home/deep/settings.json".toList).save {} noteDisk
          = ⟨written, [savedRecord (ofText "home/deep/settings.json".toList)], .ok ()⟩
        ∧ written.place? ["home".toList] = some .directory
        ∧ written.place? ["note".toList] = some (.file []) := by
  have tree : noteDisk.IsTree :=
    Disk.empty_isTree.put (rfl : Disk.empty.place? [] = some .directory) (.inr (by decide))
  have blocked : noteDisk.IsBarred (ofText "note/deep/settings.json".toList).path :=
    .inr ⟨["note".toList], by decide, [], rfl⟩
  have free : ¬ noteDisk.IsBarred (ofText "home/deep/settings.json".toList).path := by
    rintro (directory | ⟨way, member, content, file⟩)
    · cases directory
    · have ways : Disk.ways (ofText "home/deep/settings.json".toList).path
          = [[], ["home".toList], ["home".toList, "deep".toList]] := rfl
      rw [ways] at member
      simp only [List.mem_cons, List.not_mem_nil, or_false] at member
      rcases member with rfl | rfl | rfl <;> cases file
  obtain ⟨fails, -⟩ := save_or_untouched (ofText "note/deep/settings.json".toList) tree {}
  obtain ⟨-, succeeds, -⟩ := save_or_untouched (ofText "home/deep/settings.json".toList) tree {}
  obtain ⟨written, saved, isWritten⟩ := succeeds free
  refine ⟨tree, fails blocked, written, saved, (isWritten.above _ (by decide)).1, ?_⟩
  rw [isWritten.outside _ (by decide) (by decide)]
  rfl

end SettingsFile

end FeedFilter
