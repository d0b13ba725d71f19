/-
**What an editor saves.**

An editor remembers what it loaded last, with the edits made since then. A load whose error it tells
the user of makes it forget, and what is forgotten cannot be saved; an error that it does not know
of leaves its memory as it was. As in all histories, the editor may take events after such an error.

* `Happening.remember`: the memory of an editor, from what happened alone.
* `Saves`: every save of a trace is one of what is remembered then.
* `Session.after_remember`: an editor holds what it remembers, and saves nothing else.
* `loaded_of_remember`: what is remembered was loaded, and edited since.
* `Session.saves_loaded_edited`: what is saved is what was loaded last, with the edits since then.
* `Session.saves_afterUnreportedLoad`: a file that could not be read is written over.
-/

import Mathlib.Data.List.Induction
import FeedFilter.Proofs.Editor.Session
import FeedFilter.Proofs.SettingsFile.Loading

namespace FeedFilter

variable {World : Type}

/-! ### The last edit of a field -/

/-- The text of the patterns that an edit sets. -/
def Edit.patterns? : Edit → Option Text
  | patterns text => some text
  | option _ _ => none

/-- The value of an option that an edit sets. -/
def Edit.value? (option : SettingsOption) : Edit → Option Bool
  | patterns _ => none
  | .option other value => if other = option then some value else none

namespace Settings

/-- Of all edits of a field the last one counts; without one the field stays as it was. -/
theorem foldl_edit_field {Field : Type} (read : Settings → Field) (write? : Edit → Option Field)
    (field : ∀ settings edit, read (settings.edit edit) = (write? edit).getD (read settings))
    (edits : List Edit) (settings : Settings) :
    read (edits.foldl edit settings) = (edits.filterMap write?).getLast?.getD (read settings) := by
  induction edits generalizing settings with
  | nil => rfl
  | cons first rest ih =>
    rw [List.foldl_cons, ih, field]
    cases written : write? first with
    | none => rw [List.filterMap_cons_none written, Option.getD_none]
    | some value => rw [List.filterMap_cons_some written, List.getLast?_cons]; rfl

theorem edit_patterns (settings : Settings) (edit : Edit) :
    (settings.edit edit).filterPatterns = edit.patterns?.getD settings.filterPatterns := by
  rcases edit with text | ⟨option, value⟩
  · rfl
  · cases option <;> rfl

theorem edit_isOn (option : SettingsOption) (settings : Settings) (edit : Edit) :
    option.isOn (settings.edit edit) = (edit.value? option).getD (option.isOn settings) := by
  rcases edit with text | ⟨other, value⟩
  · cases option <;> rfl
  · cases option <;> cases other <;> rfl

/-- Settings after edits, field by field. -/
structure IsEdited (loaded : Settings) (edits : List Edit) (settings : Settings) : Prop where
  inOrder : settings = edits.foldl edit loaded
  patterns : settings.filterPatterns
    = (edits.filterMap Edit.patterns?).getLast?.getD loaded.filterPatterns
  options : ∀ option, SettingsOption.isOn settings option
    = (edits.filterMap (Edit.value? option)).getLast?.getD (SettingsOption.isOn loaded option)

theorem isEdited_foldl (loaded : Settings) (edits : List Edit) :
    loaded.IsEdited edits (edits.foldl edit loaded) where
  inOrder := rfl
  patterns := foldl_edit_field filterPatterns Edit.patterns? edit_patterns edits loaded
  options option :=
    foldl_edit_field (option.isOn ·) (Edit.value? option) (edit_isOn option) edits loaded

end Settings

/-! ### What an editor remembers -/

namespace Happening

/-- What is remembered after something happened. -/
def remember (memory : Option Settings) : Happening → Option Settings
  | edit change => memory.map fun settings => settings.edit change
  | call (.load (.ok settings)) => some settings
  | call (.load (.error error)) => if error.report?.isSome then none else memory
  | call (.save _ _) => memory

/-- The edit that something is. -/
def edit? : Happening → Option Edit
  | edit change => some change
  | call _ => none

/-- Whether something is no load, or a load with an error that the editor does not know of. -/
def LeavesMemory : Happening → Prop
  | call (.load result) => ∃ error, result = .error error ∧ error.report? = none
  | _ => True

end Happening

/-- What is remembered was loaded, and edited since; nothing else was loaded since, and no error
that the editor knows of came up. -/
theorem loaded_of_remember {trace : List Happening} {settings : Settings}
    (remembered : trace.foldl Happening.remember none = some settings) :
    ∃ earlier loaded since, trace = earlier ++ .call (.load (.ok loaded)) :: since
      ∧ (∀ happening ∈ since, happening.LeavesMemory)
      ∧ (since.filterMap Happening.edit?).foldl Settings.edit loaded = settings := by
  induction trace using List.reverseRecOn generalizing settings with
  | nil => cases remembered
  | append_singleton trace last ih =>
    rw [List.foldl_append] at remembered
    -- Something that leaves the memory comes after what was remembered before.
    have onward (before : Settings) (known : trace.foldl Happening.remember none = some before)
        (leaves : last.LeavesMemory)
        (edited : ([last].filterMap Happening.edit?).foldl Settings.edit before = settings) :
        ∃ earlier loaded since, trace ++ [last] = earlier ++ .call (.load (.ok loaded)) :: since
          ∧ (∀ happening ∈ since, happening.LeavesMemory)
          ∧ (since.filterMap Happening.edit?).foldl Settings.edit loaded = settings := by
      obtain ⟨earlier, loaded, since, split, quiet, same⟩ := ih known
      refine ⟨earlier, loaded, since ++ [last], ?_, ?_, ?_⟩
      · rw [split, List.append_assoc, List.cons_append]
      · intro happening member
        obtain old | new := List.mem_append.mp member
        · exact quiet happening old
        · rw [List.mem_singleton.mp new]
          exact leaves
      · rw [List.filterMap_append, List.foldl_append, same, edited]
    rcases last with change | ⟨error | loaded⟩ | ⟨saved, result⟩
    · obtain ⟨before, known, edited⟩ := Option.map_eq_some_iff.mp remembered
      exact onward before known trivial edited
    · cases known : error.report? with
      | none =>
        have same : trace.foldl Happening.remember none = some settings := by
          simpa [Happening.remember, known] using remembered
        exact onward settings same ⟨error, rfl, known⟩ rfl
      | some report => simp [Happening.remember, known] at remembered
    · cases remembered
      exact ⟨trace, settings, [], rfl, nofun, rfl⟩
    · exact onward settings remembered trivial rfl

/-! ### What is saved -/

/-- Every save of a trace is one of what is remembered then. -/
def Saves (memory : Option Settings) : List Happening → Prop
  | [] => True
  | happening :: rest =>
    (∀ settings result, happening = .call (.save settings result) → memory = some settings)
      ∧ Saves (happening.remember memory) rest

theorem saves_append {memory : Option Settings} {first second : List Happening} :
    Saves memory (first ++ second)
      ↔ Saves memory first ∧ Saves (first.foldl Happening.remember memory) second := by
  induction first generalizing memory with
  | nil => simp [Saves]
  | cons happening rest ih => rw [List.cons_append, Saves, Saves, ih, List.foldl_cons, and_assoc]

namespace Panel

variable {panel : Panel} {event : PanelEvent} {holding : Holding} {calls : List StoreCall}

theorem remember_load (holding : Holding) (result : Except LoadError Settings) :
    (holding.loaded result).settings
      = Happening.remember holding.settings (.call (.load result)) := by
  cases result with
  | ok settings => rfl
  | error error =>
    unfold Holding.loaded Happening.remember
    cases known : error.report? <;> simp [known]

/-- What is held after an event is what is remembered after it. -/
theorem settings_of_taken (taken : Taken panel event holding calls) :
    holding.settings = (event.happenings calls).foldl Happening.remember panel.settings := by
  unfold PanelEvent.happenings
  cases taken with
  | edited edit own =>
    rw [own]
    exact Holding.edit_settings _ edit
  | unchanged own => rw [own]; rfl
  | loaded own idle free result =>
    rw [own]
    exact remember_load panel.holding result
  | left own => rw [own]; rfl
  | saved own settings held result =>
    rw [own]
    exact Holding.saved_settings _ result
  | savedAndLeft own => rw [own]; rfl
  | savedAndLoaded own settings held result =>
    rw [own]
    exact remember_load (panel.holding.saved (.ok ())) result

/-- An event saves what is held. -/
theorem saves_of_taken (taken : Taken panel event holding calls) :
    Saves panel.settings (event.happenings calls) := by
  unfold PanelEvent.happenings
  cases taken with
  | edited edit own => rw [own]; exact ⟨nofun, trivial⟩
  | unchanged own => rw [own]; exact trivial
  | loaded own => rw [own]; exact ⟨nofun, trivial⟩
  | left own => rw [own]; exact trivial
  | saved own settings held =>
    rw [own]
    refine ⟨?_, trivial⟩
    rintro _ _ ⟨⟩
    exact held
  | savedAndLeft own settings held =>
    rw [own]
    refine ⟨?_, trivial⟩
    rintro _ _ ⟨⟩
    exact held
  | savedAndLoaded own settings held =>
    rw [own]
    refine ⟨?_, nofun, trivial⟩
    rintro _ _ ⟨⟩
    exact held

end Panel

namespace Session

variable (session : Session World)

/-- An editor holds what is remembered of its trace, and every save is one of what is remembered. -/
theorem after_remember (history : List (Moment World)) :
    (session.after history).1.settings = (session.trace history).foldl Happening.remember none
      ∧ Saves none (session.trace history) := by
  induction history with
  | nil =>
    have taken := Panel.take_taken session.store {} session.start .mount
    exact ⟨Panel.settings_of_taken taken, Panel.saves_of_taken taken⟩
  | cons moment history ih =>
    obtain ⟨held, saves⟩ := ih
    cases moment with
    | outside change => exact ⟨held, saves⟩
    | event event later =>
      have taken := Panel.take_taken session.store (session.after history).1
        (session.after history).2 event
      have holds := Panel.settings_of_taken taken
      have next := Panel.saves_of_taken taken
      rw [held] at holds next
      exact ⟨holds.trans List.foldl_append.symm, saves_append.mpr ⟨saves, next⟩⟩

/-- **What is saved was loaded, and edited since.** In the trace of any history, over any store:

* what is saved is what the last load that succeeded gave, with the edits since then made in order,
  so that of each field the last edit counts and a field without edits is as it was loaded;
* after a load failed by an error of settings or of the disk, nothing is saved until a load
  succeeds. -/
theorem saves_loaded_edited (history : List (Moment World)) :
    (∀ before settings result rest,
        session.trace history = before ++ .call (.save settings result) :: rest →
        ∃ earlier loaded since, before = earlier ++ .call (.load (.ok loaded)) :: since
          ∧ (∀ again, .call (.load (.ok again)) ∉ since)
          ∧ loaded.IsEdited (since.filterMap Happening.edit?) settings)
      ∧ ∀ earlier error since settings result rest,
        session.trace history = earlier ++ .call (.load (.error error)) :: since
          ++ .call (.save settings result) :: rest →
        (error.IsSettingsError ∨ ∃ fault, error = .disk fault) →
        ∃ loaded, .call (.load (.ok loaded)) ∈ since := by
  have remembered : ∀ before settings result rest,
      session.trace history = before ++ .call (.save settings result) :: rest →
      before.foldl Happening.remember none = some settings := by
    intro before settings result rest split
    have saves := (session.after_remember history).2
    rw [split, saves_append] at saves
    exact saves.2.1 settings result rfl
  constructor
  · intro before settings result rest split
    obtain ⟨earlier, loaded, since, same, quiet, edited⟩ :=
      loaded_of_remember (remembered before settings result rest split)
    refine ⟨earlier, loaded, since, same, fun again member => ?_,
      edited ▸ Settings.isEdited_foldl loaded _⟩
    obtain ⟨error, failed, -⟩ := quiet _ member
    cases failed
  · intro earlier error since settings result rest split reported
    have known := remembered _ settings result rest split
    -- The failed load makes the editor forget all that came before.
    have forgotten : Happening.remember (earlier.foldl Happening.remember none)
        (.call (.load (.error error))) = none :=
      if_pos (LoadError.isSettingsError_or_disk_iff_reported.mp reported)
    rw [List.foldl_append, List.foldl_cons, forgotten] at known
    obtain ⟨before, loaded, after, same, -, -⟩ := loaded_of_remember known
    exact ⟨loaded, by rw [same]; exact List.mem_append_right _ List.mem_cons_self⟩

/-- Edits of two fields, the second time of one of them, and a save. -/
def twoEdits : List (Moment Settings) :=
  [.event .save (by decide), .event (.switch .highlightMode false false) (by decide),
    .event (.switch .hideContentCredentials true false) (by decide),
    .event (.switch .highlightMode true false) (by decide)]

/-- The last edit of each field is saved. -/
theorem saves_loaded_edited_twice :
    let session : Session Settings := ⟨.memory, {}⟩
    let saved : Settings := { hideContentCredentials := true }
    ∃ before, session.trace twoEdits = before ++ [.call (.save saved (.ok ()))]
      ∧ ∃ earlier loaded since, before = earlier ++ .call (.load (.ok loaded)) :: since
        ∧ loaded.IsEdited (since.filterMap Happening.edit?) saved := by
  intro session saved
  have split : session.trace twoEdits
      = [.call (.load (.ok {})), .edit (.option .highlightMode true),
          .edit (.option .hideContentCredentials true), .edit (.option .highlightMode false)]
        ++ [.call (.save saved (.ok ()))] := rfl
  obtain ⟨earlier, loaded, since, same, -, edited⟩ :=
    (session.saves_loaded_edited twoEdits).1 _ _ _ _ split
  exact ⟨_, split, earlier, loaded, since, same, edited⟩

/-- An editor of a file that is not there at first. -/
def ofNearFile : Session Disk := ⟨SettingsFile.nearFile.store, ⟨[]⟩⟩

/-- Bytes that are no text come in place of the file, and the editor is told to load. -/
def undecodableLoaded : List (Moment Disk) :=
  [.event .reload (by decide), .outside fun _ => SettingsFile.onlyFile [0xff]]

/-- A file with an error that the editor does not know of is written over, though nothing was
edited. -/
theorem saves_afterUnreportedLoad :
    let written := .event .save (by decide) :: undecodableLoaded
    ofNearFile.trace written
        = [.call (.load (.ok {})), .call (.load (.error (.notText ⟨.badStart, 0, 1, 0xff⟩))),
          .call (.save {} (.ok ()))]
      ∧ (ofNearFile.after undecodableLoaded).2.content SettingsFile.nearFile.path = .ok [0xff]
      ∧ (ofNearFile.after written).2.content SettingsFile.nearFile.path
        = .ok (Text.encode (SettingsFile.write {})) := by
  intro written
  have loaded : ofNearFile.trace undecodableLoaded
      = [.call (.load (.ok {})), .call (.load (.error (.notText ⟨.badStart, 0, 1, 0xff⟩)))] := rfl
  have held : (ofNearFile.after undecodableLoaded).1.settings = some {} := rfl
  have disk : (ofNearFile.after undecodableLoaded).2 = SettingsFile.onlyFile [0xff] := rfl
  have done : (SettingsFile.nearFile.save {} (SettingsFile.onlyFile [0xff])).result = .ok () := rfl
  obtain ⟨calls, world⟩ := Panel.take_save ofNearFile.store held
    (ofNearFile.after undecodableLoaded).2
  rw [disk] at calls world
  refine ⟨?_, rfl, ?_⟩
  · have answered : (ofNearFile.store.save {} (SettingsFile.onlyFile [0xff])).2 = .ok () :=
      congrArg (Except.mapError SaveError.disk) done
    rw [answered] at calls
    rw [trace, disk, calls, loaded]
    rfl
  · have same : (ofNearFile.after written).2
        = (SettingsFile.nearFile.save {} (SettingsFile.onlyFile [0xff])).disk := by
      rw [after, disk, world]
      rfl
    rw [same]
    exact SettingsFile.content_of_save done

end Session

end FeedFilter
