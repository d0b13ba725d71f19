/-
**An editor from its start on.**

An editor is started and then takes events, while others may change the world of its store. Its
trace keeps, oldest first, the edits of the user and the calls to the store with what came of them.
Edits are never lost silently: what is held without a mark of edits is what the last call that
succeeded settled, and the mark and the edits only go by a save that succeeded or where the user
gave them up.

A history goes on after a handler that stopped, with what that handler left. So what holds after all
histories holds whether or not such an error ends the editor: a run that it ends is a history that
has no later events.

* `Session.after`, `Session.trace`: the editor after a history, and its trace.
* `Happening.settled?`: the settings that a call settled.
* `Panel.KeepsEdits`: how far an event may change what is held; `keepsEdits_of_taken`: every event
  obeys this.
* `Session.after_isSettled`: what is held after any history; `Session.edits_kept`: both together.
-/

import FeedFilter.Proofs.Editor.Steps

namespace FeedFilter

variable {World : Type}

/-! ### Histories and their traces -/

/-- What happens after the start: an event, or a change of the world by others. -/
inductive Moment (World : Type) where
  | event (event : PanelEvent) (later : event ≠ .mount)
  | outside (change : World → World)

/-- What matters of an event: an edit of the user, or a call to the store. -/
inductive Happening where
  | edit (edit : Edit)
  | call (made : StoreCall)

/-- The settings of a call that succeeded: those that were loaded or saved. -/
def StoreCall.settled? : StoreCall → Option Settings
  | load (.ok settings) => some settings
  | save settings (.ok ()) => some settings
  | _ => none

/-- The settings that something settled. -/
def Happening.settled? : Happening → Option Settings
  | edit _ => none
  | call made => made.settled?

/-- What happens at an event with some calls. -/
def PanelEvent.happenings (event : PanelEvent) (calls : List StoreCall) : List Happening :=
  event.edit?.toList.map .edit ++ calls.map .call

/-- A store that an editor is started on. -/
structure Session (World : Type) where
  store : SettingsStore World
  start : World

namespace Session

/-- The editor and the world after a history, whose newest moment is in front. -/
def after (session : Session World) : List (Moment World) → Panel × World
  | [] =>
    let started := ({} : Panel).take session.store session.start .mount
    (started.panel, started.world)
  | .event event _ :: history =>
    let taken := (session.after history).1.take session.store (session.after history).2 event
    (taken.panel, taken.world)
  | .outside change :: history => ((session.after history).1, change (session.after history).2)

/-- What happened in a history, the oldest in front. -/
def trace (session : Session World) : List (Moment World) → List Happening
  | [] => PanelEvent.mount.happenings (session.store.callsOf {} session.start .mount)
  | .event event _ :: history =>
    session.trace history
      ++ event.happenings
        (session.store.callsOf (session.after history).1 (session.after history).2 event)
  | .outside _ :: history => session.trace history

end Session

namespace Panel

/-! ### What is held -/

namespace Holding

theorem edit_settings (holding : Holding) (edit : Edit) :
    (holding.edit edit).settings = holding.settings.map fun settings => settings.edit edit := by
  unfold Holding.edit
  cases held : holding.settings with
  | none => exact held
  | some settings => rfl

@[simp]
theorem edit_exited (holding : Holding) (edit : Edit) :
    (holding.edit edit).exited = holding.exited := by
  unfold Holding.edit
  split <;> rfl

/-- No edit removes the mark. -/
theorem edit_dirty {holding : Holding} (marked : holding.dirty = true) (edit : Edit) :
    (holding.edit edit).dirty = true := by
  unfold Holding.edit
  split
  · exact marked
  · rfl

@[simp]
theorem loaded_exited (holding : Holding) (result : Except LoadError Settings) :
    (holding.loaded result).exited = holding.exited := by
  unfold loaded
  split
  · rfl
  · split <;> rfl

@[simp]
theorem saved_exited (holding : Holding) (result : Except SaveError Unit) :
    (holding.saved result).exited = holding.exited := by
  cases result <;> rfl

@[simp]
theorem saved_settings (holding : Holding) (result : Except SaveError Unit) :
    (holding.saved result).settings = holding.settings := by
  cases result <;> rfl

/-- Only settings are edited, and settings that are not marked are the last that were settled. -/
structure IsSettled (holding : Holding) (trace : List Happening) : Prop where
  held : holding.dirty = true → holding.settings.isSome
  last : ∀ settings, holding.settings = some settings → holding.dirty = false →
    (trace.filterMap Happening.settled?).getLast? = some settings

theorem isSettled_of_none {holding : Holding} (none : holding.settings = none)
    (clean : holding.dirty = false) (trace : List Happening) : holding.IsSettled trace where
  held marked := absurd (clean.symm.trans marked) (by decide)
  last settings held := absurd (none.symm.trans held) nofun

namespace IsSettled

variable {holding : Holding} {trace : List Happening}

theorem edit (settled : holding.IsSettled trace) (edit : Edit) :
    (holding.edit edit).IsSettled (trace ++ [.edit edit]) := by
  unfold Holding.edit
  cases held : holding.settings with
  | none =>
    have clean : holding.dirty = false := by
      refine eq_false_of_ne_true fun marked => ?_
      have some := settled.held marked
      rw [held] at some
      cases some
    exact isSettled_of_none held clean _
  | some settings => exact ⟨fun _ => rfl, fun _ _ clean => nomatch clean⟩

/-- A call that settles nothing leaves the last that was settled. -/
theorem after_call (settled : holding.IsSettled trace) {made : StoreCall}
    (nothing : made.settled? = none) : holding.IsSettled (trace ++ [.call made]) := by
  have nothing : (Happening.call made).settled? = none := nothing
  have same : (trace ++ [Happening.call made]).filterMap Happening.settled?
      = trace.filterMap Happening.settled? := by
    rw [List.filterMap_append, List.filterMap_cons_none nothing, List.filterMap_nil,
      List.append_nil]
  exact ⟨settled.held, same ▸ settled.last⟩

/-- A call that settles what is held. -/
theorem of_call {settings : Settings} (held : holding.settings = some settings) {made : StoreCall}
    (settles : made.settled? = some settings) (trace : List Happening) :
    holding.IsSettled (trace ++ [.call made]) where
  held _ := Option.isSome_of_eq_some held
  last other same _ := by
    have settles : (Happening.call made).settled? = some settings := settles
    rw [List.filterMap_append, List.filterMap_cons_some settles, List.filterMap_nil,
      List.getLast?_concat, ← held, same]

theorem loaded (settled : holding.IsSettled trace) (result : Except LoadError Settings) :
    (holding.loaded result).IsSettled (trace ++ [.call (.load result)]) := by
  cases result with
  | ok settings => exact of_call rfl rfl trace
  | error error =>
    unfold Holding.loaded
    cases known : error.report? with
    | none =>
      simp only [known]
      exact settled.after_call rfl
    | some report =>
      simp only [known]
      exact isSettled_of_none rfl rfl _

theorem saved (settled : holding.IsSettled trace) {settings : Settings}
    (held : holding.settings = some settings) (result : Except SaveError Unit) :
    (holding.saved result).IsSettled (trace ++ [.call (.save settings result)]) := by
  cases result with
  | ok done =>
    have kept : (holding.saved (.ok done)).settings = some settings := held
    exact of_call kept rfl trace
  | error error => exact settled.after_call rfl

theorem left (settled : holding.IsSettled trace) : holding.left.IsSettled trace :=
  ⟨settled.held, settled.last⟩

end IsSettled

end Holding

/-- **What is held stays settled by every event.** -/
theorem isSettled_of_taken {panel : Panel} {event : PanelEvent} {holding : Holding}
    {calls : List StoreCall} (taken : Taken panel event holding calls) {trace : List Happening}
    (settled : panel.holding.IsSettled trace) :
    holding.IsSettled (trace ++ event.happenings calls) := by
  unfold PanelEvent.happenings
  cases taken with
  | edited edit own =>
    rw [own]
    exact settled.edit edit
  | unchanged own =>
    rw [own]
    simpa using settled
  | loaded own idle free result =>
    rw [own]
    exact settled.loaded result
  | left own =>
    rw [own]
    simpa using settled.left
  | saved own settings held result =>
    rw [own]
    exact settled.saved held result
  | savedAndLeft own settings held =>
    rw [own]
    exact (settled.saved held (.ok ())).left
  | savedAndLoaded own settings held result =>
    rw [own]
    have both := (settled.saved held (.ok ())).loaded result
    rwa [List.append_assoc] at both

/-- **How far an event may change what is held.** The editor is only left, and settings are only
loaded, when nothing was edited, when the user gave the edits up, or right after the settings in
memory were saved. -/
structure KeepsEdits (before : Panel) (event : PanelEvent) (calls : List StoreCall)
    (after : Holding) : Prop where
  /-- The editor is left. -/
  left : before.exited = false → after.exited = true → before.dirty = false ∨ before.GivesUp event
    ∨ ∃ settings, before.settings = some settings ∧ calls = [.save settings (.ok ())]
  /-- Settings are loaded. -/
  loaded : ∀ result, .load result ∈ calls → before.dirty = false ∨ before.GivesUp event
    ∨ ∃ settings, before.settings = some settings
      ∧ calls = [.save settings (.ok ()), .load result]
  /-- Without loading the settings only change by an edit of the user. -/
  edited : (∀ result, .load result ∉ calls) →
    after.settings = before.settings.map fun settings => event.edit?.elim settings settings.edit
  /-- The mark only goes by saving the settings in memory or by loading. -/
  marked : before.dirty = true → after.dirty = false → (∃ result, .load result ∈ calls)
    ∨ ∃ settings, before.settings = some settings ∧ .save settings (.ok ()) ∈ calls
  /-- Saving is tried once, and when it fails, by whatever error, all stays as it was. -/
  failed : ∀ settings error, .save settings (.error error) ∈ calls →
    calls = [.save settings (.error error)] ∧ after = before.holding
  /-- Without settings nothing is saved, and all stays as it was. -/
  refused : before.WantsSave event → before.settings = none → calls = [] ∧ after = before.holding

/-- **Every event keeps edits.** -/
theorem keepsEdits_of_taken {panel : Panel} {event : PanelEvent} {holding : Holding}
    {calls : List StoreCall} (later : event ≠ .mount) (taken : Taken panel event holding calls) :
    panel.KeepsEdits event calls holding := by
  have stays : ∀ after : Holding, after.exited = panel.exited →
      panel.exited = false → after.exited = true → False :=
    fun after same staying left => absurd (left.symm.trans (same.trans staying)) (by decide)
  -- Without an edit and a load the settings are those from before.
  have unedited (own : event.edit? = none) : panel.settings
      = panel.settings.map fun settings => event.edit?.elim settings settings.edit := by
    rw [own]
    exact Option.map_id'.symm
  cases taken with
  | edited edit own =>
    exact {
      left := fun staying left => (stays _ (Holding.edit_exited _ _) staying left).elim
      loaded := fun _ member => nomatch member
      edited := fun _ => by rw [Holding.edit_settings, own]; rfl
      marked := fun marked clean =>
        absurd (clean.symm.trans (Holding.edit_dirty marked edit)) (by decide)
      failed := fun _ _ member => nomatch member
      refused := fun wants => absurd wants (not_wantsSave_of_edit own) }
  | unchanged own idle =>
    exact {
      left := fun staying left => (stays _ rfl staying left).elim
      loaded := fun _ member => nomatch member
      edited := fun _ => unedited own
      marked := fun marked clean => absurd (clean.symm.trans marked) (by decide)
      failed := fun _ _ member => nomatch member
      refused := fun _ _ => ⟨rfl, rfl⟩ }
  | loaded own idle free result =>
    exact {
      left := fun staying left => (stays _ (Holding.loaded_exited _ _) staying left).elim
      loaded := fun _ _ => (free.resolve_left later).imp_right .inl
      edited := fun none => absurd List.mem_cons_self (none result)
      marked := fun _ _ => .inl ⟨result, List.mem_cons_self⟩
      failed := fun _ _ member => nomatch List.mem_singleton.mp member
      refused := fun wants => absurd wants idle }
  | left own idle free =>
    exact {
      left := fun _ _ => free.imp_right .inl
      loaded := fun _ member => nomatch member
      edited := fun _ => unedited own
      marked := fun marked clean => absurd (clean.symm.trans marked) (by decide)
      failed := fun _ _ member => nomatch member
      refused := fun wants => absurd wants idle }
  | saved own settings held result =>
    refine {
      left := fun staying left => (stays _ (Holding.saved_exited _ _) staying left).elim
      loaded := fun _ member => nomatch List.mem_singleton.mp member
      edited := fun _ => (Holding.saved_settings _ _).trans (unedited own)
      marked := fun marked clean => .inr ⟨settings, held, ?_⟩
      failed := fun other error member => ?_
      refused := fun _ none => nomatch held.symm.trans none }
    · cases result with
      | ok done => exact List.mem_cons_self
      | error error => exact absurd (clean.symm.trans marked) (by decide)
    · cases List.mem_singleton.mp member
      exact ⟨rfl, rfl⟩
  | savedAndLeft own settings held =>
    exact {
      left := fun _ _ => .inr (.inr ⟨settings, held, rfl⟩)
      loaded := fun _ member => nomatch List.mem_singleton.mp member
      edited := fun _ => unedited own
      marked := fun _ _ => .inr ⟨settings, held, List.mem_cons_self⟩
      failed := fun _ _ member => nomatch List.mem_singleton.mp member
      refused := fun _ none => nomatch held.symm.trans none }
  | savedAndLoaded own settings held result =>
    refine {
      left := fun staying left => (stays _ (Holding.loaded_exited _ _) staying left).elim
      loaded := fun other member => .inr (.inr ⟨settings, held, ?_⟩)
      edited := fun none => absurd (List.mem_cons_of_mem _ List.mem_cons_self) (none result)
      marked := fun _ _ => .inr ⟨settings, held, List.mem_cons_self⟩
      failed := fun _ _ member => ?_
      refused := fun _ none => nomatch held.symm.trans none }
    · have same : other = result := by simpa using member
      rw [same]
    · simp at member

end Panel

namespace Session

/-- What is held after a history is settled by it. -/
theorem after_isSettled (session : Session World) (history : List (Moment World)) :
    (session.after history).1.holding.IsSettled (session.trace history) := by
  induction history with
  | nil =>
    have start : ({} : Panel).holding.IsSettled [] := Panel.Holding.isSettled_of_none rfl rfl []
    exact Panel.isSettled_of_taken
      (Panel.take_taken session.store {} session.start .mount) start
  | cons moment history ih =>
    -- What others do to the world of the store does not reach the editor.
    cases moment with
    | event event later =>
      have taken := Panel.take_taken session.store (session.after history).1
        (session.after history).2 event
      exact Panel.isSettled_of_taken taken ih
    | outside change => exact ih

/-- **Edits are never lost silently.** After any history, over any store:

* only settings are marked as edited;
* settings that are not marked are those that were last loaded or saved with success;
* whatever event comes next, it keeps the edits. -/
theorem edits_kept (session : Session World) (history : List (Moment World)) :
    let panel := (session.after history).1
    let world := (session.after history).2
    (panel.dirty = true → panel.settings.isSome)
      ∧ (∀ settings, panel.settings = some settings → panel.dirty = false →
        ((session.trace history).filterMap Happening.settled?).getLast? = some settings)
      ∧ ∀ event, event ≠ .mount →
        panel.KeepsEdits event (session.store.callsOf panel world event)
          (panel.take session.store world event).panel.holding := by
  intro panel world
  obtain ⟨held, last⟩ := session.after_isSettled history
  exact ⟨held, last, fun event later =>
    Panel.keepsEdits_of_taken later (Panel.take_taken session.store panel world event)⟩

end Session

namespace SettingsStore

/-- A store that keeps nothing, and that nothing is saved to while something is in its way. -/
def hindered : SettingsStore (Option SaveError) where
  label := memoryLabel
  load obstacle := (obstacle, .ok {})
  save _ obstacle := (obstacle, obstacle.elim (.ok ()) .error)

end SettingsStore

namespace Session

/-- An error of a save that the editor does not know of. -/
def unencodable : SaveError := .other "surrogates not allowed"

/-- An option is turned on, something gets in the way of the store, and the user leaves. -/
def hinderedLeaving : List (Moment (Option SaveError)) :=
  [.event .leave (by decide), .outside fun _ => some unencodable,
    .event (.switch .hideSuggested true false) (by decide)]

/-- To save as the answer to the question fails, the handler stops, and the editor is not left. -/
theorem edits_kept_hindered :
    let session : Session (Option SaveError) := ⟨.hindered, none⟩
    let panel := (session.after hinderedLeaving).1
    let answered := panel.take .hindered (some unencodable) (.answer .save)
    panel.prompt.isSome ∧ panel.settings = some { hideSuggested := true }
      ∧ answered.result = .error (.save unencodable) ∧ answered.panel.settings = panel.settings
      ∧ answered.panel.dirty = true ∧ answered.panel.exited = false := by
  intro session panel answered
  obtain ⟨-, -, keeps⟩ := session.edits_kept hinderedLeaving
  have calls : session.store.callsOf panel (session.after hinderedLeaving).2 (.answer .save)
      = [.save { hideSuggested := true } (.error unencodable)] := rfl
  have keeps := keeps (.answer .save) (by decide)
  rw [calls] at keeps
  obtain ⟨-, same⟩ := keeps.failed _ _ List.mem_cons_self
  obtain ⟨settings, dirty, exited⟩ := Panel.Holding.mk.inj same
  exact ⟨rfl, rfl, rfl, settings, dirty, exited⟩

end Session

end FeedFilter
