/-
**What an event does to an editor and which calls to its store it makes.**

Of all that an editor shows, three things are at stake: the settings in memory, whether they were
edited, and whether the editor was left. An event changes them by an edit, by loading, by saving or
by leaving, or not at all. Its calls are those that a store has seen which does what the editor's
store does and writes them down.

* `SettingsStore.recorded`, `SettingsStore.callsOf`: the store that writes down calls, and the calls
  of an event.
* `Panel.Holding`: what is at stake.
* `saveThen_of_none`, `saveThen_of_saved`, `saveThen_of_failed`: what each way to save does.
* `take_seen`: over two stores of which one shows the other, an event does the same.
* `Panel.Taken`: all that an event can do to what is at stake, with its calls; `take_taken`: it does
  one of these things, whatever the store answers.
-/

import FeedFilter.Editor.Panel

namespace FeedFilter

variable {World : Type}

/-! ### Calls to a store -/

/-- A call to a store, and what came of it. -/
inductive StoreCall where
  | load (result : Except LoadError Settings)
  | save (settings : Settings) (result : Except SaveError Unit)

/-- A store that also writes down the calls, the newest at the end. -/
def SettingsStore.recorded (store : SettingsStore World) :
    SettingsStore (World × List StoreCall) where
  label := store.label
  load world :=
    (((store.load world.1).1, world.2 ++ [.load (store.load world.1).2]), (store.load world.1).2)
  save settings world :=
    (((store.save settings world.1).1,
        world.2 ++ [.save settings (store.save settings world.1).2]),
      (store.save settings world.1).2)

/-- The calls that an event leads to. -/
def SettingsStore.callsOf (store : SettingsStore World) (panel : Panel) (world : World)
    (event : PanelEvent) : List StoreCall :=
  (panel.take store.recorded (world, []) event).world.2

/-- One store does what another does, whose world is seen through a view. -/
structure SettingsStore.Shows {Other : Type} (view : World → Other) (store : SettingsStore World)
    (other : SettingsStore Other) : Prop where
  label : other.label = store.label
  load : ∀ world, other.load (view world) = (view (store.load world).1, (store.load world).2)
  save : ∀ settings world, other.save settings (view world)
    = (view (store.save settings world).1, (store.save settings world).2)

theorem SettingsStore.recorded_shows (store : SettingsStore World) :
    store.recorded.Shows Prod.fst store := ⟨rfl, fun _ => rfl, fun _ _ => rfl⟩

/-- A save is written down with what comes of it. -/
theorem SettingsStore.recorded_save {store : SettingsStore World} {settings : Settings}
    {world ending : World} {result : Except SaveError Unit}
    (answered : store.save settings world = (ending, result)) :
    store.recorded.save settings (world, []) = ((ending, [.save settings result]), result) := by
  simp only [recorded, answered, List.nil_append]

/-- The end of a handler, with its world seen through a view. -/
def PanelStep.seen {Other : Type} (view : World → Other) (step : PanelStep World) :
    PanelStep Other :=
  ⟨step.panel, view step.world, step.result⟩

/-- The edit that an event is, if it is one of the user. -/
def PanelEvent.edit? : PanelEvent → Option Edit
  | edit text false => some (.patterns text)
  | switch option value false => some (.option option value)
  | _ => none

namespace Panel

/-! ### What is at stake -/

/-- The settings in memory, whether they were edited, and whether the editor was left. -/
structure Holding where
  settings : Option Settings
  dirty : Bool
  exited : Bool

/-- What is at stake in an editor. -/
def holding (panel : Panel) : Holding := ⟨panel.settings, panel.dirty, panel.exited⟩

namespace Holding

/-- What an edit makes of it. -/
def edit (holding : Holding) (edit : Edit) : Holding :=
  match holding.settings with
  | none => holding
  | some settings => { holding with settings := some (settings.edit edit), dirty := true }

/-- What loading makes of it: an error that the editor does not know of changes nothing. -/
def loaded (holding : Holding) : Except LoadError Settings → Holding
  | .ok settings => { holding with settings := some settings, dirty := false }
  | .error error =>
    match error.report? with
    | some _ => { holding with settings := none, dirty := false }
    | none => holding

/-- What saving makes of it. -/
def saved (holding : Holding) : Except SaveError Unit → Holding
  | .ok () => { holding with dirty := false }
  | .error _ => holding

/-- What leaving makes of it. -/
def left (holding : Holding) : Holding := { holding with exited := true }

end Holding

theorem refreshRemarks_holding {panel refreshed : Panel} {text : Text}
    (shown : panel.refreshRemarks text = .ok refreshed) : refreshed.holding = panel.holding := by
  rw [refreshRemarks] at shown
  cases listed : Document.errors text with
  | error breakdown =>
    rw [listed] at shown
    cases shown
  | ok ignored =>
    rw [listed] at shown
    cases shown
    rfl

theorem update_holding (panel : Panel) (edit : Edit) :
    (panel.update edit).holding = panel.holding.edit edit := by
  unfold update Holding.edit
  cases held : panel.settings with
  | none => simp only [holding, held]
  | some settings => simp only [holding, held, refreshHeader]

/-! ### The handlers -/

/-- A change in the editor of patterns makes an edit, unless a form is being filled. -/
theorem edit_spec (panel : Panel) (world : World) (text : Text) (filling : Bool) :
    (panel.edit world text filling).panel.holding
        = (if filling then panel.holding else panel.holding.edit (.patterns text))
      ∧ (panel.edit world text filling).world = world := by
  unfold edit
  cases filling with
  | true => exact ⟨rfl, rfl⟩
  | false =>
    have updated := update_holding { panel with editor := text } (.patterns text)
    dsimp only
    cases shown : ({ panel with editor := text }.update (.patterns text)).refreshRemarks text with
    | error breakdown => exact ⟨updated, rfl⟩
    | ok refreshed => exact ⟨(refreshRemarks_holding shown).trans updated, rfl⟩

theorem switch_holding (panel : Panel) (option : SettingsOption) (value filling : Bool) :
    (panel.switch option value filling).holding
      = if filling then panel.holding else panel.holding.edit (.option option value) := by
  cases filling with
  | true => rfl
  | false => exact update_holding (panel.putSwitch option value) (.option option value)

theorem test_holding {panel tested : Panel} {text : Text} {entry : Entry}
    (done : panel.test text entry = .ok tested) : tested.holding = panel.holding := by
  unfold test at done
  split at done
  · cases done
    rfl
  · split at done
    · cases done
      rfl
    · split at done
      · cases done
        rfl
      · cases done

/-- Showing what was loaded changes nothing that is at stake but the mark of edits. -/
theorem showLoaded_spec (panel : Panel) (world : World) :
    (panel.showLoaded world).panel.holding = { panel.holding with dirty := false }
      ∧ (panel.showLoaded world).world = world := by
  unfold showLoaded
  dsimp only
  split
  · next refreshed shown => exact ⟨refreshRemarks_holding shown, rfl⟩
  · exact ⟨rfl, rfl⟩

theorem load_spec (store : SettingsStore World) (panel : Panel) (world : World) :
    (panel.load store world).panel.holding = panel.holding.loaded (store.load world).2
      ∧ (panel.load store world).world = (store.load world).1 := by
  unfold load
  rcases store.load world with ⟨after, error | settings⟩
  · cases known : error.report? with
    | none => simp only [known, Holding.loaded, and_self]
    | some report =>
      simp only [known, Holding.loaded]
      exact showLoaded_spec _ after
  · exact showLoaded_spec _ after

section Saving

variable {store : SettingsStore World} {panel : Panel} {world ending : World} {settings : Settings}

theorem saveThen_of_none (none : panel.settings = none) (store : SettingsStore World)
    (world : World) (next : Panel → World → PanelStep World) :
    (panel.saveThen store world next).panel.holding = panel.holding
      ∧ (panel.saveThen store world next).world = world := by
  unfold saveThen save
  rw [none]
  exact ⟨by simp only [finish, holding, refreshHeader, none], rfl⟩

theorem saveThen_of_saved (held : panel.settings = some settings)
    (done : store.save settings world = (ending, .ok ())) (next : Panel → World → PanelStep World) :
    panel.saveThen store world next
      = next { panel with dirty := false, error := none }.refreshHeader ending := by
  unfold saveThen save
  rw [held]
  dsimp only
  rw [done]

/-- When saving fails all that is at stake stays, whether the user is told of the error or the
handler stops at it. -/
theorem saveThen_of_failed (held : panel.settings = some settings) {error : SaveError}
    (failed : store.save settings world = (ending, .error error))
    (next : Panel → World → PanelStep World) :
    (panel.saveThen store world next).panel.holding = panel.holding
      ∧ (panel.saveThen store world next).world = ending := by
  unfold saveThen save
  rw [held]
  dsimp only
  rw [failed]
  dsimp only
  cases known : error.report? with
  | none => exact ⟨rfl, rfl⟩
  | some report => exact ⟨by simp only [finish, holding, refreshHeader, held], rfl⟩

/-- Settings are saved by one call, as they are. -/
theorem take_save (store : SettingsStore World) (held : panel.settings = some settings)
    (world : World) :
    store.callsOf panel world .save = [.save settings (store.save settings world).2]
      ∧ (panel.take store world .save).world = (store.save settings world).1 := by
  unfold SettingsStore.callsOf take
  rcases answered : store.save settings world with ⟨ending, error | _⟩
  · obtain ⟨-, called⟩ := saveThen_of_failed held (SettingsStore.recorded_save answered)
      fun after ending => finish ending after
    exact ⟨congrArg Prod.snd called, (saveThen_of_failed held answered _).2⟩
  · rw [saveThen_of_saved held (SettingsStore.recorded_save answered),
      saveThen_of_saved held answered]
    exact ⟨rfl, rfl⟩

end Saving

/-! ### Events -/

/-- Whether the user gives up what was edited: it is discarded when leaving was asked about, or
loaded again when that was asked about. -/
def GivesUp (panel : Panel) (event : PanelEvent) : Prop :=
  ∃ prompt, panel.prompt = some prompt
    ∧ ((prompt.kind = .leave ∧ event = .answer .discard)
      ∨ (prompt.kind = .reload ∧ event = .answer .reload))

/-- Whether the user wants the settings saved, at once or as the answer to a question. -/
def WantsSave (panel : Panel) (event : PanelEvent) : Prop :=
  event = .save ∨ (panel.prompt.isSome ∧ event = .answer .save)

theorem not_wantsSave {panel : Panel} {event : PanelEvent} (direct : event ≠ .save)
    (asked : event ≠ .answer .save) : ¬ panel.WantsSave event := by
  rintro (save | ⟨-, answer⟩)
  · exact direct save
  · exact asked answer

theorem not_wantsSave_answer {panel : Panel} {answer : Answer} (other : answer ≠ .save) :
    ¬ panel.WantsSave (.answer answer) :=
  not_wantsSave (by simp) fun same => other (PanelEvent.answer.inj same)

/-- An edit is no wish to save. -/
theorem not_wantsSave_of_edit {panel : Panel} {event : PanelEvent} {edit : Edit}
    (own : event.edit? = some edit) : ¬ panel.WantsSave event := by
  rintro (rfl | ⟨-, rfl⟩) <;> cases own

/-- All that an event can do to what is at stake, and the calls to the store that it leads to. -/
inductive Taken (panel : Panel) (event : PanelEvent) : Holding → List StoreCall → Prop
  | edited (edit : Edit) (own : event.edit? = some edit) :
    Taken panel event (panel.holding.edit edit) []
  | unchanged (own : event.edit? = none) (idle : panel.WantsSave event → panel.settings = none) :
    Taken panel event panel.holding []
  | loaded (own : event.edit? = none) (idle : ¬ panel.WantsSave event)
    (free : event = .mount ∨ panel.dirty = false ∨ panel.GivesUp event)
    (result : Except LoadError Settings) :
    Taken panel event (panel.holding.loaded result) [.load result]
  | left (own : event.edit? = none) (idle : ¬ panel.WantsSave event)
    (free : panel.dirty = false ∨ panel.GivesUp event) :
    Taken panel event panel.holding.left []
  | saved (own : event.edit? = none) (settings : Settings) (held : panel.settings = some settings)
    (result : Except SaveError Unit) :
    Taken panel event (panel.holding.saved result) [.save settings result]
  | savedAndLeft (own : event.edit? = none) (settings : Settings)
    (held : panel.settings = some settings) :
    Taken panel event (panel.holding.saved (.ok ())).left [.save settings (.ok ())]
  | savedAndLoaded (own : event.edit? = none) (settings : Settings)
    (held : panel.settings = some settings) (result : Except LoadError Settings) :
    Taken panel event ((panel.holding.saved (.ok ())).loaded result)
      [.save settings (.ok ()), .load result]

variable {store : SettingsStore World} {panel closed : Panel} {world : World} {prompt : Prompt}

/-- An answer that keeps everything as it is. -/
theorem unchanged_answer (same : closed.holding = panel.holding) {answer : Answer}
    (other : answer ≠ .save) : Taken panel (.answer answer) closed.holding [] := by
  rw [same]
  exact .unchanged rfl fun wants => absurd wants (not_wantsSave_answer other)

theorem load_taken {event : PanelEvent} (own : event.edit? = none) (idle : ¬ panel.WantsSave event)
    (free : event = .mount ∨ panel.dirty = false ∨ panel.GivesUp event)
    (same : closed.holding = panel.holding) :
    Taken panel event (closed.load store.recorded (world, [])).panel.holding
      (closed.load store.recorded (world, [])).world.2 := by
  obtain ⟨kept, ending⟩ := load_spec store.recorded closed (world, [])
  rw [kept, ending, same]
  exact .loaded own idle free (store.load world).2

/-- What saving does with what comes after it. -/
theorem saveThen_taken {event : PanelEvent} (own : event.edit? = none)
    (same : closed.holding = panel.holding)
    {next : Panel → World × List StoreCall → PanelStep (World × List StoreCall)}
    (goesOn : ∀ settings after ending, panel.settings = some settings →
      after.holding = panel.holding.saved (.ok ()) →
      Taken panel event (next after (ending, [.save settings (.ok ())])).panel.holding
        (next after (ending, [.save settings (.ok ())])).world.2) :
    Taken panel event (closed.saveThen store.recorded (world, []) next).panel.holding
      (closed.saveThen store.recorded (world, []) next).world.2 := by
  have sameSettings : closed.settings = panel.settings := congrArg Holding.settings same
  cases held : closed.settings with
  | none =>
    obtain ⟨kept, still⟩ := saveThen_of_none held store.recorded (world, []) next
    rw [kept, still, same]
    exact .unchanged own fun _ => sameSettings ▸ held
  | some settings =>
    rcases answered : store.save settings world with ⟨ending, error | _⟩
    · obtain ⟨kept, called⟩ :=
        saveThen_of_failed held (SettingsStore.recorded_save answered) next
      rw [kept, called, same]
      exact .saved own settings (sameSettings ▸ held) (.error error)
    · rw [saveThen_of_saved held (SettingsStore.recorded_save answered)]
      refine goesOn settings _ ending (sameSettings ▸ held) ?_
      show closed.holding.saved (.ok ()) = panel.holding.saved (.ok ())
      rw [same]

/-- What an answer to the question about leaving does. -/
theorem answerLeave_taken (same : closed.holding = panel.holding)
    (asked : panel.prompt = some prompt) (kind : prompt.kind = .leave) (answer : Answer) :
    Taken panel (.answer answer)
      (closed.answerLeave store.recorded (world, []) answer).panel.holding
      (closed.answerLeave store.recorded (world, []) answer).world.2 := by
  cases answer with
  | discard =>
    have idle : ¬ panel.WantsSave (.answer .discard) := not_wantsSave_answer nofun
    have left : Taken panel (.answer .discard) panel.holding.left [] :=
      .left rfl idle (.inr ⟨prompt, asked, .inl ⟨kind, rfl⟩⟩)
    rwa [← same] at left
  | reload => exact unchanged_answer same nofun
  | cancel => exact unchanged_answer same nofun
  | save =>
    refine saveThen_taken rfl same fun settings after ending held kept => ?_
    have left : Taken panel (.answer .save) (panel.holding.saved (.ok ())).left
        [.save settings (.ok ())] := .savedAndLeft rfl settings held
    rwa [← kept] at left

/-- What an answer to the question about loading again does. -/
theorem answerReload_taken (same : closed.holding = panel.holding)
    (asked : panel.prompt = some prompt) (kind : prompt.kind = .reload) (answer : Answer) :
    Taken panel (.answer answer)
      (closed.answerReload store.recorded (world, []) answer).panel.holding
      (closed.answerReload store.recorded (world, []) answer).world.2 := by
  cases answer with
  | discard => exact unchanged_answer same nofun
  | cancel => exact unchanged_answer same nofun
  | reload =>
    exact load_taken rfl (not_wantsSave_answer nofun)
      (.inr (.inr ⟨prompt, asked, .inr ⟨kind, rfl⟩⟩)) same
  | save =>
    refine saveThen_taken rfl same fun settings after ending held kept => ?_
    obtain ⟨again, later⟩ := load_spec store.recorded after (ending, [.save settings (.ok ())])
    rw [again, later, kept]
    exact .savedAndLoaded rfl settings held (store.load ending).2

/-- What an answer does: without a question nothing. -/
theorem answer_taken (answer : Answer) :
    Taken panel (.answer answer)
      (Panel.answer store.recorded panel (world, []) answer).panel.holding
      (Panel.answer store.recorded panel (world, []) answer).world.2 := by
  unfold Panel.answer
  cases asked : panel.prompt with
  | none =>
    refine .unchanged rfl ?_
    rintro (direct | ⟨open_, -⟩)
    · cases direct
    · rw [asked] at open_
      cases open_
  | some prompt =>
    have same : { panel with prompt := none }.holding = panel.holding := rfl
    cases kind : prompt.kind with
    | leave =>
      simp only [kind]
      exact answerLeave_taken same asked kind answer
    | reload =>
      simp only [kind]
      exact answerReload_taken same asked kind answer

theorem mount_taken :
    Taken panel .mount (panel.mount store.recorded (world, [])).panel.holding
      (panel.mount store.recorded (world, [])).world.2 := by
  have idle : ¬ panel.WantsSave .mount := not_wantsSave (by decide) (by decide)
  have loaded : Taken panel .mount (panel.load store.recorded (world, [])).panel.holding
      (panel.load store.recorded (world, [])).world.2 := load_taken rfl idle (.inl rfl) rfl
  unfold mount
  revert loaded
  rcases panel.load store.recorded (world, []) with ⟨after, ending, fault | _⟩ <;> intro loaded
  · exact loaded
  · exact loaded

theorem requestReload_taken :
    Taken panel .reload (panel.requestReload store.recorded (world, [])).panel.holding
      (panel.requestReload store.recorded (world, [])).world.2 := by
  have idle : ¬ panel.WantsSave .reload := not_wantsSave (by decide) (by decide)
  unfold requestReload
  split
  · exact .unchanged rfl fun wants => absurd wants idle
  · next clean => exact load_taken rfl idle (.inr (.inl (eq_false_of_ne_true clean))) rfl

theorem requestLeave_taken :
    Taken panel .leave (panel.requestLeave store.recorded (world, [])).panel.holding
      (panel.requestLeave store.recorded (world, [])).world.2 := by
  have idle : ¬ panel.WantsSave .leave := not_wantsSave (by decide) (by decide)
  unfold requestLeave
  split
  · split <;> exact .unchanged rfl fun wants => absurd wants idle
  · next clean => exact .left rfl idle (.inl (eq_false_of_ne_true clean))

theorem save_taken :
    Taken panel .save (panel.take store.recorded (world, []) .save).panel.holding
      (panel.take store.recorded (world, []) .save).world.2 := by
  refine saveThen_taken rfl rfl fun settings after ending held kept => ?_
  have saved : Taken panel .save (panel.holding.saved (.ok ())) [.save settings (.ok ())] :=
    .saved rfl settings held (.ok ())
  rwa [← kept] at saved

/-- What an event does over a store that writes down its calls. -/
theorem recorded_taken (event : PanelEvent) :
    Taken panel event (panel.take store.recorded (world, []) event).panel.holding
      (panel.take store.recorded (world, []) event).world.2 := by
  have quiet : event.edit? = none → ¬ panel.WantsSave event →
      Taken panel event panel.holding [] :=
    fun own idle => .unchanged own fun wants => absurd wants idle
  cases event with
  | mount => exact mount_taken
  | edit text filling =>
    obtain ⟨kept, ending⟩ := edit_spec panel (world, []) text filling
    simp only [take]
    rw [kept, ending]
    cases filling with
    | true => exact quiet rfl (not_wantsSave (by simp) (by simp))
    | false => exact .edited _ rfl
  | switch option value filling =>
    simp only [take, finish]
    rw [switch_holding]
    cases filling with
    | true => exact quiet rfl (not_wantsSave (by simp) (by simp))
    | false => exact .edited _ rfl
  | save => exact save_taken
  | reload => exact requestReload_taken
  | leave => exact requestLeave_taken
  | answer answer => exact answer_taken answer
  | showTab name => exact quiet rfl (not_wantsSave (by simp) (by simp))
  | test text reactor suggested credentials =>
    have idle : ¬ panel.WantsSave (.test text reactor suggested credentials) :=
      not_wantsSave (by simp) (by simp)
    simp only [take]
    cases tested : panel.test text (testEntry text reactor suggested credentials) with
    | error fault => exact quiet rfl idle
    | ok after =>
      have kept : after.holding = panel.holding := test_holding tested
      dsimp only [finish]
      rw [kept]
      exact quiet rfl idle

/-! ### Stores seen through others -/

section Shows

variable {Other : Type} {view : World → Other} {other : SettingsStore Other}

theorem showLoaded_seen (view : World → Other) (panel : Panel) (world : World) :
    panel.showLoaded (view world) = (panel.showLoaded world).seen view := by
  unfold showLoaded
  dsimp only
  split <;> rfl

theorem edit_seen (view : World → Other) (panel : Panel) (world : World) (text : Text)
    (filling : Bool) :
    panel.edit (view world) text filling = (panel.edit world text filling).seen view := by
  unfold edit
  dsimp only
  split
  · rfl
  · split <;> rfl

variable (shows : store.Shows view other)
include shows

theorem load_seen (panel : Panel) (world : World) :
    panel.load other (view world) = (panel.load store world).seen view := by
  unfold load
  rw [shows.load]
  rcases store.load world with ⟨after, error | settings⟩
  · dsimp only
    split
    · exact showLoaded_seen view _ after
    · rfl
  · exact showLoaded_seen view _ after

theorem save_seen (panel : Panel) (world : World) :
    panel.save other (view world)
      = ((panel.save store world).1, view (panel.save store world).2.1,
          (panel.save store world).2.2) := by
  unfold save
  cases panel.settings with
  | none => rfl
  | some settings =>
    dsimp only
    rw [shows.save]
    rcases store.save settings world with ⟨after, error | _⟩
    · cases known : error.report? <;> simp only [known]
    · rfl

theorem saveThen_seen (panel : Panel) (world : World) {next : Panel → World → PanelStep World}
    {onward : Panel → Other → PanelStep Other}
    (goesOn : ∀ after ending, onward after (view ending) = (next after ending).seen view) :
    panel.saveThen other (view world) onward = (panel.saveThen store world next).seen view := by
  unfold saveThen
  rw [save_seen shows]
  rcases panel.save store world with ⟨after, ending, fault | _ | _⟩
  · rfl
  · rfl
  · exact goesOn after ending

theorem mount_seen (panel : Panel) (world : World) :
    panel.mount other (view world) = (panel.mount store world).seen view := by
  unfold mount
  rw [load_seen shows]
  rcases panel.load store world with ⟨after, ending, fault | _⟩ <;> rfl

theorem requestLeave_seen (panel : Panel) (world : World) :
    panel.requestLeave other (view world) = (panel.requestLeave store world).seen view := by
  unfold requestLeave
  rw [shows.label]
  split
  · split <;> rfl
  · rfl

theorem requestReload_seen (panel : Panel) (world : World) :
    panel.requestReload other (view world) = (panel.requestReload store world).seen view := by
  unfold requestReload
  rw [shows.label, load_seen shows]
  split <;> rfl

theorem answerLeave_seen (panel : Panel) (world : World) (answer : Answer) :
    panel.answerLeave other (view world) answer
      = (panel.answerLeave store world answer).seen view := by
  cases answer with
  | save => exact saveThen_seen shows panel world fun _ _ => rfl
  | discard => rfl
  | reload => rfl
  | cancel => rfl

theorem answerReload_seen (panel : Panel) (world : World) (answer : Answer) :
    panel.answerReload other (view world) answer
      = (panel.answerReload store world answer).seen view := by
  cases answer with
  | save => exact saveThen_seen shows panel world (load_seen shows)
  | reload => exact load_seen shows panel world
  | discard => rfl
  | cancel => rfl

theorem answer_seen (panel : Panel) (world : World) (answer : Answer) :
    Panel.answer other panel (view world) answer
      = (Panel.answer store panel world answer).seen view := by
  unfold Panel.answer
  cases panel.prompt with
  | none => rfl
  | some prompt =>
    cases kind : prompt.kind with
    | leave =>
      simp only [kind]
      exact answerLeave_seen shows _ world answer
    | reload =>
      simp only [kind]
      exact answerReload_seen shows _ world answer

/-- **Over a store that shows another an event does the same.** -/
theorem take_seen (panel : Panel) (world : World) (event : PanelEvent) :
    panel.take other (view world) event = (panel.take store world event).seen view := by
  cases event with
  | mount => exact mount_seen shows panel world
  | edit text filling => exact edit_seen view panel world text filling
  | switch option value filling => rfl
  | save => exact saveThen_seen shows panel world fun _ _ => rfl
  | reload => exact requestReload_seen shows panel world
  | leave => exact requestLeave_seen shows panel world
  | answer answer => exact answer_seen shows panel world answer
  | showTab name => rfl
  | test text reactor suggested credentials =>
    simp only [take]
    split <;> rfl

end Shows

/-- **An event does one of these things**, whatever the store answers. -/
theorem take_taken (store : SettingsStore World) (panel : Panel) (world : World)
    (event : PanelEvent) :
    Taken panel event (panel.take store world event).panel.holding
      (store.callsOf panel world event) := by
  have same : panel.take store world event
      = (panel.take store.recorded (world, []) event).seen Prod.fst :=
    take_seen store.recorded_shows panel (world, []) event
  rw [same]
  exact recorded_taken event

end Panel

end FeedFilter
