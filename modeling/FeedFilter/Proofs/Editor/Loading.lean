/-
**An editor that has loaded its settings.**

To show what was loaded the editor fills its forms, and a form gives notice of what is filled in
just as of what the user changes. A notice that is handled while the form is being filled is known
for what it is. One that is handled later is taken for an edit of the user: it changes no setting,
since it says what the settings say already, but it marks them as edited.

The notices are handled up to the first that a handler stops at (`Panel.takeAll`), unlike the events
of a history (`Session.after`): that none of them stops is part of what is shown.

* `Panel.Loads`, `load_called_iff`: the ways in which an event loads settings.
* `Panel.Shows`: an editor that holds settings and shows them in all its forms.
* `PanelStep.IsLoaded`: what loading comes to; `take_isLoaded`: in each of the ways.
* `Panel.posted`: what the forms give notice of; `edit_of_posted`: none of it changes the settings.
* `Shows.takeNotice`, `Shows.takeNotices`: what one notice does, and what all of them do.
* `Panel.marked_by_lateNotices`: the editor after it has loaded, and after all notices.
-/

import FeedFilter.Proofs.Document.Breakdown
import FeedFilter.Proofs.Editor.Steps

namespace FeedFilter

variable {World : Type}

/-! ### What an editor shows, and what its forms give notice of -/

/-- Whether an editor holds some settings and shows them in its header and its forms, as edited or
not. -/
structure Panel.Shows (panel : Panel) (settings : Settings) (edited : Bool) : Prop where
  held : panel.settings = some settings
  dirty : panel.dirty = edited
  error : panel.error = none
  status : panel.status = some (if edited then .modified else .loaded)
  saveLocked : panel.saveLocked = !edited
  editor : panel.editor = settings.filterPatterns
  editorLocked : panel.editorLocked = false
  switches : panel.switches
    = SettingsOption.all.map fun option => (option, option.isOn settings)
  switchesLocked : panel.switchesLocked = false

/-- What loading settings comes to: the editor shows them, unless their patterns break down;
then it stops when only the editor of patterns is filled. -/
structure PanelStep.IsLoaded (before : Panel) (loaded : Settings) (step : PanelStep World) :
    Prop where
  shown : Document.breakdown? loaded.filterPatterns = none →
    step.result = .ok () ∧ step.panel.Shows loaded false
  stopped : ∀ breakdown, Document.breakdown? loaded.filterPatterns = some breakdown →
    step.result = .error (.fault (.breakdown breakdown)) ∧ step.panel.settings = some loaded
      ∧ step.panel.dirty = false ∧ step.panel.status = some .loaded
      ∧ step.panel.editor = loaded.filterPatterns ∧ step.panel.switches = before.switches

/-- What a form gives notice of, and whether this is handled early: while the form is filled. -/
structure Notice where
  change : Edit
  early : Bool

/-- The event of handling a notice. -/
def Notice.event (notice : Notice) : PanelEvent :=
  match notice.change with
  | .patterns text => .edit text notice.early
  | .option option value => .switch option value notice.early

namespace Panel

/-! ### Events that load -/

/-- The ways in which an event loads settings: at the start, without a question, as the answer to
one, and after saving as the answer to one. -/
inductive Loads (store : SettingsStore World) (panel : Panel) (world : World) (loaded : Settings) :
    PanelEvent → Prop
  | start (read : (store.load world).2 = .ok loaded) : Loads store panel world loaded .mount
  | unasked (clean : panel.dirty = false) (read : (store.load world).2 = .ok loaded) :
    Loads store panel world loaded .reload
  | asked (prompt : Prompt) (open_ : panel.prompt = some prompt) (kind : prompt.kind = .reload)
    (read : (store.load world).2 = .ok loaded) : Loads store panel world loaded (.answer .reload)
  | saved (prompt : Prompt) (open_ : panel.prompt = some prompt) (kind : prompt.kind = .reload)
    (settings : Settings) (held : panel.settings = some settings)
    (done : (store.save settings world).2 = .ok ())
    (read : (store.load (store.save settings world).1).2 = .ok loaded) :
    Loads store panel world loaded (.answer .save)

section Calls

variable {store : SettingsStore World} {panel : Panel} {world : World} {event : PanelEvent}
  {loaded : Settings}

theorem read_of_call {closed : Panel} {ready : World} {before : List StoreCall}
    (quiet : .load (.ok loaded) ∉ before)
    (called : .load (.ok loaded) ∈ (closed.load store.recorded (ready, before)).world.2) :
    (store.load ready).2 = .ok loaded := by
  rw [(load_spec store.recorded closed (ready, before)).2] at called
  rcases List.mem_append.mp called with earlier | now
  · exact absurd earlier quiet
  · exact (StoreCall.load.inj (List.mem_singleton.mp now)).symm

theorem not_load_of_save {settings : Settings} {result : Except SaveError Unit} :
    StoreCall.load (.ok loaded) ∉ [StoreCall.save settings result] := by
  intro member
  cases List.mem_singleton.mp member

theorem mount_world (store : SettingsStore World) (panel : Panel) (world : World) :
    (panel.mount store world).world = (panel.load store world).world := by
  unfold mount
  rcases panel.load store world with ⟨after, ending, fault | _⟩ <;> rfl

/-- Saving alone loads nothing, whatever becomes of the editor then. -/
theorem not_load_of_saveThen (closed : Panel) (next : Panel → Panel) :
    .load (.ok loaded) ∉ (closed.saveThen store.recorded (world, []) fun after ending =>
      finish ending (next after)).world.2 := by
  intro called
  cases held : closed.settings with
  | none =>
    rw [(saveThen_of_none held _ _ _).2] at called
    cases called
  | some settings =>
    rcases answered : store.save settings world with ⟨ending, error | _⟩
    · rw [(saveThen_of_failed held (SettingsStore.recorded_save answered) _).2] at called
      exact not_load_of_save called
    · rw [saveThen_of_saved held (SettingsStore.recorded_save answered)] at called
      exact not_load_of_save called

theorem not_load_of_answerLeave (closed : Panel) (answer : Answer) :
    .load (.ok loaded) ∉ (closed.answerLeave store.recorded (world, []) answer).world.2 := by
  cases answer with
  | save => exact not_load_of_saveThen closed exit
  | discard => exact List.not_mem_nil
  | reload => exact List.not_mem_nil
  | cancel => exact List.not_mem_nil

theorem loads_of_answerReload {prompt : Prompt} {answer : Answer}
    (open_ : panel.prompt = some prompt) (kind : prompt.kind = .reload) (closed : Panel)
    (same : closed.settings = panel.settings)
    (called : .load (.ok loaded)
      ∈ (closed.answerReload store.recorded (world, []) answer).world.2) :
    panel.Loads store world loaded (.answer answer) := by
  cases answer with
  | reload => exact .asked prompt open_ kind (read_of_call List.not_mem_nil called)
  | discard => cases called
  | cancel => cases called
  | save =>
    rw [answerReload] at called
    cases held : panel.settings with
    | none =>
      rw [(saveThen_of_none (same.trans held) _ _ _).2] at called
      cases called
    | some settings =>
      have kept := same.trans held
      rcases answered : store.save settings world with ⟨ending, error | _⟩
      · rw [(saveThen_of_failed kept (SettingsStore.recorded_save answered) _).2] at called
        exact absurd called not_load_of_save
      · rw [saveThen_of_saved kept (SettingsStore.recorded_save answered)] at called
        refine .saved prompt open_ kind settings held (by rw [answered]) ?_
        rw [answered]
        exact read_of_call not_load_of_save called

/-- Settings are loaded in one of these ways. -/
theorem loads_of_call (called : .load (.ok loaded) ∈ store.callsOf panel world event) :
    panel.Loads store world loaded event := by
  unfold SettingsStore.callsOf at called
  cases event with
  | mount =>
    rw [take, mount_world] at called
    exact .start (read_of_call List.not_mem_nil called)
  | edit text filling =>
    rw [take, (edit_spec panel (world, []) text filling).2] at called
    cases called
  | switch option value filling => cases called
  | save => exact absurd called (not_load_of_saveThen panel id)
  | reload =>
    rw [take, requestReload] at called
    split at called
    · cases called
    · next clean =>
      exact .unasked (eq_false_of_ne_true clean) (read_of_call List.not_mem_nil called)
  | leave =>
    rw [take, requestLeave] at called
    split at called
    · split at called <;> cases called
    · cases called
  | answer answer =>
    rw [take, Panel.answer] at called
    cases open_ : panel.prompt with
    | none =>
      rw [open_] at called
      cases called
    | some prompt =>
      rw [open_] at called
      cases kind : prompt.kind with
      | leave =>
        simp only [kind] at called
        exact absurd called (not_load_of_answerLeave _ answer)
      | reload =>
        simp only [kind] at called
        exact loads_of_answerReload open_ kind { panel with prompt := none } rfl called
  | showTab name => cases called
  | test text reactor suggested credentials =>
    rw [take] at called
    split at called <;> cases called

theorem call_of_read {ready : World} {before : List StoreCall} (closed : Panel)
    (read : (store.load ready).2 = .ok loaded) :
    .load (.ok loaded) ∈ (closed.load store.recorded (ready, before)).world.2 := by
  rw [(load_spec store.recorded closed (ready, before)).2, ← read]
  exact List.mem_append_right _ List.mem_cons_self

/-- **The events that load settings** are those that do so in one of these ways. -/
theorem load_called_iff :
    .load (.ok loaded) ∈ store.callsOf panel world event
      ↔ panel.Loads store world loaded event := by
  refine ⟨loads_of_call, fun loads => ?_⟩
  unfold SettingsStore.callsOf
  cases loads with
  | start read =>
    rw [take, mount_world]
    exact call_of_read panel read
  | unasked clean read =>
    rw [take, requestReload, if_neg (Bool.not_eq_true _ ▸ clean)]
    exact call_of_read panel read
  | asked prompt open_ kind read =>
    rw [take, Panel.answer, open_]
    simp only [kind]
    exact call_of_read _ read
  | saved prompt open_ kind settings held done read =>
    rw [take, Panel.answer, open_]
    simp only [kind]
    have answered : store.save settings world = ((store.save settings world).1, .ok ()) :=
      Prod.ext rfl done
    rw [answerReload, @saveThen_of_saved _ _ { panel with prompt := none } _ _ _ held
      (SettingsStore.recorded_save answered)]
    exact call_of_read _ read

end Calls

/-! ### What loading comes to -/

variable {store : SettingsStore World} {panel closed : Panel} {world : World} {event : PanelEvent}
  {loaded settings : Settings} {edited : Bool}

theorem refreshRemarks_succeeds {text : Text} (free : Document.breakdown? text = none)
    (panel : Panel) : ∃ remarks, panel.refreshRemarks text = .ok { panel with remarks } := by
  unfold refreshRemarks
  cases listed : Document.errors text with
  | error breakdown =>
    rw [Document.errors_eq_error_iff.mp listed] at free
    cases free
  | ok ignored => exact ⟨_, rfl⟩

theorem load_isLoaded (same : closed.switches = panel.switches)
    (read : (store.load world).2 = .ok loaded) :
    (closed.load store world).IsLoaded panel loaded := by
  unfold load
  rcases answered : store.load world with ⟨after, result⟩
  obtain rfl : result = .ok loaded := by rw [answered] at read; exact read
  dsimp only
  unfold showLoaded
  constructor
  · intro free
    obtain ⟨remarks, refreshed⟩ := refreshRemarks_succeeds free
      (refreshHeader { closed with settings := some loaded, error := none, dirty := false }
        |>.fillEditor)
    dsimp only [refreshHeader, fillEditor, Option.map_some, Option.getD_some] at refreshed ⊢
    rw [refreshed]
    exact ⟨rfl, rfl, rfl, rfl, rfl, rfl, rfl, rfl, rfl, rfl⟩
  · intro breakdown found
    have failed := Document.errors_eq_error_iff.mpr found
    dsimp only [refreshHeader, fillEditor, Option.map_some, Option.getD_some, refreshRemarks]
    rw [failed]
    exact ⟨rfl, rfl, rfl, rfl, rfl, same⟩

theorem mount_isLoaded (read : (store.load world).2 = .ok loaded) :
    (panel.mount store world).IsLoaded panel loaded := by
  obtain ⟨shown, stopped⟩ := @load_isLoaded _ store panel panel world loaded rfl read
  unfold mount
  rcases loading : panel.load store world with ⟨after, ending, fault | _⟩
  · rw [loading] at shown stopped
    exact ⟨shown, stopped⟩
  · rw [loading] at shown stopped
    constructor
    · -- To open a tab shows nothing else of the settings.
      intro free
      obtain ⟨held, dirty, error, status, saveLocked, editor, editorLocked, switches, locked⟩ :=
        (shown free).2
      exact ⟨rfl, held, dirty, error, status, saveLocked, editor, editorLocked, switches, locked⟩
    · intro breakdown found
      cases (stopped breakdown found).1

/-- **In each of the ways loading comes to the same.** -/
theorem take_isLoaded (loads : panel.Loads store world loaded event) :
    (panel.take store world event).IsLoaded panel loaded := by
  cases loads with
  | start read => exact mount_isLoaded read
  | unasked clean read =>
    rw [take, requestReload, if_neg (Bool.not_eq_true _ ▸ clean)]
    exact load_isLoaded rfl read
  | asked prompt open_ kind read =>
    rw [take, Panel.answer, open_]
    simp only [kind]
    exact load_isLoaded rfl read
  | saved prompt open_ kind settings held done read =>
    rw [take, Panel.answer, open_]
    simp only [kind]
    rw [answerReload, @saveThen_of_saved _ _ { panel with prompt := none } _ _ _ held
      (Prod.ext rfl done)]
    exact load_isLoaded rfl read

/-! ### Notices of the forms -/

/-- What the forms give notice of when they have been filled: the editor of patterns in any case, a
switch if it has changed. -/
def posted (before after : Panel) : List Edit :=
  .patterns after.editor
    :: (after.switches.filter fun switch => switch ∉ before.switches).map fun (option, value) =>
      .option option value

/-- An editor that handles events one after another, up to the first that it stops at. -/
def takeAll (store : SettingsStore World) (panel : Panel) (world : World) :
    List PanelEvent → PanelStep World
  | [] => finish world panel
  | event :: rest =>
    match panel.take store world event with
    | ⟨after, ending, .ok ()⟩ => after.takeAll store ending rest
    | stopped => stopped

/-- What the forms give notice of is what the settings say already. -/
theorem edit_of_posted (shows : panel.Shows settings edited) {before : Panel} {change : Edit}
    (posts : change ∈ before.posted panel) : settings.edit change = settings := by
  rcases List.mem_cons.mp posts with rfl | switched
  · rw [shows.editor]
    rfl
  · obtain ⟨⟨option, value⟩, member, rfl⟩ := List.mem_map.mp switched
    have shown := (List.mem_filter.mp member).1
    rw [shows.switches] at shown
    obtain ⟨other, -, same⟩ := List.mem_map.mp shown
    obtain ⟨rfl, rfl⟩ := Prod.mk.inj same
    cases other <;> rfl

namespace Shows

/-- To fill the editor of patterns with what it shows does nothing. -/
theorem retyped (shows : panel.Shows settings edited) :
    { panel with editor := settings.filterPatterns } = panel := by
  rw [← shows.editor]

/-- To put a switch where it stands does nothing. -/
theorem putSwitch (shows : panel.Shows settings edited) (option : SettingsOption) :
    panel.putSwitch option (option.isOn settings) = panel := by
  have kept : panel.switches.map (fun (other, old) =>
      (other, if other = option then option.isOn settings else old)) = panel.switches := by
    rw [shows.switches, List.map_map]
    refine List.map_congr_left fun other _ => ?_
    show (other, if other = option then option.isOn settings else other.isOn settings)
      = (other, other.isOn settings)
    by_cases same : other = option
    · rw [if_pos same, same]
    · rw [if_neg same]
  rw [Panel.putSwitch, kept]

/-- An edit that changes nothing marks the settings as edited. -/
theorem update (shows : panel.Shows settings edited) {change : Edit}
    (same : settings.edit change = settings) : (panel.update change).Shows settings true := by
  obtain ⟨held, -, faultless, -, -, editor, editorLocked, switches, switchesLocked⟩ := shows
  rw [Panel.update, held]
  refine ⟨congrArg some same, rfl, faultless, ?_, rfl, editor, editorLocked, switches,
    switchesLocked⟩
  simp only [refreshHeader, currentStatus, faultless, if_true]

/-- The list of ignored lines is not at stake. -/
theorem remarked (shows : panel.Shows settings edited) (remarks : String) :
    { panel with remarks }.Shows settings edited := by
  obtain ⟨held, dirty, faultless, status, saveLocked, editor, editorLocked, switches,
    switchesLocked⟩ := shows
  exact ⟨held, dirty, faultless, status, saveLocked, editor, editorLocked, switches,
    switchesLocked⟩

/-- **A notice of what the settings say already** marks them as edited if it is handled late, and
does nothing else. -/
theorem takeNotice (shows : panel.Shows settings edited)
    (free : Document.breakdown? settings.filterPatterns = none) {notice : Notice}
    (same : settings.edit notice.change = settings) :
    let step := panel.take store world notice.event
    step.result = .ok () ∧ step.world = world
      ∧ step.panel.Shows settings (edited || !notice.early) := by
  intro step
  obtain ⟨change, early⟩ := notice
  cases change with
  | patterns text =>
    obtain rfl : text = settings.filterPatterns := (congrArg Settings.filterPatterns same :)
    show (panel.edit world settings.filterPatterns early).result = .ok ()
      ∧ (panel.edit world settings.filterPatterns early).world = world
      ∧ (panel.edit world settings.filterPatterns early).panel.Shows settings (edited || !early)
    rw [edit, shows.retyped]
    cases early with
    | true => exact ⟨rfl, rfl, by rwa [Bool.not_true, Bool.or_false]⟩
    | false =>
      obtain ⟨remarks, refreshed⟩ := refreshRemarks_succeeds free
        (panel.update (.patterns settings.filterPatterns))
      dsimp only
      rw [refreshed, Bool.not_false, Bool.or_true]
      exact ⟨rfl, rfl, (shows.update same).remarked remarks⟩
  | option option value =>
    have own : option.isOn (option.put settings value) = value := by cases option <;> rfl
    obtain rfl : value = option.isOn settings := own.symm.trans (congrArg option.isOn same)
    refine ⟨rfl, rfl, ?_⟩
    show (panel.switch option (option.isOn settings) early).Shows settings (edited || !early)
    rw [switch, shows.putSwitch]
    cases early with
    | true => rwa [Bool.not_true, Bool.or_false]
    | false =>
      rw [Bool.not_false, Bool.or_true]
      exact shows.update same

/-- **Notices of what the settings say already** mark them as edited if one is handled late. -/
theorem takeNotices (free : Document.breakdown? settings.filterPatterns = none)
    {notices : List Notice}
    (same : ∀ notice ∈ notices, settings.edit notice.change = settings)
    (shows : panel.Shows settings edited) :
    let handled := panel.takeAll store world (notices.map Notice.event)
    handled.result = .ok () ∧ handled.world = world
      ∧ handled.panel.Shows settings (edited || notices.any fun notice => !notice.early) := by
  -- The induction is on the notices still to come; those before them may have marked the settings.
  induction notices generalizing panel edited with
  | nil =>
    rw [List.any_nil, Bool.or_false]
    exact ⟨rfl, rfl, shows⟩
  | cons notice rest ih =>
    obtain ⟨here, others⟩ := List.forall_mem_cons.mp same
    obtain ⟨done, still, after⟩ := @takeNotice _ store panel world settings edited shows free
      notice here
    rw [List.map_cons, takeAll]
    rcases taken : panel.take store world notice.event with ⟨next, ending, fault | _⟩
    · rw [taken] at done
      cases done
    · rw [taken] at still after
      obtain rfl : ending = world := still
      rw [List.any_cons, ← Bool.or_assoc]
      exact ih others after

end Shows

/-- **Notices that are handled late mark what was loaded as edited.** After any event that loads
settings, whatever the editor was like before, and unless their patterns break down:

* the editor holds the settings and shows them, and they are not marked;
* it does so once all notices of its forms are handled, in any order, but the settings are marked
  if one of them is handled late;
* so they are marked if all of them are.

If the patterns break down the handler stops when only their editor is filled. -/
theorem marked_by_lateNotices (store : SettingsStore World) (panel : Panel) (world : World)
    (event : PanelEvent) (loaded : Settings)
    (called : .load (.ok loaded) ∈ store.callsOf panel world event) :
    let step := panel.take store world event
    step.IsLoaded panel loaded
      ∧ (Document.breakdown? loaded.filterPatterns = none → ∀ notices : List Notice,
        (notices.map Notice.change).Perm (panel.posted step.panel) →
        let handled := step.panel.takeAll store step.world (notices.map Notice.event)
        handled.result = .ok () ∧ handled.world = step.world
          ∧ handled.panel.Shows loaded (notices.any fun notice => !notice.early)
          ∧ ((∀ notice ∈ notices, notice.early = false) → handled.panel.dirty = true)) := by
  intro step
  have isLoaded : step.IsLoaded panel loaded := take_isLoaded (load_called_iff.mp called)
  refine ⟨isLoaded, fun free notices posts => ?_⟩
  have shows := (isLoaded.shown free).2
  have same : ∀ notice ∈ notices, loaded.edit notice.change = loaded := fun notice member =>
    edit_of_posted shows (posts.mem_iff.mp (List.mem_map_of_mem member))
  obtain ⟨done, still, after⟩ := @Shows.takeNotices _ store _ step.world _ _ free notices same shows
  rw [Bool.false_or] at after
  refine ⟨done, still, after, fun late => ?_⟩
  -- The editor of patterns gives notice in any case.
  obtain ⟨notice, member, -⟩ := List.mem_map.mp (posts.mem_iff.mpr List.mem_cons_self)
  rw [after.dirty, List.any_eq_true]
  exact ⟨notice, member, by rw [late notice member]; rfl⟩

/-- A pattern, and an option that is on. -/
def onePattern : Settings := { filterPatterns := "/ad/".toList, highlightMode := true }

/-- After the start the switch is noticed early, the patterns late. -/
theorem marked_by_lateNotices_start :
    let step := ({} : Panel).take .memory onePattern .mount
    let notices : List Notice :=
      [⟨.option .highlightMode true, true⟩, ⟨.patterns "/ad/".toList, false⟩]
    let handled := step.panel.takeAll .memory step.world (notices.map Notice.event)
    .load (.ok onePattern) ∈ SettingsStore.memory.callsOf {} onePattern .mount
      ∧ (notices.map Notice.change).Perm (Panel.posted {} step.panel)
      ∧ step.panel.Shows onePattern false ∧ handled.panel.Shows onePattern true := by
  intro step notices handled
  have called : .load (.ok onePattern) ∈ SettingsStore.memory.callsOf {} onePattern .mount :=
    load_called_iff.mpr (.start rfl)
  have free : Document.breakdown? onePattern.filterPatterns = none := by decide +kernel
  have posts : (notices.map Notice.change).Perm (Panel.posted {} step.panel) := by decide +kernel
  obtain ⟨isLoaded, later⟩ := marked_by_lateNotices .memory {} onePattern .mount onePattern called
  exact ⟨called, posts, (isLoaded.shown free).2, (later free notices posts).2.2.1⟩

/-- When all notices after the start are handled late, the settings are modified though nothing was
edited. -/
theorem modified_afterStart :
    let step := ({} : Panel).take .memory onePattern .mount
    let late := (Panel.posted {} step.panel).map fun change => Notice.event ⟨change, false⟩
    let handled := step.panel.takeAll .memory step.world late
    step.panel.settings = some onePattern ∧ step.panel.dirty = false
      ∧ step.panel.status = some .loaded
      ∧ handled.panel.settings = some onePattern ∧ handled.panel.dirty = true
      ∧ handled.panel.status = some .modified := by
  decide +kernel

end Panel

end FeedFilter
