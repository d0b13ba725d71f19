/-
**Whole runs of a processor.**

A run is a sequence of passes, changes of settings and marks that are taken off. The mode of a
processor is settled before a run; the settings and the marks change underneath. Every entry that
has its mark, or that is not to be hidden, is settled: a pass does nothing to it.

* `Occasion`, `Run`, `Run.after`: what happens in a run, and where it leads.
* `Run.KeepsMarks`, `Run.SeesApart`: what is expected of marks, and of entries beside each other.
* `KeepsMarks.settled_along`: settled entries stay settled through a pass.
* `KeepsMarks.settled_of_pass`: a pass settles every entry that it visits.
* `KeepsMarks.second_pass`: a second pass does nothing.
* `KeepsMarks.highlights_le`: an entry is highlighted once, and again for each mark taken off it.
* `run_accounted`: all of this, with the account of every pass of a run.
-/

import FeedFilter.Proofs.Pass.Account

namespace FeedFilter

variable {State Index : Type}

/-- What happens in a run: a pass over entries, new settings, or a mark that is taken off. -/
inductive Occasion (Index : Type) where
  | pass (indices : List Index)
  | update (settings : Settings)
  | unmark (index : Index)

namespace Occasion

/-- Whether an occasion takes off no mark and leaves the settings as they are. -/
def IsQuiet (settings : Settings) : Occasion Index → Prop
  | pass _ => True
  | update given => given = settings
  | unmark _ => False

/-- How often the mark is taken off an entry. -/
def unmarks [DecidableEq Index] (index : Index) : List (Occasion Index) → Nat
  | [] => 0
  | unmark other :: history => unmarks index history + if other = index then 1 else 0
  | pass _ :: history | update _ :: history => unmarks index history

end Occasion

/-- A processor and a feed at some time. -/
structure Situation (State : Type) where
  processor : Processor
  state : State

/-- A processor and a feed at the start of a run, and how a mark is taken off. -/
structure Run (State Index : Type) where
  feed : Feed State Index
  unmark : State → Index → State
  start : Situation State

/-- Takes the mark off an entry in a list. -/
def TracedEntry.unmark (entries : List TracedEntry) (index : Nat) : List TracedEntry :=
  entries.modify index fun traced => { traced with marked := false }

namespace Run

variable (run : Run State Index)

/-- The situation after an occasion. -/
def next (situation : Situation State) : Occasion Index → Situation State
  | .pass indices =>
    let outcome := situation.processor.run run.feed indices situation.state
    ⟨outcome.processor, outcome.state⟩
  | .update settings =>
    ⟨{ situation.processor with engine := situation.processor.engine.update settings },
      situation.state⟩
  | .unmark index => ⟨situation.processor, run.unmark situation.state index⟩

/-- The situation after some occasions, the newest in front. -/
def after : List (Occasion Index) → Situation State
  | [] => run.start
  | occasion :: history => run.next (after history) occasion

/-- The settings in force: those given last. -/
def settingsAfter : List (Occasion Index) → Settings
  | [] => run.start.processor.engine.settings
  | .update settings :: _ => settings
  | .pass _ :: history | .unmark _ :: history => settingsAfter history

/-- The calls of a pass after some occasions. -/
def calls (history : List (Occasion Index)) (indices : List Index) : List (Call State Index) :=
  (run.after history).processor.calls run.feed indices (run.after history).state

/-- How often an entry is highlighted in a run. -/
def highlights [DecidableEq Index] (index : Index) : List (Occasion Index) → Nat
  | [] => 0
  | .pass indices :: history => highlights index history
      + (run.calls history indices).countP fun call => call.highlights && call.index = index
  | .update _ :: history | .unmark _ :: history => highlights index history

/-! ### The processor in a run -/

theorem after_processor {run : Run State Index} (honest : run.start.processor.engine.IsHonest)
    (history : List (Occasion Index)) :
    (run.after history).processor.engine.IsHonest
      ∧ (run.after history).processor.engine.settings = run.settingsAfter history
      ∧ (run.after history).processor.highlightMode = run.start.processor.highlightMode := by
  induction history with
  | nil => exact ⟨honest, rfl, rfl⟩
  | cons occasion history ih =>
    obtain ⟨held, settings, mode⟩ := ih
    cases occasion with
    | update given => exact ⟨held.update given, rfl, mode⟩
    | unmark index => exact ⟨held, settings, mode⟩
    | pass indices =>
      obtain ⟨later, same, kept⟩ := Processor.run_processor held run.feed indices
        (run.after history).state
      exact ⟨later, same.trans settings, kept.trans mode⟩

/-- Settings stay what they are in a quiet run. -/
theorem settingsAfter_quiet {run : Run State Index} {history later : List (Occasion Index)}
    (quiet : ∀ occasion ∈ later, occasion.IsQuiet (run.settingsAfter history)) :
    run.settingsAfter (later ++ history) = run.settingsAfter history := by
  induction later with
  | nil => rfl
  | cons occasion later ih =>
    have before := ih fun other member => quiet other (List.mem_cons_of_mem _ member)
    have here := quiet occasion List.mem_cons_self
    cases occasion with
    | pass indices => exact before
    | update given => exact here
    | unmark index => exact here.elim

/-! ### Marks -/

/-- What is expected of marks: highlighting an entry marks it, the marks of other entries stay as
they are, and no entry that is there gets lost. -/
structure KeepsMarks (present : State → Index → Prop) : Prop where
  highlight_present : ∀ state index reason other, present state other →
    present (run.feed.highlight state index reason).1 other
  unmark_present : ∀ state index other, present state other →
    present (run.unmark state index) other
  highlight_marks : ∀ state index reason, present state index →
    run.feed.isMarked (run.feed.highlight state index reason).1 index = true
  highlight_others : ∀ state index reason other, present state other → other ≠ index →
    run.feed.isMarked (run.feed.highlight state index reason).1 other
      = run.feed.isMarked state other
  unmark_others : ∀ state index other, present state other → other ≠ index →
    run.feed.isMarked (run.unmark state index) other = run.feed.isMarked state other

/-- Whether highlighting an entry gives no reason to hide another one. -/
def SeesApart (settings : Settings) (present : State → Index → Prop) : Prop :=
  ∀ state index reason other, present state other → other ≠ index →
    (∀ cause, Engine.decision settings (run.feed.view state other) ≠ .ok (.hide cause)) →
    ∀ cause, Engine.decision settings
      (run.feed.view (run.feed.highlight state index reason).1 other) ≠ .ok (.hide cause)

/-! ### Marks along a pass -/

section Marks

variable {run : Run State Index} {present : State → Index → Prop} {target : Index}
  {visits : List (Visit State Index)} {state last : State}

/-- A visit does nothing to an entry that has its mark or is not to be hidden, and highlights any
other one. -/
theorem left_cases {visited : Visit State Index}
    (left : visited.after = (visited.call? run.feed true).elim visited.before run.feed.apply) :
    ((run.feed.isMarked visited.before visited.index = true
          ∨ ∀ reason, visited.decision ≠ .ok (.hide reason))
        ∧ visited.call? run.feed true = none ∧ visited.after = visited.before)
      ∨ ∃ reason, visited.decision = .ok (.hide reason)
        ∧ run.feed.isMarked visited.before visited.index = false
        ∧ visited.call? run.feed true = some ⟨visited.index, visited.before, .highlight reason⟩
        ∧ visited.after = (run.feed.highlight visited.before visited.index reason).1 := by
  cases asks : visited.call? run.feed true with
  | none =>
    rw [asks] at left
    exact .inl ⟨Visit.call?_eq_none_of_highlights asks, rfl, left⟩
  | some call =>
    obtain ⟨reason, decided, unmarked, rfl⟩ := Visit.call?_eq_some_of_highlights asks
    rw [asks] at left
    exact .inr ⟨reason, decided, unmarked, rfl, left⟩

/-- The visits of a pass after some occasions. -/
theorem pass_visits (honest : run.start.processor.engine.IsHonest)
    (mode : run.start.processor.highlightMode = true) (history : List (Occasion Index))
    (indices : List Index) :
    ∃ visits, visits = (run.after history).processor.visits run.feed indices
          (run.after history).state
      ∧ Processor.Follows (run.after history).state visits
        (run.after (.pass indices :: history)).state
      ∧ (∀ visited ∈ visits,
          visited.decision = Engine.decision (run.settingsAfter history)
            (run.feed.view visited.before visited.index)
          ∧ visited.after = (visited.call? run.feed true).elim visited.before run.feed.apply)
      ∧ run.calls history indices = visits.filterMap (Visit.call? run.feed true) := by
  obtain ⟨held, settings, same⟩ := after_processor honest history
  have account := Processor.pass_accounted held run.feed indices (run.after history).state
  refine ⟨_, rfl, account.follows, fun visited member => ?_, ?_⟩
  · have left := Processor.mem_visitsFrom held member
    rwa [same, mode, settings] at left
  · rw [calls, Processor.calls_eq, same, mode]

/-- A visit loses no entry. -/
theorem KeepsMarks.stays_of_visit (keeps : run.KeepsMarks present) {visited : Visit State Index}
    (left : visited.after = (visited.call? run.feed true).elim visited.before run.feed.apply)
    (there : present visited.before target) : present visited.after target := by
  obtain ⟨-, -, same⟩ | ⟨reason, -, -, -, after⟩ := left_cases left
  · rwa [same]
  · rw [after]
    exact keeps.highlight_present _ _ reason _ there

theorem KeepsMarks.stays_along (keeps : run.KeepsMarks present)
    (follows : Processor.Follows state visits last)
    (left : ∀ visited ∈ visits,
      visited.after = (visited.call? run.feed true).elim visited.before run.feed.apply)
    (there : present state target) : present last target := by
  induction visits generalizing state with
  | nil =>
    cases follows
    exact there
  | cons visited rest ih =>
    obtain ⟨rfl, follows⟩ := follows
    exact ih follows (fun later member => left later (List.mem_cons_of_mem visited member))
      (keeps.stays_of_visit (left visited List.mem_cons_self) there)

/-- **A run loses no entry** where entries are highlighted. -/
theorem KeepsMarks.stays_after (keeps : run.KeepsMarks present)
    (honest : run.start.processor.engine.IsHonest)
    (mode : run.start.processor.highlightMode = true) (there : present run.start.state target)
    (history : List (Occasion Index)) : present (run.after history).state target := by
  induction history with
  | nil => exact there
  | cons occasion history ih =>
    cases occasion with
    | update settings => exact ih
    | unmark index => exact keeps.unmark_present _ _ _ ih
    | pass indices =>
      obtain ⟨visits, -, follows, each, -⟩ := pass_visits honest mode history indices
      exact keeps.stays_along follows (fun visited member => (each visited member).2) ih

/-! ### Entries that are done with -/

/-- Whether an entry has its mark or is not to be hidden. -/
def IsSettled (run : Run State Index) (settings : Settings) (state : State) (index : Index) :
    Prop :=
  run.feed.isMarked state index = true
    ∨ ∀ reason, Engine.decision settings (run.feed.view state index) ≠ .ok (.hide reason)

variable {settings : Settings}

/-- A visited entry is settled. -/
theorem KeepsMarks.settled_of_visit (keeps : run.KeepsMarks present) {visited : Visit State Index}
    (decided : visited.decision
      = Engine.decision settings (run.feed.view visited.before visited.index))
    (left : visited.after = (visited.call? run.feed true).elim visited.before run.feed.apply)
    (there : present visited.before visited.index) :
    run.IsSettled settings visited.after visited.index := by
  obtain ⟨settled, -, same⟩ | ⟨reason, -, -, -, after⟩ := left_cases left
  · rw [decided] at settled
    rw [same]
    exact settled
  · rw [after]
    exact .inl (keeps.highlight_marks _ _ reason there)

/-- **Settled entries stay settled through a pass, and none of its calls is about them.** -/
theorem KeepsMarks.settled_along (keeps : run.KeepsMarks present)
    (apart : run.SeesApart settings present) (follows : Processor.Follows state visits last)
    (each : ∀ visited ∈ visits,
      visited.decision = Engine.decision settings (run.feed.view visited.before visited.index)
      ∧ visited.after = (visited.call? run.feed true).elim visited.before run.feed.apply)
    (there : present state target) (settled : run.IsSettled settings state target) :
    run.IsSettled settings last target
      ∧ ∀ call ∈ visits.filterMap (Visit.call? run.feed true), call.index ≠ target := by
  -- The induction follows the visits. A call is about an entry that is not settled, so about
  -- another one, and leaves the settled one its mark or without a reason to be hidden.
  induction visits generalizing state with
  | nil =>
    cases follows
    exact ⟨settled, fun call member => nomatch member⟩
  | cons visited rest ih =>
    obtain ⟨rfl, follows⟩ := follows
    obtain ⟨decided, left⟩ := each visited List.mem_cons_self
    have others := fun later member => each later (List.mem_cons_of_mem visited member)
    obtain ⟨-, asks, same⟩ | ⟨reason, hides, unmarked, asks, after⟩ := left_cases left
    · rw [same] at follows
      rw [List.filterMap_cons_none asks]
      exact ih follows others there settled
    · have other : target ≠ visited.index := by
        rintro rfl
        rcases settled with marked | free
        · rw [unmarked] at marked
          cases marked
        · exact free reason (decided.symm.trans hides)
      have still : run.IsSettled settings visited.after target := by
        rw [after, IsSettled, keeps.highlight_others _ _ reason _ there other]
        exact settled.imp_right (apart _ _ reason _ there other)
      obtain ⟨ending, calls⟩ := ih follows others (keeps.stays_of_visit left there) still
      refine ⟨ending, fun call member => ?_⟩
      rw [List.filterMap_cons_some asks] at member
      rcases List.mem_cons.mp member with rfl | later
      · exact Ne.symm other
      · exact calls call later

/-- **A pass leaves every entry that it visits settled.** -/
theorem KeepsMarks.settled_of_pass (keeps : run.KeepsMarks present)
    (apart : run.SeesApart settings present) (follows : Processor.Follows state visits last)
    (each : ∀ visited ∈ visits,
      visited.decision = Engine.decision settings (run.feed.view visited.before visited.index)
      ∧ visited.after = (visited.call? run.feed true).elim visited.before run.feed.apply)
    (there : present state target) (member : target ∈ visits.map Visit.index) :
    run.IsSettled settings last target := by
  induction visits generalizing state with
  | nil => cases member
  | cons visited rest ih =>
    obtain ⟨rfl, follows⟩ := follows
    obtain ⟨decided, left⟩ := each visited List.mem_cons_self
    have others := fun later member => each later (List.mem_cons_of_mem visited member)
    have stays := keeps.stays_of_visit left there
    rcases List.mem_cons.mp member with rfl | later
    · have settled := keeps.settled_of_visit decided left there
      exact (keeps.settled_along apart follows others stays settled).1
    · exact ih follows others stays later

/-- **Settled entries stay settled in a quiet run.** -/
theorem KeepsMarks.settled_quiet (keeps : run.KeepsMarks present) {history : List (Occasion Index)}
    (apart : run.SeesApart (run.settingsAfter history) present)
    (honest : run.start.processor.engine.IsHonest)
    (mode : run.start.processor.highlightMode = true) (there : present run.start.state target)
    {later : List (Occasion Index)}
    (quiet : ∀ occasion ∈ later, occasion.IsQuiet (run.settingsAfter history))
    (settled : run.IsSettled (run.settingsAfter history) (run.after history).state target) :
    run.IsSettled (run.settingsAfter history) (run.after (later ++ history)).state target := by
  induction later with
  | nil => exact settled
  | cons occasion later ih =>
    have earlier := fun other member => quiet other (List.mem_cons_of_mem occasion member)
    have before := ih earlier
    have here := quiet occasion List.mem_cons_self
    cases occasion with
    | update given => exact before
    | unmark index => exact here.elim
    | pass indices =>
      obtain ⟨visits, -, follows, each, -⟩ := pass_visits honest mode (later ++ history) indices
      rw [settingsAfter_quiet earlier] at each
      have stays := keeps.stays_after honest mode there (later ++ history)
      exact (keeps.settled_along apart follows each stays before).1

/-! ### Second passes -/

/-- **A second pass over the same entries does nothing**, if no mark was taken off in between and
the settings are the same. -/
theorem KeepsMarks.second_pass (keeps : run.KeepsMarks present) {history : List (Occasion Index)}
    (apart : run.SeesApart (run.settingsAfter history) present)
    (honest : run.start.processor.engine.IsHonest)
    (mode : run.start.processor.highlightMode = true) {later : List (Occasion Index)}
    {indices again : List Index} (there : ∀ index ∈ indices, present run.start.state index)
    {summary : Summary} (finished : ((run.after history).processor.run run.feed indices
      (run.after history).state).summary = .ok summary)
    (quiet : ∀ occasion ∈ later, occasion.IsQuiet (run.settingsAfter history))
    (same : again ⊆ indices) :
    run.calls (later ++ .pass indices :: history) again = [] := by
  -- The first pass settles its entries, and they are still settled when the second one begins.
  have settled (target : Index) (member : target ∈ indices) :
      run.IsSettled (run.settingsAfter history)
        (run.after (later ++ .pass indices :: history)).state target := by
    obtain ⟨visits, rfl, follows, each, -⟩ := pass_visits honest mode history indices
    have stays := keeps.stays_after honest mode (there target member) history
    have all := (Processor.counts_of_ok finished).visited
    have done := keeps.settled_of_pass apart follows each stays (by rwa [all])
    exact @settled_quiet _ _ run present target keeps (.pass indices :: history) apart honest mode
      (there target member) later quiet done
  obtain ⟨visits, rfl, follows, each, calls⟩ :=
    pass_visits honest mode (later ++ .pass indices :: history) again
  have settings : run.settingsAfter (later ++ .pass indices :: history)
      = run.settingsAfter history := settingsAfter_quiet quiet
  rw [settings] at each
  rw [calls, List.eq_nil_iff_forall_not_mem]
  intro call member
  obtain ⟨visited, inside, asks⟩ := List.mem_filterMap.mp member
  obtain ⟨reason, -, -, rfl⟩ := Visit.call?_eq_some_of_highlights asks
  have known := same (Processor.index_of_mem_visitsFrom inside)
  have stays := keeps.stays_after honest mode (there _ known) (later ++ .pass indices :: history)
  exact (keeps.settled_along apart follows each stays (settled _ known)).2 _ member rfl

/-! ### Counting marks -/

variable [DecidableEq Index]

/-- **Each highlighting of an entry in a pass sets its mark**, which it did not have. -/
theorem KeepsMarks.count_along (keeps : run.KeepsMarks present)
    (follows : Processor.Follows state visits last)
    (left : ∀ visited ∈ visits,
      visited.after = (visited.call? run.feed true).elim visited.before run.feed.apply)
    (there : present state target) :
    ((visits.filterMap (Visit.call? run.feed true)).countP
          fun call => call.highlights && call.index = target)
        + (!run.feed.isMarked last target).toNat
      = (!run.feed.isMarked state target).toNat := by
  induction visits generalizing state with
  | nil =>
    cases follows
    exact Nat.zero_add _
  | cons visited rest ih =>
    obtain ⟨rfl, follows⟩ := follows
    have here := left visited List.mem_cons_self
    have count := ih follows (fun later member => left later (List.mem_cons_of_mem visited member))
      (keeps.stays_of_visit here there)
    obtain ⟨-, asks, same⟩ | ⟨reason, -, unmarked, asks, after⟩ := left_cases here
    · rw [same] at count
      rwa [List.filterMap_cons_none asks]
    · rw [List.filterMap_cons_some asks, List.countP_cons]
      rw [after] at count
      -- The call sets the mark of its own entry, which had none, and leaves those of others.
      by_cases same : visited.index = target
      · subst same
        have one : (Call.highlights (⟨visited.index, visited.before, .highlight reason⟩ :
            Call State Index) && decide (visited.index = visited.index)) = true := by
          simp [Call.highlights, Deed.isHide]
        rw [keeps.highlight_marks _ _ reason there] at count
        rw [if_pos one, unmarked]
        simp only [Bool.not_true, Bool.toNat_false, Bool.not_false, Bool.toNat_true] at count ⊢
        omega
      · rw [keeps.highlight_others _ _ reason _ there (Ne.symm same)] at count
        simpa [same] using count

theorem KeepsMarks.highlights_add_le (keeps : run.KeepsMarks present)
    (honest : run.start.processor.engine.IsHonest)
    (mode : run.start.processor.highlightMode = true) (there : present run.start.state target)
    (history : List (Occasion Index)) :
    run.highlights target history + (!run.feed.isMarked (run.after history).state target).toNat
      ≤ (!run.feed.isMarked run.start.state target).toNat + Occasion.unmarks target history := by
  induction history with
  | nil => exact Nat.le_of_eq (Nat.zero_add _)
  | cons occasion history ih =>
    have stays := keeps.stays_after honest mode there history
    cases occasion with
    | update settings => exact ih
    | unmark index =>
      rw [highlights, Occasion.unmarks]
      by_cases same : index = target
      · rw [if_pos same]
        have one := Bool.toNat_le
          (!run.feed.isMarked (run.after (.unmark index :: history)).state target)
        omega
      · have marks : run.feed.isMarked (run.after (.unmark index :: history)).state target
            = run.feed.isMarked (run.after history).state target :=
          keeps.unmark_others _ _ _ stays (Ne.symm same)
        rw [if_neg same, marks]
        exact ih
    | pass indices =>
      obtain ⟨visits, -, follows, each, calls⟩ := pass_visits honest mode history indices
      have count := keeps.count_along follows (fun visited member => (each visited member).2) stays
      rw [highlights, Occasion.unmarks, calls]
      omega

/-- A processor that hides entries highlights none. -/
theorem highlights_of_hides (honest : run.start.processor.engine.IsHonest)
    (mode : run.start.processor.highlightMode = false) (history : List (Occasion Index)) :
    run.highlights target history = 0 := by
  induction history with
  | nil => rfl
  | cons occasion history ih =>
    cases occasion with
    | update settings => exact ih
    | unmark index => exact ih
    | pass indices =>
      obtain ⟨held, -, same⟩ := after_processor honest history
      have account := Processor.pass_accounted held run.feed indices (run.after history).state
      have none : (run.calls history indices).countP
          (fun call => call.highlights && call.index = target) = 0 := by
        rw [calls, account.hides (same.trans mode), List.countP_eq_zero]
        intro call member
        obtain ⟨visited, -, rfl⟩ := List.mem_map.mp member
        simp [Call.highlights, Deed.isHide]
      rw [highlights, ih, none]

/-- **An entry is highlighted at most once, and once more for each mark taken off it.** -/
theorem KeepsMarks.highlights_le (keeps : run.KeepsMarks present)
    (honest : run.start.processor.engine.IsHonest) (there : present run.start.state target)
    (history : List (Occasion Index)) :
    run.highlights target history
      ≤ (!run.feed.isMarked run.start.state target).toNat + Occasion.unmarks target history := by
  cases mode : run.start.processor.highlightMode with
  | false =>
    rw [highlights_of_hides honest mode]
    exact Nat.zero_le _
  | true =>
    have bound := keeps.highlights_add_le honest mode there history
    exact Nat.le_trans (Nat.le_add_right _ _) bound

end Marks

/-! ### Entries in a list -/

/-- A run over entries in a list. -/
def ofTraced (start : Situation (List TracedEntry)) : Run (List TracedEntry) Nat :=
  ⟨TracedEntry.feed, TracedEntry.unmark, start⟩

variable (start : Situation (List TracedEntry))

theorem ofTraced_keepsMarks :
    (ofTraced start).KeepsMarks fun entries index => index < entries.length where
  highlight_present entries index reason other there := by
    simpa [ofTraced, TracedEntry.feed] using there
  unmark_present entries index other there := by
    simpa [ofTraced, TracedEntry.unmark] using there
  highlight_marks entries index reason there := by
    simp [ofTraced, TracedEntry.feed, there]
  highlight_others entries index reason other _ apart := by
    simp [ofTraced, TracedEntry.feed, Ne.symm apart]
  unmark_others entries index other _ apart := by
    simp [ofTraced, TracedEntry.feed, TracedEntry.unmark, Ne.symm apart]

theorem ofTraced_seesApart (settings : Settings) :
    (ofTraced start).SeesApart settings fun entries index => index < entries.length := by
  intro entries index reason other _ apart free
  have same : (ofTraced start).feed.view ((ofTraced start).feed.highlight entries index reason).1
      other = (ofTraced start).feed.view entries other := by
    simp [ofTraced, TracedEntry.feed, Ne.symm apart]
  rwa [same]

/-! ### Whole runs -/

/-- **Whole runs of a processor.** After any passes, changes of settings and unmarkings:

* the mode is the one at the start, and the settings are those given last;
* every pass is accounted for: see `Processor.PassAccount` and `Processor.CountAccount`;
* where highlighting marks an entry and no other, an entry is highlighted at most once, and once
  more for each mark taken off it;
* where it also gives no reason to hide another entry, a second pass over entries does nothing, as
  long as no mark is taken off and the settings stay the same. -/
theorem run_accounted [DecidableEq Index] (run : Run State Index)
    (honest : run.start.processor.engine.IsHonest) (history : List (Occasion Index)) :
    (run.after history).processor.highlightMode = run.start.processor.highlightMode
      ∧ (run.after history).processor.engine.settings = run.settingsAfter history
      ∧ (∀ indices, Processor.PassAccount (run.after history).processor run.feed indices
          (run.after history).state)
      ∧ ∀ present, run.KeepsMarks present →
          (∀ index, present run.start.state index → run.highlights index history
            ≤ (!run.feed.isMarked run.start.state index).toNat + Occasion.unmarks index history)
          ∧ (run.SeesApart (run.settingsAfter history) present →
            run.start.processor.highlightMode = true →
            ∀ indices later again summary, (∀ index ∈ indices, present run.start.state index) →
              ((run.after history).processor.run run.feed indices
                (run.after history).state).summary = .ok summary →
              (∀ occasion ∈ later, occasion.IsQuiet (run.settingsAfter history)) →
              again ⊆ indices → run.calls (later ++ .pass indices :: history) again = []) := by
  obtain ⟨held, settings, mode⟩ := after_processor honest history
  refine ⟨mode, settings, fun indices => Processor.pass_accounted held run.feed indices _,
    fun present keeps => ⟨fun index there => keeps.highlights_le honest there history, ?_⟩⟩
  intro apart highlightMode indices later again summary there finished quiet same
  exact keeps.second_pass apart honest highlightMode there finished quiet same

/-- A suggested post and another one, before a processor that highlights suggested posts. -/
def suggestedStart : Situation (List TracedEntry) :=
  ⟨.new (.new { hideSuggested := true }) (some true),
    [.new (.ofValues [] none true false) false, .new (.ofValues [] none false false) false]⟩

/-- The suggested post is highlighted again once its mark is taken off; a third pass does nothing.
-/
theorem run_accounted_suggested :
    suggestedStart.processor.engine.IsHonest
      ∧ (ofTraced suggestedStart).highlights 0
          [.pass [0, 1, 0], .unmark 0, .pass [0, 1, 0]] = 2
      ∧ (ofTraced suggestedStart).calls
          [.pass [0, 1, 0], .unmark 0, .pass [0, 1, 0]] [1, 0] = [] := by
  have honest := Engine.new_isHonest { hideSuggested := true }
  obtain ⟨-, -, -, marks⟩ := run_accounted (ofTraced suggestedStart) honest
    [.unmark 0, .pass [0, 1, 0]]
  obtain ⟨-, second⟩ := marks _ (ofTraced_keepsMarks suggestedStart)
  refine ⟨honest, by decide +kernel, ?_⟩
  refine second (ofTraced_seesApart suggestedStart _) rfl [0, 1, 0] [] [1, 0] ⟨0, 1, 0, 1⟩
    (by decide) (by decide +kernel) nofun (by decide)

/-- A post inside another one. The outer one, 0, looks suggested as soon as the inner one, 1, has
its banner. The marked posts are written down. -/
def nestedFeed : Feed (List Nat) Nat where
  view marked index := .ofValues [] none (index = 1 || marked.contains 1) false
  isMarked marked index := marked.contains index
  hide marked _ := marked
  highlight marked index _ := (index :: marked, .ok ())

/-- A run over a post inside another one, before a processor that highlights suggested posts. -/
def nestedRun : Run (List Nat) Nat :=
  ⟨nestedFeed, fun marked index => marked.filter (· ≠ index),
    ⟨.new (.new { hideSuggested := true }) (some true), []⟩⟩

/-- A processor that removes suggested posts. -/
def remover : Processor := .new (.new { hideSuggested := true }) (some false)

/-- Where entries are removed, marked ones are among those that are counted as hidden. And a second
pass highlights an entry that the first pass has given a reason to hide. -/
theorem run_miscounted :
    (∃ summary,
        (remover.run TracedEntry.feed [0] [.new (.ofValues [] none true false) true]).summary
          = .ok summary
        ∧ summary.hidden + summary.highlighted + summary.shown + summary.untouched
          + (remover.visits TracedEntry.feed [0]
              [.new (.ofValues [] none true false) true]).countP
            (fun visited => visited.decides Decision.isHidden
              && visited.isMarked TracedEntry.feed) ≠ 1)
      ∧ nestedRun.KeepsMarks (fun _ _ => True)
      ∧ (nestedRun.start.processor.run nestedRun.feed [0, 1] nestedRun.start.state).summary
        = .ok ⟨0, 1, 0, 1⟩
      ∧ (nestedRun.calls [.pass [0, 1]] [0, 1]).length = 1 := by
  refine ⟨⟨⟨1, 0, 0, 0⟩, by decide +kernel, by decide +kernel⟩, ?_, by decide +kernel,
    by decide +kernel⟩
  constructor
  · simp
  · simp
  · simp [nestedRun, nestedFeed]
  · intro marked index reason other _ apart
    simp [nestedRun, nestedFeed, apart]
  · intro marked index other _ apart
    simp [nestedRun, nestedFeed, apart]

end Run

end FeedFilter
