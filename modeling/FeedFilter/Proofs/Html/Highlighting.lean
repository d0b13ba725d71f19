/-
**A page that is highlighted twice.**

Where no entry contains another, each entry of a pass is seen as it was on the page before the pass:
what is done to the others does not touch it. So a pass marks those that are decided to be hidden.
A second pass sees an entry without a new mark as the first one did, and does not hide it; an entry
with a mark it leaves alone, whatever the banner makes of the decision.

* `Processor.visit_marks`: a visit where entries are highlighted.
* `Processor.IsAtRest`, `visit_atRest`, `visitAll_atRest`: entries that are marked or not to be
  hidden, and visits to them.
* `Page.IsHighlighted`: a page some entries of which were highlighted; `IsHighlighted.highlight`:
  and one more.
* `visit_highlighted`, `visitAll_highlighted`: what visits make of such a page.
* `run_marks`: what a pass marks; `IsHighlighted.isAtRest`: nothing is left to do then.
* `run_marks_once`: what a second pass does.
-/

import FeedFilter.Proofs.Html.Marking

namespace FeedFilter

/-! ### A pass that highlights -/

namespace Processor

variable {State Index : Type} {feed : Feed State Index} {settings : Settings}

/-- Where entries are highlighted, a visit to an entry that is decided succeeds, and highlights the
entry if it is to be hidden and has no mark. -/
theorem visit_marks {progress : Progress State} (honest : progress.engine.IsHonest) {index : Index}
    {decision : Decision}
    (decided : Engine.decision progress.engine.settings (feed.view progress.state index)
      = .ok decision)
    (succeeds : ∀ reason, (feed.highlight progress.state index reason).2 = .ok ()) :
    (visit feed true progress index).2 = .ok ()
      ∧ (visit feed true progress index).1.state
        = if decision.isHidden && !feed.isMarked progress.state index then
            (feed.highlight progress.state index decision.reason).1
          else progress.state := by
  have visited := visit_visited feed true progress index
  have asked : (visitOf feed true progress index).decision = .ok decision :=
    (honest.decide_eq _).trans decided
  have state : (progress.asked feed index).state = progress.state := rfl
  rw [asked] at visited
  generalize visit feed true progress index = result at visited ⊢
  cases visited with
  | kept reason => exact ⟨rfl, rfl⟩
  | untouched => exact ⟨rfl, rfl⟩
  | marked reason mode found =>
    rw [state] at found
    refine ⟨rfl, ?_⟩
    simp [Decision.isHidden, found, state]
  | refused reason fault mode found failed =>
    rw [state, succeeds reason] at failed
    cases failed
  | highlighted reason mode found result =>
    rw [state] at found
    refine ⟨rfl, ?_⟩
    simp [Decision.isHidden, Decision.reason, found, state]
  | hidden reason mode => cases mode

/-- Whether a visit to an entry does nothing: the entry is decided, and marked if it is to be
hidden. -/
def IsAtRest (feed : Feed State Index) (settings : Settings) (state : State) (index : Index) :
    Prop :=
  ∃ decision, Engine.decision settings (feed.view state index) = .ok decision
    ∧ (decision.isHidden = true → feed.isMarked state index = true)

/-- A visit to an entry at rest makes no call and leaves the feed as it is. -/
theorem visit_atRest {progress : Progress State} (honest : progress.engine.IsHonest)
    (same : progress.engine.settings = settings) {index : Index}
    (rests : IsAtRest feed settings progress.state index) :
    (visit feed true progress index).2 = .ok ()
      ∧ (visit feed true progress index).1.state = progress.state
      ∧ (visitOf feed true progress index).call? feed true = none := by
  obtain ⟨decision, decided, marked⟩ := rests
  have asked : (visitOf feed true progress index).decision = .ok decision :=
    (honest.decide_eq _).trans (same ▸ decided)
  have quiet : (visitOf feed true progress index).call? feed true = none := by
    rw [Visit.call?, asked]
    cases decision with
    | hide reason => exact if_pos (marked rfl)
    | keep reason => rfl
    | nothing => rfl
  have after := @visit_after _ _ feed true progress index
  rw [quiet] at after
  refine ⟨?_, after, quiet⟩
  have visited := visit_visited feed true progress index
  have state : (progress.asked feed index).state = progress.state := rfl
  rw [asked] at visited
  generalize visit feed true progress index = result at visited
  cases visited with
  | refused reason fault mode found failed =>
    rw [state, marked rfl] at found
    cases found
  | _ => rfl

/-- **A pass over entries at rest does nothing.** -/
theorem visitAll_atRest {indices : List Index} {progress : Progress State}
    (honest : progress.engine.IsHonest) (same : progress.engine.settings = settings)
    (rests : ∀ index ∈ indices, IsAtRest feed settings progress.state index) :
    (visitAll feed true indices progress).2 = .ok ()
      ∧ (visitAll feed true indices progress).1.state = progress.state
      ∧ (visitsFrom feed true indices progress).filterMap (Visit.call? feed true) = [] := by
  induction indices generalizing progress with
  | nil => exact ⟨rfl, rfl, rfl⟩
  | cons index rest ih =>
    obtain ⟨here, others⟩ := List.forall_mem_cons.mp rests
    obtain ⟨done, left, quiet⟩ := visit_atRest honest same here
    have engine := visit_honest feed true honest index
    rw [visitAll, visitsFrom, List.filterMap_cons_none quiet]
    rcases result : visit feed true progress index with ⟨next, fault | _⟩
    · rw [result] at done
      cases done
    · rw [result] at left engine
      dsimp only at left engine ⊢
      rw [← left] at others ⊢
      exact ih engine.1 (engine.2.trans same) others

end Processor

namespace Html.Page

open Processor

variable {page now : Page} {settings : Settings} {done more : Nat → Bool}

/-! ### Pages with highlighted entries -/

/-- Whether a page is another one with some of its entries highlighted: the entries are the same,
those are marked, and the others are seen as before. -/
structure IsHighlighted (page : Page) (done : Nat → Bool) (now : Page) : Prop where
  keyed : now.IsKeyed
  apart : now.EntriesApart
  entries : now.entries = page.entries
  marked : ∀ key ∈ page.entries,
    Page.feed.isMarked now key = (Page.feed.isMarked page key || done key)
  seen : ∀ key ∈ page.entries, done key = false → now.view key = page.view key

namespace IsHighlighted

theorem nothing (keyed : page.IsKeyed) (apart : page.EntriesApart) :
    IsHighlighted page (fun _ => false) page :=
  ⟨keyed, apart, rfl, fun _ _ => (Bool.or_false _).symm, fun _ _ _ => rfl⟩

/-- Only the keys of entries matter. -/
theorem congr (highlighted : IsHighlighted page done now)
    (same : ∀ key ∈ page.entries, done key = more key) : IsHighlighted page more now where
  keyed := highlighted.keyed
  apart := highlighted.apart
  entries := highlighted.entries
  marked key member := same key member ▸ highlighted.marked key member
  seen key member kept := highlighted.seen key member ((same key member).trans kept)

/-- **One more entry is highlighted.** -/
theorem highlight (highlighted : IsHighlighted page done now) {one : Nat}
    (entry : one ∈ page.entries) (reason : Option String) :
    IsHighlighted page (fun key => done key || key = one) (now.highlight one reason) := by
  obtain ⟨keyed, apart, entries, marked, seen⟩ := highlighted
  have site : ∀ key ∈ page.entries, ∃ found ∈ now.listed, found.key = key := by
    intro key member
    rw [← entries] at member
    exact mem_entries.mp member
  obtain ⟨found, listed, rfl⟩ := site one entry
  refine ⟨highlight_isKeyed keyed _ reason, highlight_entriesApart keyed.distinct apart _ reason,
    (entries_highlight keyed.distinct _ reason).trans entries, fun key member => ?_,
    fun key member kept => ?_⟩
  · obtain ⟨other, there, rfl⟩ := site key member
    rw [isMarked_highlight keyed apart listed there reason, marked _ member, Bool.or_assoc]
  · obtain ⟨other, there, rfl⟩ := site key member
    obtain ⟨before, different⟩ := Bool.or_eq_false_iff.mp kept
    rw [view_highlight keyed apart listed there (of_decide_eq_false different) reason]
    exact seen _ member before

end IsHighlighted

/-! ### Visits to entries that are not highlighted yet -/

/-- Whether an entry of a page is to be marked: it is decided to be hidden, and has no mark. -/
def isDue (page : Page) (settings : Settings) (key : Nat) : Bool :=
  page.hides settings key && !Page.feed.isMarked page key

/-- An entry that is not highlighted yet is decided as on the page before. -/
theorem IsHighlighted.decided (highlighted : IsHighlighted page done now)
    (free : Document.breakdown? settings.filterPatterns = none) {key : Nat}
    (entry : key ∈ page.entries) (kept : done key = false) :
    ∃ decision, Engine.decision settings (now.view key) = .ok decision
      ∧ decision.isHidden = page.hides settings key := by
  have here := entry
  rw [← highlighted.entries] at here
  obtain ⟨site, listed, rfl⟩ := mem_entries.mp here
  obtain ⟨decision, decided⟩ := Engine.decision_succeeds free
    (view_answers highlighted.keyed.distinct listed)
  refine ⟨decision, decided, ?_⟩
  rw [hides, Page.decided, ← highlighted.seen _ entry kept, decided]
  rfl

/-- **A visit to an entry that is not highlighted yet** highlights it if it is due. -/
theorem visit_highlighted (free : Document.breakdown? settings.filterPatterns = none)
    {progress : Progress Page} (honest : progress.engine.IsHonest)
    (same : progress.engine.settings = settings)
    (highlighted : IsHighlighted page done progress.state) {key : Nat}
    (entry : key ∈ page.entries) (kept : done key = false) :
    (visit Page.feed true progress key).2 = .ok ()
      ∧ IsHighlighted page (fun other => done other || other = key && page.isDue settings other)
        (visit Page.feed true progress key).1.state := by
  obtain ⟨decision, decided, hides⟩ := highlighted.decided free entry kept
  have listed := entry
  rw [← highlighted.entries] at listed
  obtain ⟨site, there, rfl⟩ := mem_entries.mp listed
  have succeeds := highlight_succeeds highlighted.keyed.distinct there
  obtain ⟨ended, left⟩ := visit_marks honest (same ▸ decided) fun reason =>
    congrArg Prod.snd (succeeds reason)
  refine ⟨ended, ?_⟩
  have due : (decision.isHidden && !Page.feed.isMarked progress.state site.key)
      = page.isDue settings site.key := by
    rw [hides, highlighted.marked _ entry, kept, Bool.or_false]
    rfl
  rw [left, due, or_hidden]
  cases page.isDue settings site.key with
  | false => exact highlighted
  | true =>
    rw [if_pos rfl, if_pos rfl, succeeds]
    exact highlighted.highlight entry decision.reason

/-- **Visits to entries that are not highlighted yet** highlight those that are due. -/
theorem visitAll_highlighted (free : Document.breakdown? settings.filterPatterns = none)
    {keys : List Nat} (different : keys.Nodup) (entries : ∀ key ∈ keys, key ∈ page.entries)
    {progress : Progress Page} (honest : progress.engine.IsHonest)
    (same : progress.engine.settings = settings)
    (highlighted : IsHighlighted page done progress.state)
    (kept : ∀ key ∈ keys, done key = false) :
    (visitAll Page.feed true keys progress).2 = .ok ()
      ∧ IsHighlighted page (fun key => done key || keys.contains key && page.isDue settings key)
        (visitAll Page.feed true keys progress).1.state := by
  -- The induction is on the entries still to come, none of which is highlighted yet.
  induction keys generalizing progress done with
  | nil => exact ⟨rfl, highlighted.congr fun key _ => by simp⟩
  | cons key rest ih =>
    obtain ⟨first, others⟩ := List.nodup_cons.mp different
    obtain ⟨ended, left⟩ := visit_highlighted free honest same highlighted
      (entries key List.mem_cons_self) (kept key List.mem_cons_self)
    have engine := visit_honest Page.feed true honest key
    rw [visitAll]
    rcases result : visit Page.feed true progress key with ⟨after, fault | _⟩
    · rw [result] at ended
      cases ended
    · rw [result] at left engine
      dsimp only at left engine ⊢
      have still : ∀ other ∈ rest,
          (done other || other = key && page.isDue settings other) = false := by
        intro other member
        have another : other ≠ key := fun equal => first (equal ▸ member)
        simp [kept other (List.mem_cons_of_mem _ member), another]
      obtain ⟨last, marks⟩ := ih others (fun other member => entries other
        (List.mem_cons_of_mem _ member)) engine.1 (engine.2.trans same) left still
      refine ⟨last, marks.congr fun other _ => ?_⟩
      rw [List.contains_cons, Bool.or_assoc, ← Bool.and_or_distrib_right]
      rfl

/-- An entry is at rest once those that were due are highlighted. -/
theorem IsHighlighted.isAtRest (highlighted : IsHighlighted page (page.isDue settings) now)
    (free : Document.breakdown? settings.filterPatterns = none) {key : Nat}
    (entry : key ∈ now.entries) : IsAtRest Page.feed settings now key := by
  obtain ⟨site, listed, rfl⟩ := mem_entries.mp entry
  rw [highlighted.entries] at entry
  obtain ⟨decision, decided⟩ := Engine.decision_succeeds free
    (view_answers highlighted.keyed.distinct listed)
  refine ⟨decision, decided, fun hidden => ?_⟩
  rw [highlighted.marked _ entry]
  by_cases due : page.isDue settings site.key = true
  · rw [due, Bool.or_true]
  · -- It is decided as before, so it was not highlighted because it had a mark.
    have kept : page.isDue settings site.key = false := Bool.not_eq_true _ ▸ due
    obtain ⟨same, found, hides⟩ := highlighted.decided free entry kept
    obtain rfl : same = decision := Except.ok.inj (found.symm.trans decided)
    rw [isDue, ← hides, hidden, Bool.true_and, Bool.not_eq_false'] at kept
    rw [kept, Bool.true_or]

/-! ### Two passes -/

/-- **A pass marks the entries that are due**, and comes to its end. -/
theorem run_marks {processor : Processor} (honest : processor.engine.IsHonest)
    (mode : processor.highlightMode = true) (keyed : page.IsKeyed) (apart : page.EntriesApart)
    (free : Document.breakdown? processor.engine.settings.filterPatterns = none) :
    let outcome := processor.run Page.feed page.entries page
    (∃ summary, outcome.summary = .ok summary)
      ∧ IsHighlighted page (page.isDue processor.engine.settings) outcome.state := by
  intro outcome
  obtain ⟨ended, marks⟩ := @visitAll_highlighted page processor.engine.settings _ free page.entries
    (entries_nodup keyed.distinct) (fun _ member => member) ⟨processor.engine, page, [], {}⟩ honest
    rfl (.nothing keyed apart) fun _ _ => rfl
  refine ⟨run_ends (by rwa [mode]), ?_⟩
  show IsHighlighted page _ (processor.run Page.feed page.entries page).state
  rw [run_state, mode]
  refine marks.congr fun key member => ?_
  rw [Bool.false_or, List.contains_iff_mem.mpr member, Bool.true_and]

/-- **A pass over entries at rest** leaves the page as it is, and comes to its end. -/
theorem run_atRest {processor : Processor} (honest : processor.engine.IsHonest)
    (mode : processor.highlightMode = true) {keys : List Nat}
    (rests : ∀ key ∈ keys, IsAtRest Page.feed processor.engine.settings page key) :
    let outcome := processor.run Page.feed keys page
    (∃ summary, outcome.summary = .ok summary) ∧ outcome.state = page
      ∧ processor.calls Page.feed keys page = [] := by
  intro outcome
  obtain ⟨ended, left, quiet⟩ := @visitAll_atRest _ _ Page.feed _ keys
    ⟨processor.engine, page, [], {}⟩ honest rfl rests
  refine ⟨run_ends (by rwa [mode]), ?_, ?_⟩
  · show (processor.run Page.feed keys page).state = page
    rw [run_state, mode]
    exact left
  · rw [calls_eq, visits, mode]
    exact quiet

/-- **A page that has been highlighted is not changed by doing so again.** Where no entry contains
another, after a pass that highlights:

* the page has the same entries in the same order;
* a second pass under the same settings highlights nothing, makes no call and leaves the page as it
  is;
* unless the patterns break down, both passes come to their end, and an entry is marked after
  the first if it was before or was decided to be hidden;
* if they do, the page stays as it was. -/
theorem run_marks_once {first second : Processor} (honest : first.engine.IsHonest)
    (again : second.engine.IsHonest) (mode : first.highlightMode = true)
    (highlights : second.highlightMode = true)
    (same : second.engine.settings = first.engine.settings) (keyed : page.IsKeyed)
    (apart : page.EntriesApart) :
    let settings := first.engine.settings
    let once := first.run Page.feed page.entries page
    let twice := second.run Page.feed once.state.entries once.state
    once.state.entries = page.entries
      ∧ twice.state = once.state
      ∧ second.calls Page.feed once.state.entries once.state = []
      ∧ (∀ summary, twice.summary = .ok summary →
        summary.hidden = 0 ∧ summary.highlighted = 0)
      ∧ (Document.breakdown? settings.filterPatterns = none →
        (∃ summary, once.summary = .ok summary) ∧ (∃ summary, twice.summary = .ok summary)
          ∧ ∀ key ∈ page.entries, Page.feed.isMarked once.state key
            = (Page.feed.isMarked page key || page.hides settings key))
      ∧ ∀ breakdown, Document.breakdown? settings.filterPatterns = some breakdown →
        once.state = page := by
  intro settings once twice
  -- A pass that makes no call counts none.
  have uncounted (silent : second.calls Page.feed once.state.entries once.state = [])
      (summary : Summary) (done : twice.summary = .ok summary) :
      summary.hidden = 0 ∧ summary.highlighted = 0 := by
    have counts := counts_of_ok done
    rw [counts.hidden, counts.highlighted, silent]
    exact ⟨rfl, rfl⟩
  cases found : Document.breakdown? settings.filterPatterns with
  | none =>
    obtain ⟨done, marks⟩ := run_marks honest mode keyed apart found
    have rests : ∀ key ∈ once.state.entries,
        IsAtRest Page.feed second.engine.settings once.state key := by
      intro key member
      rw [same]
      exact marks.isAtRest found member
    obtain ⟨doneAgain, left, silent⟩ := run_atRest again highlights rests
    refine ⟨marks.entries, left, silent, uncounted silent,
      fun _ => ⟨done, doneAgain, fun key member => ?_⟩, nofun⟩
    rw [marks.marked key member, isDue]
    cases Page.feed.isMarked page key
    · rw [Bool.not_false, Bool.and_true]
    · rw [Bool.true_or, Bool.true_or]
  | some breakdown =>
    obtain ⟨left, -, -⟩ := run_of_breakdown honest found Page.feed page.entries page
    have foundAgain :
        Document.breakdown? second.engine.settings.filterPatterns = some breakdown := by
      rw [same]
      exact found
    obtain ⟨leftAgain, -, silent⟩ :=
      run_of_breakdown again foundAgain Page.feed once.state.entries once.state
    exact ⟨congrArg entries left, leftAgain, silent, uncounted silent, nofun, fun _ _ => left⟩

/-- A news item, and a post beside it. -/
def newsAndPost : Page where
  nodes :=
    [.element ⟨0, "div".toList, [("class".toList, "news-module__storyline".toList)]⟩
        [.text .plain "ad".toList],
      .element ⟨1, "div".toList, [("role".toList, "article".toList)]⟩
        [.element ⟨2, "p".toList, [("class".toList, "break-words".toList)]⟩
          [.text .plain "a".toList]]]
  loose := []
  nextKey := 3

/-- The news item is highlighted, and then kept for the words on its banner. -/
theorem run_marks_once_newsAndPost :
    let processor := Processor.new (.new { filterPatterns := "!/Matched:/\n/ad/".toList })
      (some true)
    let once := processor.run Page.feed newsAndPost.entries newsAndPost
    let twice := processor.run Page.feed once.state.entries once.state
    processor.engine.IsHonest ∧ processor.highlightMode = true ∧ newsAndPost.IsKeyed
      ∧ newsAndPost.EntriesApart ∧ once.summary = .ok ⟨0, 1, 0, 1⟩
      ∧ twice.summary = .ok ⟨0, 0, 1, 1⟩ ∧ twice.state = once.state
      ∧ Page.feed.isMarked once.state 0 = true ∧ Page.feed.isMarked once.state 1 = false := by
  intro processor once twice
  have honest := Engine.new_isHonest { filterPatterns := "!/Matched:/\n/ad/".toList }
  have keyed : newsAndPost.IsKeyed := by
    constructor
    · unfold IsDistinct
      decide
    · decide
  have apart : newsAndPost.EntriesApart := by
    unfold EntriesApart
    decide +kernel
  obtain ⟨-, left, -, -, marks, -⟩ :=
    @run_marks_once newsAndPost processor processor honest honest rfl rfl rfl keyed apart
  obtain ⟨-, -, marked⟩ := marks (by decide +kernel)
  refine ⟨honest, rfl, keyed, apart, by decide +kernel, by decide +kernel, left,
    (marked 0 (by decide +kernel)).trans (by decide +kernel),
    (marked 1 (by decide +kernel)).trans (by decide +kernel)⟩

end Html.Page

end FeedFilter
