/-
**The account of a pass.**

The counts of a pass that does not fail agree with its visits and its calls: each visit is counted
once, or finds its entry marked. At its end a pass tells how many entries it has changed, if any.

* `Tallied`: what visits add to the counts and to the log.
* `visitAll_tallied`: a pass that does not fail visits all entries.
* `totals`: the records that tell how many entries have been changed.
* `pass_accounted`: what a pass does, counts and tells.
-/

import FeedFilter.Proofs.Pass.Visits

namespace FeedFilter.Processor

variable {State Index : Type} {feed : Feed State Index} {highlightMode : Bool}

/-! ### Counting visits -/

/-- The records of a log that passes have written. -/
def ownRecords (log : List LogRecord) : List LogRecord :=
  log.filter fun record => record.origin = .processor

/-- What some visits that did not fail have added to the counts and to the log. -/
structure Tallied (feed : Feed State Index) (highlightMode : Bool)
    (visits : List (Visit State Index)) (before after : Progress State) : Prop where
  hidden : after.summary.hidden = before.summary.hidden
    + (visits.filterMap (Visit.call? feed highlightMode)).countP Call.hides
  highlighted : after.summary.highlighted = before.summary.highlighted
    + (visits.filterMap (Visit.call? feed highlightMode)).countP Call.highlights
  shown : after.summary.shown = before.summary.shown
    + visits.countP (Visit.decides · Decision.isShown)
  untouched : after.summary.untouched = before.summary.untouched
    + visits.countP (Visit.decides · (· == .nothing))
  total : (visits.filterMap (Visit.call? feed highlightMode)).length
    + visits.countP (Visit.decides · Decision.isShown)
    + visits.countP (Visit.decides · (· == .nothing))
    + visits.countP (Visit.skips feed highlightMode) = visits.length
  log : ownRecords after.log = ownRecords before.log
    ++ visits.filterMap (Visit.record? feed highlightMode)

theorem Tallied.nil (progress : Progress State) : Tallied feed highlightMode [] progress progress :=
  ⟨rfl, rfl, rfl, rfl, rfl, (List.append_nil _).symm⟩

theorem Tallied.append {first second : List (Visit State Index)}
    {before middle after : Progress State} (one : Tallied feed highlightMode first before middle)
    (two : Tallied feed highlightMode second middle after) :
    Tallied feed highlightMode (first ++ second) before after where
  hidden := by rw [two.hidden, one.hidden, List.filterMap_append, List.countP_append, Nat.add_assoc]
  highlighted := by
    rw [two.highlighted, one.highlighted, List.filterMap_append, List.countP_append, Nat.add_assoc]
  shown := by rw [two.shown, one.shown, List.countP_append, Nat.add_assoc]
  untouched := by rw [two.untouched, one.untouched, List.countP_append, Nat.add_assoc]
  total := by
    have first := one.total
    have second := two.total
    simp only [List.filterMap_append, List.countP_append, List.length_append]
    omega
  log := by rw [two.log, one.log, List.filterMap_append, List.append_assoc]

/-- A visit that does not fail adds what its decision asks for. -/
theorem visit_tallied {progress : Progress State} {index : Index}
    (done : (visit feed highlightMode progress index).2 = .ok ()) :
    Tallied feed highlightMode [visitOf feed highlightMode progress index] progress
      (visit feed highlightMode progress index).1 := by
  -- The engine may compile patterns at any visit, but what it writes then is not the pass's own.
  have quiet : ownRecords (progress.asked feed index).log = ownRecords progress.log := by
    have engine :
        ownRecords (progress.engine.decide (feed.view progress.state index)).log = [] := by
      refine List.filter_eq_nil_iff.mpr fun record member => ?_
      simpa using Engine.origin_of_mem_decide_log member
    show ownRecords (progress.log ++ _) = _
    rw [ownRecords, List.filter_append, ← ownRecords, ← ownRecords, engine, List.append_nil]
  have written (log : List LogRecord) (reason : Option String) :
      ownRecords (log ++ [filteredRecord reason]) = ownRecords log ++ [filteredRecord reason] := by
    rw [ownRecords, List.filter_append]
    rfl
  have visited := visit_visited feed highlightMode progress index
  have counts : (progress.asked feed index).summary = progress.summary := rfl
  have state : (progress.asked feed index).state = progress.state := rfl
  rw [visitOf] at visited ⊢
  generalize visit feed highlightMode progress index = result at done visited ⊢
  generalize (progress.engine.decide (feed.view progress.state index)).inspection.result = decision
    at visited ⊢
  cases visited with
  | failed fault => cases done
  | refused reason fault mode found failed => cases done
  | kept reason =>
    constructor <;> simp [Visit.call?, Visit.record?, Visit.decides, Visit.skips,
      Decision.isShown, Decision.isHidden, counts, quiet]
  | untouched =>
    constructor <;> simp [Visit.call?, Visit.record?, Visit.decides, Visit.skips,
      Decision.isShown, Decision.isHidden, counts, quiet]
  | marked reason mode found =>
    rw [state] at found
    constructor <;> simp [Visit.call?, Visit.record?, Visit.decides, Visit.skips, Visit.isMarked,
      Feed.call?, Decision.isShown, Decision.isHidden, mode, found, counts, quiet]
  | highlighted reason mode found succeeds =>
    rw [state] at found
    constructor <;> simp [Visit.call?, Visit.record?, Visit.decides, Visit.skips, Visit.isMarked,
      Feed.call?, Decision.isShown, Decision.isHidden, mode, found, counts, quiet, Call.hides,
      Call.highlights, Deed.isHide, written]
  | hidden reason mode =>
    constructor <;> simp [Visit.call?, Visit.record?, Visit.decides, Visit.skips,
      Feed.call?, Decision.isShown, Decision.isHidden, mode, counts, quiet, Call.hides,
      Call.highlights, Deed.isHide, written]

/-- **A pass that does not fail visits all entries**, and each visit counts once. -/
theorem visitAll_tallied {indices : List Index} {progress : Progress State}
    (done : (visitAll feed highlightMode indices progress).2 = .ok ()) :
    (visitsFrom feed highlightMode indices progress).map Visit.index = indices
      ∧ Tallied feed highlightMode (visitsFrom feed highlightMode indices progress) progress
        (visitAll feed highlightMode indices progress).1 := by
  induction indices generalizing progress with
  | nil => exact ⟨rfl, .nil progress⟩
  | cons index rest ih =>
    have first := @visit_tallied _ _ feed highlightMode progress index
    rw [visitAll] at done ⊢
    rw [visitsFrom]
    rcases result : visit feed highlightMode progress index with ⟨next, fault | _⟩
    · simp only [result] at done
      cases done
    · simp only [result] at done first ⊢
      obtain ⟨others, tallied⟩ := ih done
      exact ⟨congrArg (index :: ·) others, (first trivial).append tallied⟩

/-! ### The record at the end -/

/-- The records of a log that tell how many entries a pass has changed. -/
def totals (log : List LogRecord) : List LogRecord :=
  log.filter fun record => record.origin = .processor && record.level = .info

theorem totals_append (first second : List LogRecord) :
    totals (first ++ second) = totals first ++ totals second := List.filter_append _ _

theorem totals_decide (engine : Engine) (entry : Entry) :
    totals (engine.decide entry).log = [] := by
  refine List.filter_eq_nil_iff.mpr fun record member => ?_
  simp [Engine.origin_of_mem_decide_log member]

/-- No visit tells how many entries have been changed. -/
theorem visit_totals (progress : Progress State) (index : Index) :
    totals (visit feed highlightMode progress index).1.log = totals progress.log := by
  have visited := visit_visited feed highlightMode progress index
  have asked : totals (progress.asked feed index).log = totals progress.log := by
    show totals (progress.log ++ _) = _
    rw [totals_append, totals_decide, List.append_nil]
  have written (reason : Option String) :
      totals ((progress.asked feed index).log ++ [filteredRecord reason])
        = totals progress.log := by
    rw [totals_append, asked]
    exact List.append_nil _
  generalize (visitOf feed highlightMode progress index).decision = decision at visited
  generalize visit feed highlightMode progress index = result at visited ⊢
  cases visited with
  | highlighted reason mode found succeeds => exact written reason
  | hidden reason mode => exact written reason
  | _ => exact asked

theorem visitAll_totals (indices : List Index) (progress : Progress State) :
    totals (visitAll feed highlightMode indices progress).1.log = totals progress.log := by
  induction indices generalizing progress with
  | nil => rfl
  | cons index rest ih =>
    have first := @visit_totals _ _ feed highlightMode progress index
    rw [visitAll]
    rcases result : visit feed highlightMode progress index with ⟨next, fault | _⟩
    · rwa [result] at first
    · rw [result] at first
      exact (ih next).trans first

/-! ### The account of a pass -/

/-- The calls of a pass are those that its visits ask for. -/
theorem calls_eq (processor : Processor) (indices : List Index) (state : State) :
    processor.calls feed indices state
      = (processor.visits feed indices state).filterMap
        (Visit.call? feed processor.highlightMode) := by
  rw [calls, run_recorded]

/-- What the counts of a pass say, and what the pass tells at its end. -/
structure CountAccount (processor : Processor) (feed : Feed State Index) (indices : List Index)
    (state : State) (summary : Summary) : Prop where
  visited : (processor.visits feed indices state).map Visit.index = indices
  hidden : summary.hidden = (processor.calls feed indices state).countP Call.hides
  highlighted : summary.highlighted = (processor.calls feed indices state).countP Call.highlights
  shown : summary.shown
    = (processor.visits feed indices state).countP (Visit.decides · Decision.isShown)
  untouched : summary.untouched
    = (processor.visits feed indices state).countP (Visit.decides · (· == .nothing))
  total : summary.hidden + summary.highlighted + summary.shown + summary.untouched
    + (processor.visits feed indices state).countP (Visit.skips feed processor.highlightMode)
    = indices.length
  told : totals (processor.run feed indices state).log
    = if (processor.calls feed indices state).length = 0 then []
      else [totalRecord processor.highlightMode summary]
  written : ownRecords (processor.run feed indices state).log
    = (processor.visits feed indices state).filterMap
        (Visit.record? feed processor.highlightMode)
      ++ totals (processor.run feed indices state).log

/-- What a pass does to a feed. -/
structure PassAccount (processor : Processor) (feed : Feed State Index) (indices : List Index)
    (state : State) : Prop where
  follows : Follows state (processor.visits feed indices state)
    (processor.run feed indices state).state
  decided : ∀ visited ∈ processor.visits feed indices state, visited.decision
    = Engine.decision processor.engine.settings (feed.view visited.before visited.index)
  unchanged : ∀ visited ∈ processor.visits feed indices state,
    visited.decides Decision.isHidden = false → visited.after = visited.before
  highlights : processor.highlightMode = true → ∀ call ∈ processor.calls feed indices state,
    feed.isMarked call.state call.index = false
      ∧ ∃ reason, call.deed = .highlight reason
        ∧ Engine.decision processor.engine.settings (feed.view call.state call.index)
          = .ok (.hide reason)
  hides : processor.highlightMode = false → processor.calls feed indices state
    = ((processor.visits feed indices state).filter (Visit.decides · Decision.isHidden)).map
      fun visited => ⟨visited.index, visited.before, .hide⟩
  counts : ∀ summary, (processor.run feed indices state).summary = .ok summary →
    CountAccount processor feed indices state summary
  silent : ∀ fault, (processor.run feed indices state).summary = .error fault →
    totals (processor.run feed indices state).log = []

theorem counts_of_ok {processor : Processor} {indices : List Index} {state : State}
    {summary : Summary} (done : (processor.run feed indices state).summary = .ok summary) :
    CountAccount processor feed indices state summary := by
  have quiet := @visitAll_totals _ _ feed processor.highlightMode indices
    ⟨processor.engine, state, [], {}⟩
  have finished := @visitAll_tallied _ _ feed processor.highlightMode indices
    ⟨processor.engine, state, [], {}⟩
  rcases result : visitAll feed processor.highlightMode indices ⟨processor.engine, state, [], {}⟩
    with ⟨progress, fault | _⟩
  · simp only [run, result] at done
    cases done
  · have outcome : processor.run feed indices state
        = ⟨{ processor with engine := progress.engine }, progress.state,
          if progress.summary.actedOn = 0 then progress.log
          else progress.log ++ [totalRecord processor.highlightMode progress.summary],
          .ok progress.summary⟩ := by
      simp only [run, result]
    rw [outcome] at done
    cases done
    rw [result] at quiet finished
    obtain ⟨visited, tallied⟩ := finished rfl
    have hidden : progress.summary.hidden
        = (processor.calls feed indices state).countP Call.hides := by
      rw [calls_eq, visits, tallied.hidden, Nat.zero_add]
    have highlighted : progress.summary.highlighted
        = (processor.calls feed indices state).countP Call.highlights := by
      rw [calls_eq, visits, tallied.highlighted, Nat.zero_add]
    have shown : progress.summary.shown
        = (processor.visits feed indices state).countP (Visit.decides · Decision.isShown) := by
      rw [visits, tallied.shown, Nat.zero_add]
    have untouched : progress.summary.untouched
        = (processor.visits feed indices state).countP (Visit.decides · (· == .nothing)) := by
      rw [visits, tallied.untouched, Nat.zero_add]
    have acted : progress.summary.actedOn = (processor.calls feed indices state).length := by
      have others : (fun call : Call State Index => decide ¬ call.hides = true)
          = Call.highlights := by
        funext call
        cases hides : call.hides <;> simp_all [Call.hides, Call.highlights]
      rw [Summary.actedOn, hidden, highlighted, List.length_eq_countP_add_countP Call.hides, others]
    have told : totals (processor.run feed indices state).log
        = if (processor.calls feed indices state).length = 0 then []
          else [totalRecord processor.highlightMode progress.summary] := by
      rw [outcome, acted]
      dsimp only
      split
      · exact quiet
      · rw [totals_append, quiet]
        rfl
    refine ⟨visited, hidden, highlighted, shown, untouched, ?_, told, ?_⟩
    · have total := tallied.total
      rw [← visits, ← calls_eq, ← shown, ← untouched, ← acted, Summary.actedOn] at total
      rw [total, ← List.length_map, visits, visited]
    · rw [told, outcome, acted, visits]
      dsimp only
      split
      · rw [tallied.log, List.append_nil]
        rfl
      · rw [ownRecords, List.filter_append, ← ownRecords, tallied.log]
        rfl

theorem run_state (processor : Processor) (indices : List Index) (state : State) :
    (processor.run feed indices state).state
      = (visitAll feed processor.highlightMode indices
          ⟨processor.engine, state, [], {}⟩).1.state := by
  rw [run]
  rcases visitAll feed processor.highlightMode indices ⟨processor.engine, state, [], {}⟩
    with ⟨progress, fault | _⟩ <;> rfl

/-- A pass changes neither the settings nor the mode of a processor. -/
theorem run_processor {processor : Processor} (honest : processor.engine.IsHonest)
    (feed : Feed State Index) (indices : List Index) (state : State) :
    (processor.run feed indices state).processor.engine.IsHonest
      ∧ (processor.run feed indices state).processor.engine.settings = processor.engine.settings
      ∧ (processor.run feed indices state).processor.highlightMode = processor.highlightMode := by
  have engine := @visitAll_engine _ _ feed processor.highlightMode indices
    ⟨processor.engine, state, [], {}⟩ honest
  rw [run]
  rcases result : visitAll feed processor.highlightMode indices ⟨processor.engine, state, [], {}⟩
    with ⟨progress, fault | _⟩
  · rw [result] at engine
    exact ⟨engine.1, engine.2, rfl⟩
  · rw [result] at engine
    exact ⟨engine.1, engine.2, rfl⟩

/-- A pass that fails does not tell how many entries it has changed. -/
theorem totals_of_error {processor : Processor} {indices : List Index} {state : State}
    {fault : Fault} (failed : (processor.run feed indices state).summary = .error fault) :
    totals (processor.run feed indices state).log = [] := by
  have quiet := @visitAll_totals _ _ feed processor.highlightMode indices
    ⟨processor.engine, state, [], {}⟩
  rw [run] at failed ⊢
  rcases result : visitAll feed processor.highlightMode indices ⟨processor.engine, state, [], {}⟩
    with ⟨progress, _ | _⟩
  · rwa [result] at quiet
  · rw [result] at failed
    cases failed

/-- **The account of a pass**, for every feed and every engine that holds what it has compiled. -/
theorem pass_accounted {processor : Processor} (honest : processor.engine.IsHonest)
    (feed : Feed State Index) (indices : List Index) (state : State) :
    PassAccount processor feed indices state where
  follows := by
    rw [run_state]
    exact visitAll_follows indices ⟨processor.engine, state, [], {}⟩
  decided := fun visited member => (mem_visitsFrom honest member).1
  unchanged := fun visited member other => by
    rw [(mem_visitsFrom honest member).2, Visit.call?_of_not_hidden other]
    rfl
  highlights := fun mode call member => by
    rw [calls_eq, mode] at member
    obtain ⟨visited, inside, asks⟩ := List.mem_filterMap.mp member
    obtain ⟨reason, decided, unmarked, rfl⟩ := Visit.call?_eq_some_of_highlights asks
    exact ⟨unmarked, reason, rfl, (mem_visitsFrom honest inside).1.symm.trans decided⟩
  hides := fun mode => by
    rw [calls_eq, mode, ← List.filterMap_eq_map, List.filterMap_filter]
    exact List.filterMap_congr fun visited _ => Visit.call?_of_hides
  counts := fun summary done => counts_of_ok done
  silent := fun fault failed => totals_of_error failed

end FeedFilter.Processor
