/-
**What a pass does, visit by visit.**

A pass visits entries and acts on them by calls: an entry is hidden or highlighted. The visits of a
pass are written down here with what each of them finds, decides and leaves. The calls are written
down by a feed that does nothing else than the feed it is made of. A pass makes the calls that its
visits ask for.

* `Engine.IsHonest`: an engine that holds what it has compiled; it decides as a new one does.
* `Feed.recorded`, `Processor.calls`: a feed that writes down calls, and the calls of a pass.
* `Processor.visits`: the visits of a pass.
* `visit_visited`: what one visit can do.
* `run_recorded`: the calls of a pass are those that its visits ask for.
* `visitAll_follows`, `mem_visitsFrom`: where visits lead, what they decide and what they leave.
-/

import FeedFilter.Pass
import FeedFilter.Proofs.Engine.Fleet
import Mathlib.Data.List.Basic

namespace FeedFilter

variable {State Index : Type}

/-! ### The engine of a pass -/

namespace Engine

/-- The decision under settings, whatever was decided before. -/
def decision (settings : Settings) (entry : Entry) : Except Fault Decision :=
  ((new settings).decide entry).inspection.result

/-- Whether the pattern that an engine holds is the one of the text it is held for. -/
def IsHonest (engine : Engine) : Prop := ∃ last count, engine.cache.Tracks last count

theorem new_isHonest (settings : Settings) : (new settings).IsHonest :=
  ⟨none, 0, Cache.empty_tracks⟩

theorem IsHonest.update {engine : Engine} (honest : engine.IsHonest) (settings : Settings) :
    (engine.update settings).IsHonest := honest

theorem IsHonest.decide {engine : Engine} (honest : engine.IsHonest) (entry : Entry) :
    (engine.decide entry).engine.IsHonest := by
  obtain ⟨last, count, tracks⟩ := honest
  exact ⟨_, _, tracks.get_cache engine.settings.filterPatterns⟩

/-- An honest engine decides as a new one does, with the same reads. -/
theorem IsHonest.inspection_eq {engine : Engine} (honest : engine.IsHonest) (entry : Entry) :
    (engine.decide entry).inspection = ((new engine.settings).decide entry).inspection := by
  obtain ⟨last, count, tracks⟩ := honest
  have same : (engine.serve (.decide entry)).reply.unstamped
      = ((new engine.settings).serve (.decide entry)).reply.unstamped := by
    refine serve_reply_congr engine.settings ?_ (.decide entry)
    rw [tracks.get_held, Cache.empty_tracks.get_held]
  exact Reply.decision.inj same

theorem IsHonest.decide_eq {engine : Engine} (honest : engine.IsHonest) (entry : Entry) :
    (engine.decide entry).inspection.result = decision engine.settings entry :=
  congrArg Inspection.result (honest.inspection_eq entry)

/-- What an engine writes to the log is not signed by a pass. -/
theorem origin_of_mem_decide_log {engine : Engine} {entry : Entry} {record : LogRecord}
    (member : record ∈ (engine.decide entry).log) : record.origin ≠ .processor := by
  have compiled {source : Text} {ignored : List Ignored}
      (inside : record ∈ Cache.record source :: ignored.map Ignored.record) :
      record.origin ≠ .processor := by
    rcases List.mem_cons.mp inside with rfl | left
    · exact nofun
    · obtain ⟨one, -, rfl⟩ := List.mem_map.mp left
      exact nofun
  have written : record ∈ (engine.cache.get engine.settings.filterPatterns).log := member
  rw [Cache.get] at written
  split at written
  · cases written
  · split at written
    · exact compiled written
    · exact compiled written

end Engine

/-! ### Calls -/

/-- What is done to an entry. -/
inductive Deed where
  | hide
  | highlight (reason : Option String)
deriving DecidableEq, Repr

/-- Whether an entry is hidden. -/
def Deed.isHide : Deed → Bool
  | hide => true
  | highlight _ => false

/-- A call about an entry, and the feed that it finds. -/
structure Call (State Index : Type) where
  index : Index
  state : State
  deed : Deed

/-- Whether a call hides its entry. -/
def Call.hides (call : Call State Index) : Bool := call.deed.isHide

/-- Whether a call highlights its entry. -/
def Call.highlights (call : Call State Index) : Bool := !call.deed.isHide

/-- A feed that also writes down the calls. -/
def Feed.recorded (feed : Feed State Index) : Feed (State × List (Call State Index)) Index where
  view recorded index := feed.view recorded.1 index
  isMarked recorded index := feed.isMarked recorded.1 index
  hide recorded index :=
    (feed.hide recorded.1 index, recorded.2 ++ [⟨index, recorded.1, .hide⟩])
  highlight recorded index reason :=
    (((feed.highlight recorded.1 index reason).1,
      recorded.2 ++ [⟨index, recorded.1, .highlight reason⟩]),
      (feed.highlight recorded.1 index reason).2)

/-- The call about an entry that is to be hidden for a reason. -/
def Feed.call? (feed : Feed State Index) (highlightMode : Bool) (state : State) (index : Index)
    (reason : Option String) : Option (Call State Index) :=
  if highlightMode then
    if feed.isMarked state index then none else some ⟨index, state, .highlight reason⟩
  else some ⟨index, state, .hide⟩

/-- The feed that a call leaves. -/
def Feed.apply (feed : Feed State Index) (call : Call State Index) : State :=
  match call.deed with
  | .hide => feed.hide call.state call.index
  | .highlight reason => (feed.highlight call.state call.index reason).1

/-! ### Visits -/

/-- A visit to an entry: the feed that it finds, the decision on the entry, and the feed that it
leaves. -/
structure Visit (State Index : Type) where
  index : Index
  before : State
  decision : Except Fault Decision
  after : State

namespace Visit

/-- Whether a visit ends in a decision of some kind. -/
def decides (visit : Visit State Index) (kind : Decision → Bool) : Bool :=
  match visit.decision with
  | .ok decision => kind decision
  | .error _ => false

/-- Whether a visit finds a mark on its entry. -/
def isMarked (feed : Feed State Index) (visit : Visit State Index) : Bool :=
  feed.isMarked visit.before visit.index

/-- The call that a visit asks for. -/
def call? (feed : Feed State Index) (highlightMode : Bool) (visit : Visit State Index) :
    Option (Call State Index) :=
  match visit.decision with
  | .ok (.hide reason) => feed.call? highlightMode visit.before visit.index reason
  | _ => none

/-- The record about the call that a visit asks for. -/
def record? (feed : Feed State Index) (highlightMode : Bool) (visit : Visit State Index) :
    Option LogRecord :=
  match visit.decision with
  | .ok (.hide reason) => (feed.call? highlightMode visit.before visit.index reason).map
      fun _ => Processor.filteredRecord reason
  | _ => none

/-- Whether a visit finds its entry marked, so that it is not highlighted again. -/
def skips (feed : Feed State Index) (highlightMode : Bool) (visit : Visit State Index) : Bool :=
  highlightMode && visit.decides Decision.isHidden && visit.isMarked feed

variable {feed : Feed State Index} {highlightMode : Bool} {visit : Visit State Index}

/-- Only visits that end in hiding ask for a call. -/
theorem call?_of_not_hidden (other : visit.decides Decision.isHidden = false) :
    visit.call? feed highlightMode = none := by
  unfold decides at other
  unfold call?
  split at other
  · next decision decided =>
    rw [decided]
    cases decision with
    | hide reason => cases other
    | _ => rfl
  · next fault decided => rw [decided]

/-- Where entries are hidden, every visit that ends in hiding asks for it. -/
theorem call?_of_hides :
    visit.call? feed false = if visit.decides Decision.isHidden then
      some ⟨visit.index, visit.before, .hide⟩ else none := by
  by_cases hides : visit.decides Decision.isHidden = true
  · rw [if_pos hides]
    unfold decides at hides
    unfold call?
    split at hides
    · next decision decided =>
      rw [decided]
      cases decision with
      | hide reason => rfl
      | _ => cases hides
    · cases hides
  · rw [if_neg hides, call?_of_not_hidden (Bool.not_eq_true _ ▸ hides)]

/-- Where entries are highlighted, a visit asks for it when it finds no mark. -/
theorem call?_eq_some_of_highlights {call : Call State Index}
    (asks : visit.call? feed true = some call) :
    ∃ reason, visit.decision = .ok (.hide reason) ∧ visit.isMarked feed = false
      ∧ call = ⟨visit.index, visit.before, .highlight reason⟩ := by
  unfold call? at asks
  split at asks
  · next reason decided =>
    simp only [Feed.call?, if_true] at asks
    split at asks
    · cases asks
    · next unmarked =>
      exact ⟨reason, decided, Bool.not_eq_true _ ▸ unmarked, (Option.some.inj asks).symm⟩
  · cases asks

/-- Where entries are highlighted, a visit asks for nothing when it finds a mark or no reason. -/
theorem call?_eq_none_of_highlights (quiet : visit.call? feed true = none) :
    visit.isMarked feed = true ∨ ∀ reason, visit.decision ≠ .ok (.hide reason) := by
  by_contra other
  obtain ⟨unmarked, hides⟩ := not_or.mp other
  obtain ⟨reason, decided⟩ := not_forall_not.mp hides
  rw [call?, decided] at quiet
  simp only [Feed.call?, if_true] at quiet
  split at quiet
  · next marked => exact unmarked marked
  · cases quiet

end Visit

namespace Processor

/-- The visit to an entry in the middle of a pass. -/
def visitOf (feed : Feed State Index) (highlightMode : Bool) (progress : Progress State)
    (index : Index) : Visit State Index where
  index := index
  before := progress.state
  decision := (progress.engine.decide (feed.view progress.state index)).inspection.result
  after := (visit feed highlightMode progress index).1.state

/-- The visits of a pass, one after the other. -/
def visitsFrom (feed : Feed State Index) (highlightMode : Bool) :
    List Index → Progress State → List (Visit State Index)
  | [], _ => []
  | index :: rest, progress =>
    visitOf feed highlightMode progress index ::
      match visit feed highlightMode progress index with
      | (next, .ok ()) => visitsFrom feed highlightMode rest next
      | (_, .error _) => []

/-- The visits of a whole pass. -/
def visits (processor : Processor) (feed : Feed State Index) (indices : List Index)
    (state : State) : List (Visit State Index) :=
  visitsFrom feed processor.highlightMode indices ⟨processor.engine, state, [], {}⟩

/-- The calls of a whole pass. -/
def calls (processor : Processor) (feed : Feed State Index) (indices : List Index)
    (state : State) : List (Call State Index) :=
  (processor.run feed.recorded indices (state, [])).state.2

/-- The middle of a pass over a feed that writes down the calls. -/
def Progress.recorded (progress : Progress State) (calls : List (Call State Index)) :
    Progress (State × List (Call State Index)) :=
  ⟨progress.engine, (progress.state, calls), progress.log, progress.summary⟩

variable {feed : Feed State Index} {highlightMode : Bool}

/-! ### One visit -/

/-- The middle of a pass once the engine has been asked for a decision on an entry. -/
def Progress.asked (progress : Progress State) (feed : Feed State Index) (index : Index) :
    Progress State :=
  let answer := progress.engine.decide (feed.view progress.state index)
  { progress with engine := answer.engine, log := progress.log ++ answer.log }

/-- What a visit does, from the decision on its entry: it fails, counts the entry, finds it marked,
highlights it with or without success, or hides it. -/
inductive Visited (feed : Feed State Index) (highlightMode : Bool) (asked : Progress State)
    (index : Index) : Except Fault Decision → Progress State × Except Fault Unit → Prop
  | failed (fault : Fault) : Visited feed highlightMode asked index (.error fault)
      (asked, .error fault)
  | kept (reason : Option String) : Visited feed highlightMode asked index (.ok (.keep reason))
      ({ asked with summary := { asked.summary with shown := asked.summary.shown + 1 } }, .ok ())
  | untouched : Visited feed highlightMode asked index (.ok .nothing)
      ({ asked with
          summary := { asked.summary with untouched := asked.summary.untouched + 1 } }, .ok ())
  | marked (reason : Option String) (mode : highlightMode = true)
      (found : feed.isMarked asked.state index = true) :
      Visited feed highlightMode asked index (.ok (.hide reason)) (asked, .ok ())
  | refused (reason : Option String) (fault : Fault) (mode : highlightMode = true)
      (found : feed.isMarked asked.state index = false)
      (result : (feed.highlight asked.state index reason).2 = .error fault) :
      Visited feed highlightMode asked index (.ok (.hide reason))
        ({ asked with state := (feed.highlight asked.state index reason).1 }, .error fault)
  | highlighted (reason : Option String) (mode : highlightMode = true)
      (found : feed.isMarked asked.state index = false)
      (result : (feed.highlight asked.state index reason).2 = .ok ()) :
      Visited feed highlightMode asked index (.ok (.hide reason))
        ({ asked with
            state := (feed.highlight asked.state index reason).1
            log := asked.log ++ [filteredRecord reason]
            summary := { asked.summary with highlighted := asked.summary.highlighted + 1 } },
          .ok ())
  | hidden (reason : Option String) (mode : highlightMode = false) :
      Visited feed highlightMode asked index (.ok (.hide reason))
        ({ asked with
            state := feed.hide asked.state index
            log := asked.log ++ [filteredRecord reason]
            summary := { asked.summary with hidden := asked.summary.hidden + 1 } }, .ok ())

theorem act_visited (feed : Feed State Index) (highlightMode : Bool) (asked : Progress State)
    (index : Index) (reason : Option String) :
    Visited feed highlightMode asked index (.ok (.hide reason))
      (act feed highlightMode index reason asked) := by
  cases mode : highlightMode with
  | false => exact .hidden reason rfl
  | true =>
    simp only [act, if_true]
    split
    · next found => exact .marked reason rfl found
    · next found =>
      have unmarked := Bool.not_eq_true _ ▸ found
      split
      · next state done =>
        have highlighted := Visited.highlighted reason mode unmarked (congrArg Prod.snd done)
        rw [done, mode] at highlighted
        exact highlighted
      · next state fault failed =>
        have refused := Visited.refused reason fault mode unmarked (congrArg Prod.snd failed)
        rw [failed, mode] at refused
        exact refused

/-- **A visit does one of these things.** -/
theorem visit_visited (feed : Feed State Index) (highlightMode : Bool) (progress : Progress State)
    (index : Index) :
    Visited feed highlightMode (progress.asked feed index) index
      (visitOf feed highlightMode progress index).decision
      (visit feed highlightMode progress index) := by
  simp only [visitOf, visit]
  generalize (progress.engine.decide (feed.view progress.state index)).inspection.result = decision
  cases decision with
  | error fault => exact .failed fault
  | ok decision =>
    cases decision with
    | keep reason => exact .kept reason
    | nothing => exact .untouched
    | hide reason => exact act_visited feed highlightMode _ index reason

theorem act_recorded (asked : Progress State) (calls : List (Call State Index)) (index : Index)
    (reason : Option String) :
    act feed.recorded highlightMode index reason (asked.recorded calls)
      = ((act feed highlightMode index reason asked).1.recorded
          (calls ++ (feed.call? highlightMode asked.state index reason).toList),
        (act feed highlightMode index reason asked).2) := by
  simp only [act, Progress.recorded, Feed.recorded, Feed.call?]
  cases highlightMode with
  | false => rfl
  | true =>
    by_cases found : feed.isMarked asked.state index = true
    · simp [found]
    · rcases feed.highlight asked.state index reason with ⟨state, fault | _⟩
      · simp [found]
      · simp [found]

/-- A visit makes the call that it asks for, and writing it down changes nothing else. -/
theorem visit_recorded (progress : Progress State) (calls : List (Call State Index))
    (index : Index) :
    visit feed.recorded highlightMode (progress.recorded calls) index
      = ((visit feed highlightMode progress index).1.recorded
          (calls ++ ((visitOf feed highlightMode progress index).call? feed highlightMode).toList),
        (visit feed highlightMode progress index).2) := by
  have seen : feed.recorded.view (progress.recorded calls).state index
      = feed.view progress.state index := rfl
  have engine : (progress.recorded calls).engine = progress.engine := rfl
  simp only [visit, visitOf, Visit.call?, seen, engine]
  generalize progress.engine.decide (feed.view progress.state index) = answer
  rcases answer.inspection.result with fault | ⟨reason | reason | _⟩
  · simp [Progress.recorded]
  · exact act_recorded { progress with engine := answer.engine, log := progress.log ++ answer.log }
      calls index reason
  · simp [Progress.recorded]
  · simp [Progress.recorded]

/-- **A pass makes the calls that its visits ask for**, in their order, and writing them down
changes nothing else. -/
theorem visitAll_recorded (indices : List Index) (progress : Progress State)
    (calls : List (Call State Index)) :
    visitAll feed.recorded highlightMode indices (progress.recorded calls)
      = ((visitAll feed highlightMode indices progress).1.recorded
          (calls ++ (visitsFrom feed highlightMode indices progress).filterMap
            (Visit.call? feed highlightMode)),
        (visitAll feed highlightMode indices progress).2) := by
  induction indices generalizing progress calls with
  | nil => simp [visitAll, visitsFrom]
  | cons index rest ih =>
    rw [visitAll, visit_recorded, visitAll, visitsFrom, List.filterMap_cons]
    rcases visit feed highlightMode progress index with ⟨next, fault | _⟩
    · cases Visit.call? feed highlightMode (visitOf feed highlightMode progress index) <;> simp
    · dsimp only
      rw [ih]
      cases Visit.call? feed highlightMode (visitOf feed highlightMode progress index) <;> simp

/-- Writing down the calls of a pass changes nothing else. -/
theorem run_recorded (processor : Processor) (indices : List Index) (state : State) :
    processor.run feed.recorded indices (state, [])
      = ⟨(processor.run feed indices state).processor,
        ((processor.run feed indices state).state, (processor.visits feed indices state).filterMap
          (Visit.call? feed processor.highlightMode)),
        (processor.run feed indices state).log, (processor.run feed indices state).summary⟩ := by
  -- The record at the end depends on the counts only, which are the same.
  have recorded := @visitAll_recorded _ _ feed processor.highlightMode indices
    ⟨processor.engine, state, [], {}⟩ []
  simp only [Progress.recorded, List.nil_append] at recorded
  simp only [run, recorded, visits]
  rcases visitAll feed processor.highlightMode indices ⟨processor.engine, state, [], {}⟩
    with ⟨progress, fault | _⟩
  · rfl
  · rfl

/-! ### The feed and the engine along a pass -/

/-- Whether visits lead from one state of a feed to another, each from where the last one ended. -/
def Follows : State → List (Visit State Index) → State → Prop
  | state, [], last => last = state
  | state, visit :: rest, last => visit.before = state ∧ Follows visit.after rest last

/-- A visit leaves the feed that its call leaves, if it makes one. -/
theorem visit_after (progress : Progress State) (index : Index) :
    (visitOf feed highlightMode progress index).after
      = ((visitOf feed highlightMode progress index).call? feed highlightMode).elim progress.state
          feed.apply := by
  have visited := visit_visited feed highlightMode progress index
  have state : (progress.asked feed index).state = progress.state := rfl
  rw [visitOf] at visited ⊢
  generalize visit feed highlightMode progress index = result at visited ⊢
  generalize (progress.engine.decide (feed.view progress.state index)).inspection.result = decision
    at visited ⊢
  cases visited with
  | failed fault => rfl
  | kept reason => rfl
  | untouched => rfl
  | marked reason mode found =>
    rw [state] at found
    simp [Visit.call?, Feed.call?, mode, found, state]
  | refused reason fault mode found failed =>
    rw [state] at found
    simp [Visit.call?, Feed.call?, Feed.apply, mode, found, state]
  | highlighted reason mode found succeeds =>
    rw [state] at found
    simp [Visit.call?, Feed.call?, Feed.apply, mode, found, state]
  | hidden reason mode => simp [Visit.call?, Feed.call?, Feed.apply, mode, state]

/-- A visit asks the engine once. -/
theorem visit_engine (progress : Progress State) (index : Index) :
    (visit feed highlightMode progress index).1.engine
      = (progress.engine.decide (feed.view progress.state index)).engine := by
  have visited := visit_visited feed highlightMode progress index
  have engine : (progress.asked feed index).engine
    = (progress.engine.decide (feed.view progress.state index)).engine := rfl
  generalize (visitOf feed highlightMode progress index).decision = decision at visited
  generalize visit feed highlightMode progress index = result at visited ⊢
  cases visited <;> exact engine

/-- The engine of a visit keeps its settings and stays honest. -/
theorem visit_honest (feed : Feed State Index) (highlightMode : Bool) {progress : Progress State}
    (honest : progress.engine.IsHonest) (index : Index) :
    (visit feed highlightMode progress index).1.engine.IsHonest
      ∧ (visit feed highlightMode progress index).1.engine.settings
        = progress.engine.settings := by
  rw [visit_engine]
  exact ⟨honest.decide _, rfl⟩

theorem visitAll_follows (indices : List Index) (progress : Progress State) :
    Follows progress.state (visitsFrom feed highlightMode indices progress)
      (visitAll feed highlightMode indices progress).1.state := by
  induction indices generalizing progress with
  | nil => rfl
  | cons index rest ih =>
    have here : (visitOf feed highlightMode progress index).after
      = (visit feed highlightMode progress index).1.state := rfl
    rw [visitAll, visitsFrom]
    rcases result : visit feed highlightMode progress index with ⟨next, fault | _⟩
    · rw [result] at here
      exact ⟨rfl, here.symm⟩
    · rw [result] at here
      refine ⟨rfl, ?_⟩
      rw [here]
      exact ih next

/-- The engine of a pass keeps its settings and stays honest. -/
theorem visitAll_engine (indices : List Index) {progress : Progress State}
    (honest : progress.engine.IsHonest) :
    (visitAll feed highlightMode indices progress).1.engine.IsHonest
      ∧ (visitAll feed highlightMode indices progress).1.engine.settings
        = progress.engine.settings := by
  induction indices generalizing progress with
  | nil => exact ⟨honest, rfl⟩
  | cons index rest ih =>
    have engine := visit_honest feed highlightMode honest index
    rw [visitAll]
    rcases result : visit feed highlightMode progress index with ⟨next, fault | _⟩
    · rw [result] at engine
      exact engine
    · rw [result] at engine
      obtain ⟨later, settings⟩ := ih engine.1
      exact ⟨later, settings.trans engine.2⟩

/-- A pass visits no other entries than those it is given. -/
theorem index_of_mem_visitsFrom {indices : List Index} {progress : Progress State}
    {visited : Visit State Index}
    (member : visited ∈ visitsFrom feed highlightMode indices progress) :
    visited.index ∈ indices := by
  induction indices generalizing progress with
  | nil => cases member
  | cons index rest ih =>
    rw [visitsFrom] at member
    rcases List.mem_cons.mp member with rfl | later
    · exact List.mem_cons_self
    · split at later
      · exact List.mem_cons_of_mem _ (ih later)
      · cases later

/-- **Each decision of a pass is the one under the settings**, and the entry is left as its call
leaves it. -/
theorem mem_visitsFrom {indices : List Index} {progress : Progress State}
    (honest : progress.engine.IsHonest) {visited : Visit State Index}
    (member : visited ∈ visitsFrom feed highlightMode indices progress) :
    visited.decision
        = Engine.decision progress.engine.settings (feed.view visited.before visited.index)
      ∧ visited.after = (visited.call? feed highlightMode).elim visited.before feed.apply := by
  induction indices generalizing progress with
  | nil => cases member
  | cons index rest ih =>
    have engine := @visit_engine _ _ feed highlightMode progress index
    have asked := honest.decide (feed.view progress.state index)
    rw [visitsFrom] at member
    rcases List.mem_cons.mp member with rfl | later
    · exact ⟨honest.decide_eq _, visit_after progress index⟩
    · rcases result : visit feed highlightMode progress index with ⟨next, fault | _⟩
      · simp only [result] at later
        cases later
      · simp only [result] at later engine
        rw [← engine] at asked
        obtain ⟨decided, left⟩ := ih asked later
        exact ⟨by rw [decided, engine]; rfl, left⟩

end Processor

end FeedFilter
