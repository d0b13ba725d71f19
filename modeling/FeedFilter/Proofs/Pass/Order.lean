/-
**Passes in any order and in parts.**

Entries that stand apart from each other are visited in any order and in any number of passes. What
is done to one of them changes no other, and nothing that is done to an entry changes what is seen
of it; only its mark may change. A visit to one entry then commutes with a visit to another, and a
pass is a fold of visits.

* `run_append`: over any feed, one pass over two lists is a pass over the first and then one over
  the second, as long as the first does not fail.
* `EntryKind`, `Feed.IsOf`: a kind of entries, and a feed of separate entries of that kind.
* `Tally.visit`: what a visit makes of entries, deeds and counts, by the decision on the entry
  alone.
* `visitAll_tally`: a pass is the fold of these visits; `foldl_visit_perm`: their order is of no
  matter.
* `run_anyOrder_anyParts`: what a pass leaves and counts depends neither on the order of its entries
  nor on how they are divided among passes.
-/

import FeedFilter.Proofs.Pass.Account
import FeedFilter.Proofs.Document.Stopping

namespace FeedFilter

variable {State Index Object : Type}

/-! ### Counts that add up -/

namespace Summary

/-- The counts of two passes together. -/
def plus (first second : Summary) : Summary where
  hidden := first.hidden + second.hidden
  highlighted := first.highlighted + second.highlighted
  shown := first.shown + second.shown
  untouched := first.untouched + second.untouched

theorem plus_zero (summary : Summary) : summary.plus {} = summary := rfl

theorem plus_right_comm (first second third : Summary) :
    (first.plus second).plus third = (first.plus third).plus second := by
  simp [plus, Nat.add_right_comm]

end Summary

namespace Processor

variable {feed : Feed State Index} {highlightMode : Bool}

/-! ### Passes in parts -/

/-- The middle of a pass when there were other visits before, with their records and counts. -/
def Progress.following (progress : Progress State) (log : List LogRecord) (summary : Summary) :
    Progress State :=
  { progress with log := log ++ progress.log, summary := summary.plus progress.summary }

/-- A visit adds to the records and counts that there are. -/
theorem visit_following (progress : Progress State) (log : List LogRecord) (summary : Summary)
    (index : Index) :
    visit feed highlightMode (progress.following log summary) index
      = ((visit feed highlightMode progress index).1.following log summary,
        (visit feed highlightMode progress index).2) := by
  have engine : (progress.following log summary).engine = progress.engine := rfl
  have state : (progress.following log summary).state = progress.state := rfl
  simp only [visit, engine, state]
  generalize progress.engine.decide (feed.view progress.state index) = answer
  rcases answer.inspection.result with fault | ⟨reason | reason | _⟩
  · simp [Progress.following]
  · simp only [act]
    cases highlightMode with
    | false => simp [Progress.following, Summary.plus, Nat.add_assoc]
    | true =>
      by_cases found : feed.isMarked progress.state index = true
      · simp [Progress.following, found]
      · rcases feed.highlight progress.state index reason with ⟨after, fault | _⟩
        · simp [Progress.following, found]
        · simp [Progress.following, found, Summary.plus, Nat.add_assoc]
  · simp [Progress.following, Summary.plus, Nat.add_assoc]
  · simp [Progress.following, Summary.plus, Nat.add_assoc]

theorem visitAll_following (indices : List Index) (progress : Progress State)
    (log : List LogRecord) (summary : Summary) :
    visitAll feed highlightMode indices (progress.following log summary)
      = ((visitAll feed highlightMode indices progress).1.following log summary,
        (visitAll feed highlightMode indices progress).2) := by
  induction indices generalizing progress with
  | nil => rfl
  | cons index rest ih =>
    rw [visitAll, visit_following, visitAll]
    rcases visit feed highlightMode progress index with ⟨next, fault | _⟩
    · rfl
    · exact ih next

theorem visitsFrom_following (indices : List Index) (progress : Progress State)
    (log : List LogRecord) (summary : Summary) :
    visitsFrom feed highlightMode indices (progress.following log summary)
      = visitsFrom feed highlightMode indices progress := by
  induction indices generalizing progress with
  | nil => rfl
  | cons index rest ih =>
    have here : visitOf feed highlightMode (progress.following log summary) index
        = visitOf feed highlightMode progress index := by
      rw [visitOf, visit_following]
      rfl
    rw [visitsFrom, here, visit_following, visitsFrom]
    rcases visit feed highlightMode progress index with ⟨next, fault | _⟩
    · rfl
    · exact congrArg _ (ih next)

theorem visitAll_append (first second : List Index) (progress : Progress State) :
    visitAll feed highlightMode (first ++ second) progress
      = match visitAll feed highlightMode first progress with
        | (next, .ok ()) => visitAll feed highlightMode second next
        | (next, .error fault) => (next, .error fault) := by
  induction first generalizing progress with
  | nil => rfl
  | cons index rest ih =>
    rw [List.cons_append, visitAll, visitAll]
    rcases visit feed highlightMode progress index with ⟨next, fault | _⟩
    · rfl
    · exact ih next

theorem visitsFrom_append (first second : List Index) (progress : Progress State) :
    visitsFrom feed highlightMode (first ++ second) progress
      = visitsFrom feed highlightMode first progress
        ++ match visitAll feed highlightMode first progress with
          | (next, .ok ()) => visitsFrom feed highlightMode second next
          | (_, .error _) => [] := by
  induction first generalizing progress with
  | nil => rfl
  | cons index rest ih =>
    rw [List.cons_append, visitsFrom, visitsFrom, visitAll, List.cons_append]
    rcases visit feed highlightMode progress index with ⟨next, fault | _⟩
    · rfl
    · exact congrArg _ (ih next)

/-- What a pass gives when its visits come to an end. -/
theorem run_of_ok {processor : Processor} {indices : List Index} {state : State}
    {last : Progress State} (done : visitAll feed processor.highlightMode indices
      ⟨processor.engine, state, [], {}⟩ = (last, .ok ())) :
    (processor.run feed indices state).processor = { processor with engine := last.engine }
      ∧ (processor.run feed indices state).state = last.state
      ∧ (processor.run feed indices state).summary = .ok last.summary := by
  simp only [run, done, and_self]

/-- A pass comes to its end when its visits do. -/
theorem run_ends {processor : Processor} {indices : List Index} {state : State}
    (done : (visitAll feed processor.highlightMode indices
      ⟨processor.engine, state, [], {}⟩).2 = .ok ()) :
    ∃ summary, (processor.run feed indices state).summary = .ok summary := by
  rcases result : visitAll feed processor.highlightMode indices ⟨processor.engine, state, [], {}⟩
    with ⟨last, fault | _⟩
  · rw [result] at done
    cases done
  · exact ⟨_, (run_of_ok result).2.2⟩

/-- What a pass gives when one of its visits fails. -/
theorem run_of_error {processor : Processor} {indices : List Index} {state : State}
    {last : Progress State} {fault : Fault} (failed : visitAll feed processor.highlightMode indices
      ⟨processor.engine, state, [], {}⟩ = (last, .error fault)) :
    (processor.run feed indices state).state = last.state
      ∧ (processor.run feed indices state).summary = .error fault := by
  simp only [run, failed, and_self]

/-- **One pass over two lists is two passes**, over any feed: it counts what these count together,
and it leaves what these leave when the first of them does not fail. -/
theorem run_append (processor : Processor) (feed : Feed State Index) (first second : List Index)
    (state : State) :
    let one := processor.run feed first state
    let two := one.processor.run feed second one.state
    let whole := processor.run feed (first ++ second) state
    whole.summary = (do return (← one.summary).plus (← two.summary))
      ∧ ∀ summary, one.summary = .ok summary → whole.state = two.state
        ∧ processor.calls feed (first ++ second) state
          = processor.calls feed first state ++ one.processor.calls feed second one.state := by
  intro one two whole
  have joined := @visitAll_append _ _ feed processor.highlightMode first second
    ⟨processor.engine, state, [], {}⟩
  have visits := @visitsFrom_append _ _ feed processor.highlightMode first second
    ⟨processor.engine, state, [], {}⟩
  rcases before : visitAll feed processor.highlightMode first ⟨processor.engine, state, [], {}⟩
    with ⟨middle, fault | _⟩
  · rw [before] at joined
    have failed : one.summary = .error fault := (run_of_error before).2
    refine ⟨?_, fun summary succeeded => ?_⟩
    · rw [show whole.summary = .error fault from (run_of_error joined).2, failed]
      rfl
    · rw [failed] at succeeded
      cases succeeded
  · -- The second pass begins where the first one ends, but with nothing recorded and counted.
    have again : middle = Progress.following ⟨middle.engine, middle.state, [], {}⟩ middle.log
        middle.summary := by
      rw [Progress.following, List.append_nil, Summary.plus_zero]
    rw [before] at joined visits
    dsimp only at joined visits
    rw [again, visitAll_following] at joined
    rw [again, visitsFrom_following] at visits
    obtain ⟨processorAfter, stateAfter, counted⟩ := run_of_ok before
    have start : two = ({ processor with engine := middle.engine } : Processor).run feed second
        middle.state := by
      show (processor.run feed first state).processor.run feed second
        (processor.run feed first state).state = _
      rw [processorAfter, stateAfter]
    have sameState : whole.state = two.state := by
      rw [start, run_state, run_state, joined]
      rfl
    have sameCalls : processor.calls feed (first ++ second) state
        = processor.calls feed first state ++ one.processor.calls feed second one.state := by
      rw [show one.processor = { processor with engine := middle.engine } from processorAfter,
        show one.state = middle.state from stateAfter, calls_eq, calls_eq, calls_eq,
        Processor.visits, visits, List.filterMap_append]
      rfl
    refine ⟨?_, fun summary succeeded => ⟨sameState, sameCalls⟩⟩
    rw [show one.summary = .ok middle.summary from counted, start]
    rcases after : visitAll feed processor.highlightMode second
      ⟨middle.engine, middle.state, [], {}⟩ with ⟨last, fault | _⟩
    · rw [after] at joined
      have other : (({ processor with engine := middle.engine } : Processor).run feed second
        middle.state).summary = .error fault := (run_of_error after).2
      rw [other]
      exact (run_of_error joined).2
    · rw [after] at joined
      have other : (({ processor with engine := middle.engine } : Processor).run feed second
        middle.state).summary = .ok last.summary := (run_of_ok after).2.2
      rw [other]
      exact (run_of_ok joined).2.2

end Processor

/-! ### Separate entries of a kind -/

/-- Whether everything that can be asked of an entry has an answer. -/
def Entry.Answers (entry : Entry) : Prop :=
  ∃ text reactor suggested credentials, entry = .ofValues text reactor suggested credentials

/-- Patterns that do not break down decide on every entry that answers. -/
theorem Engine.decision_succeeds {settings : Settings}
    (free : Document.breakdown? settings.filterPatterns = none) {entry : Entry}
    (answers : entry.Answers) : ∃ decided, decision settings entry = .ok decided := by
  obtain ⟨text, reactor, suggested, credentials, rfl⟩ := answers
  rw [decision, decide_new_eq, free]
  exact decideWith_succeeds text reactor suggested credentials _ _

/-- Patterns that break down decide on no entry. -/
theorem Engine.decision_of_breakdown {settings : Settings} {breakdown : Regex.Breakdown}
    (found : Document.breakdown? settings.filterPatterns = some breakdown) (entry : Entry) :
    decision settings entry = .error (.breakdown breakdown) := by
  rw [decision, decide_new_eq, found]
  rfl

/-- A kind of entries: how one of them is seen, whether it is marked, and what becomes of it when it
is hidden or highlighted. What is seen of it stays the same. -/
structure EntryKind (Object : Type) where
  view : Object → Entry
  isMarked : Object → Bool
  hide : Object → Object
  highlight : Object → Option String → Object
  view_hide : ∀ object, view (hide object) = view object
  view_highlight : ∀ object reason, view (highlight object reason) = view object

namespace EntryKind

variable (kind : EntryKind Object)

/-- What a deed makes of an entry. -/
def apply (object : Object) : Deed → Object
  | .hide => kind.hide object
  | .highlight reason => kind.highlight object reason

theorem view_apply (object : Object) (deed : Deed) :
    kind.view (kind.apply object deed) = kind.view object := by
  cases deed with
  | hide => exact kind.view_hide object
  | highlight reason => exact kind.view_highlight object reason

theorem view_foldl_apply (object : Object) (deeds : List Deed) :
    kind.view (deeds.foldl kind.apply object) = kind.view object := by
  induction deeds generalizing object with
  | nil => rfl
  | cons deed rest ih => exact (ih _).trans (kind.view_apply object deed)

/-- What is to be done to an entry by the decision on it. -/
def due (highlightMode : Bool) (object : Object) : Except Fault Decision → List Deed
  | .ok (.hide reason) =>
    if highlightMode then if kind.isMarked object then [] else [.highlight reason] else [.hide]
  | _ => []

end EntryKind

/-- What a decision on an entry, and what is done to it, add to the counts. -/
def Summary.ofVisit (due : List Deed) : Except Fault Decision → Summary
  | .ok (.keep _) => { shown := 1 }
  | .ok .nothing => { untouched := 1 }
  | .ok (.hide _) => { hidden := due.countP Deed.isHide, highlighted := due.countP (!·.isHide) }
  | .error _ => {}

variable [DecidableEq Index]

/-- Whether a feed is one of separate entries of a kind, each of them found by its index: what is
done to an entry changes this one alone, and highlighting it succeeds. -/
structure Feed.IsOf (feed : Feed State Index) (kind : EntryKind Object)
    (object? : State → Index → Option Object) : Prop where
  view : ∀ {state index object}, object? state index = some object →
    feed.view state index = kind.view object
  isMarked : ∀ {state index object}, object? state index = some object →
    feed.isMarked state index = kind.isMarked object
  apply : ∀ {state index object}, object? state index = some object → ∀ deed,
    object? (feed.apply ⟨index, state, deed⟩)
      = Function.update (object? state) index (some (kind.apply object deed))
  highlights : ∀ {state index object}, object? state index = some object → ∀ reason,
    (feed.highlight state index reason).2 = .ok ()

/-! ### Visits that commute -/

/-- What some calls have done to an entry. -/
def deedsOf (calls : List (Call State Index)) (index : Index) : List Deed :=
  (calls.filter fun call => call.index = index).map Call.deed

theorem deedsOf_append (first second : List (Call State Index)) (index : Index) :
    deedsOf (first ++ second) index = deedsOf first index ++ deedsOf second index := by
  rw [deedsOf, List.filter_append, List.map_append]
  rfl

theorem deedsOf_concat (calls : List (Call State Index)) (index : Index) (state : State)
    (deed : Deed) :
    deedsOf (calls ++ [⟨index, state, deed⟩])
      = Function.update (deedsOf calls) index (deedsOf calls index ++ [deed]) := by
  funext other
  rw [deedsOf_append]
  by_cases same : other = index
  · subst same
    simp [deedsOf]
  · simp [deedsOf, Function.update_of_ne same, Ne.symm same]

/-- Entries in the middle of a pass, with what was done to each of them, and the counts. -/
structure Tally (Index Object : Type) where
  objects : Index → Option Object
  deeds : Index → List Deed
  summary : Summary

namespace Tally

/-- What a visit to an entry makes of it: what is due to it is done and counted. -/
def visit (kind : EntryKind Object) (settings : Settings) (highlightMode : Bool)
    (tally : Tally Index Object) (index : Index) : Tally Index Object :=
  match tally.objects index with
  | none => tally
  | some object =>
    let decision := Engine.decision settings (kind.view object)
    let due := kind.due highlightMode object decision
    ⟨Function.update tally.objects index (some (due.foldl kind.apply object)),
      Function.update tally.deeds index (tally.deeds index ++ due),
      tally.summary.plus (.ofVisit due decision)⟩

variable (kind : EntryKind Object) (settings : Settings) (highlightMode : Bool)

/-- What is seen of an entry stays the same through a visit. -/
theorem view_visit (tally : Tally Index Object) (index : Index) {other : Index} {object : Object}
    (there : tally.objects other = some object) :
    ∃ after, (tally.visit kind settings highlightMode index).objects other = some after
      ∧ kind.view after = kind.view object := by
  rw [visit]
  cases found : tally.objects index with
  | none => exact ⟨object, there, rfl⟩
  | some visited =>
    by_cases same : other = index
    · subst same
      cases there.symm.trans found
      exact ⟨_, Function.update_self .., kind.view_foldl_apply object _⟩
    · exact ⟨object, (Function.update_of_ne same ..).trans there, rfl⟩

/-- **Visits to two entries commute.** -/
theorem visit_right_comm (tally : Tally Index Object) (first second : Index) :
    (tally.visit kind settings highlightMode first).visit kind settings highlightMode second
      = (tally.visit kind settings highlightMode second).visit kind settings highlightMode
        first := by
  by_cases same : first = second
  · rw [same]
  -- Each visit changes and reads its own entry only; the counts add up.
  have other : second ≠ first := Ne.symm same
  cases one : tally.objects first with
  | none =>
    cases two : tally.objects second with
    | none => simp [visit, one, two]
    | some object => simp [visit, one, two, Function.update_of_ne same]
  | some object =>
    cases two : tally.objects second with
    | none => simp [visit, one, two, Function.update_of_ne other]
    | some another =>
      simp only [visit, one, two, Function.update_of_ne other, Function.update_of_ne same]
      rw [Function.update_comm same, Function.update_comm same, Summary.plus_right_comm]

/-- **The order of visits is of no matter.** -/
theorem foldl_visit_perm {indices others : List Index} (perm : indices.Perm others)
    (tally : Tally Index Object) :
    indices.foldl (visit kind settings highlightMode) tally
      = others.foldl (visit kind settings highlightMode) tally :=
  perm.foldl_eq' (fun first _ second _ between =>
    visit_right_comm kind settings highlightMode between first second) tally

/-- The entries in the middle of a pass over a feed. -/
def of (object? : State → Index → Option Object) (progress : Processor.Progress State)
    (calls : List (Call State Index)) : Tally Index Object :=
  ⟨object? progress.state, deedsOf calls, progress.summary⟩

end Tally

namespace Processor

variable {feed : Feed State Index} {highlightMode : Bool} {kind : EntryKind Object}
  {object? : State → Index → Option Object}

/-- A visit to an entry that answers succeeds, and does and counts what is due. -/
theorem visit_tally (isOf : feed.IsOf kind object?) {progress : Progress State}
    (honest : progress.engine.IsHonest)
    (free : Document.breakdown? progress.engine.settings.filterPatterns = none) {index : Index}
    {object : Object} (there : object? progress.state index = some object)
    (answers : (kind.view object).Answers) (calls : List (Call State Index)) :
    (visit feed highlightMode progress index).2 = .ok ()
      ∧ Tally.of object? (visit feed highlightMode progress index).1
          (calls ++ ((visitOf feed highlightMode progress index).call? feed highlightMode).toList)
        = (Tally.of object? progress calls).visit kind progress.engine.settings highlightMode
          index := by
  obtain ⟨decided, decision⟩ := Engine.decision_succeeds free answers
  have state : (progress.asked feed index).state = progress.state := rfl
  have summary : (progress.asked feed index).summary = progress.summary := rfl
  have asked : (progress.engine.decide (feed.view progress.state index)).inspection.result
      = .ok decided := by
    rw [honest.decide_eq, isOf.view there, decision]
  have visited := visit_visited feed highlightMode progress index
  have tallied : (Tally.of object? progress calls).objects index = some object := there
  rw [Tally.visit, tallied]
  simp only [visitOf, asked, decision] at visited ⊢
  have unchanged : Function.update (object? progress.state) index (some object)
      = object? progress.state := by
    rw [← there, Function.update_eq_self]
  have marked := isOf.isMarked there
  generalize visit feed highlightMode progress index = result at visited ⊢
  cases visited with
  | kept reason =>
    refine ⟨rfl, ?_⟩
    simp [Visit.call?, EntryKind.due, Tally.of, Summary.ofVisit, Summary.plus, unchanged, state,
      summary]
  | untouched =>
    refine ⟨rfl, ?_⟩
    simp [Visit.call?, EntryKind.due, Tally.of, Summary.ofVisit, Summary.plus, unchanged, state,
      summary]
  | marked reason mode found =>
    rw [state, marked] at found
    refine ⟨rfl, ?_⟩
    simp [Visit.call?, Feed.call?, EntryKind.due, Tally.of, Summary.ofVisit, Summary.plus,
      unchanged, state, summary, mode, found, marked]
  | refused reason fault mode found failed =>
    rw [state, isOf.highlights there] at failed
    cases failed
  | highlighted reason mode found succeeds =>
    rw [state, marked] at found
    refine ⟨rfl, ?_⟩
    simp [Visit.call?, Feed.call?, EntryKind.due, Tally.of, Summary.ofVisit, Summary.plus, state,
      summary, mode, found, marked, deedsOf_concat, Deed.isHide]
    exact isOf.apply there (.highlight reason)
  | hidden reason mode =>
    refine ⟨rfl, ?_⟩
    simp [Visit.call?, Feed.call?, EntryKind.due, Tally.of, Summary.ofVisit, Summary.plus, state,
      summary, mode, deedsOf_concat, Deed.isHide]
    exact isOf.apply there .hide

/-- **A pass over entries that answer is a fold of visits**, and it comes to its end. -/
theorem visitAll_tally (isOf : feed.IsOf kind object?) {indices : List Index}
    {progress : Progress State} (honest : progress.engine.IsHonest)
    (free : Document.breakdown? progress.engine.settings.filterPatterns = none)
    (answers : ∀ index ∈ indices, ∃ object,
      object? progress.state index = some object ∧ (kind.view object).Answers)
    (calls : List (Call State Index)) :
    (visitAll feed highlightMode indices progress).2 = .ok ()
      ∧ Tally.of object? (visitAll feed highlightMode indices progress).1
          (calls ++ (visitsFrom feed highlightMode indices progress).filterMap
            (Visit.call? feed highlightMode))
        = indices.foldl (Tally.visit kind progress.engine.settings highlightMode)
          (Tally.of object? progress calls) := by
  induction indices generalizing progress calls with
  | nil => exact ⟨rfl, by rw [visitsFrom, List.filterMap_nil, List.append_nil]; rfl⟩
  | cons index rest ih =>
    obtain ⟨object, there, answering⟩ := answers index List.mem_cons_self
    obtain ⟨done, tally⟩ := @visit_tally _ _ _ _ feed highlightMode kind object? isOf progress
      honest free index object there answering calls
    have engine := @visit_engine _ _ feed highlightMode progress index
    have asked := honest.decide (feed.view progress.state index)
    rw [visitAll, visitsFrom, List.filterMap_cons, List.foldl_cons, ← tally]
    rcases result : visit feed highlightMode progress index with ⟨next, fault | _⟩
    · rw [result] at done
      cases done
    · rw [result] at tally engine
      dsimp only at tally engine ⊢
      -- The visit leaves what is seen of every entry as it was.
      have later : ∀ other ∈ rest, ∃ object,
          object? next.state other = some object ∧ (kind.view object).Answers := by
        intro other member
        obtain ⟨another, found, replies⟩ := answers other (List.mem_cons_of_mem index member)
        obtain ⟨after, left, seen⟩ := Tally.view_visit kind progress.engine.settings highlightMode
          (Tally.of object? progress calls) index found
        rw [← tally] at left
        exact ⟨after, left, seen ▸ replies⟩
      have settings : next.engine.settings = progress.engine.settings := by rw [engine]; rfl
      have onward := @ih next (engine ▸ asked) (settings ▸ free) later
        (calls ++ ((visitOf feed highlightMode progress index).call? feed highlightMode).toList)
      rw [settings, List.append_assoc] at onward
      cases asks : (visitOf feed highlightMode progress index).call? feed highlightMode with
      | none => simpa only [asks, Option.toList_none, List.nil_append] using onward
      | some call => simpa only [asks, Option.toList_some, List.singleton_append] using onward

/-- A whole pass over entries that answer counts, does and leaves what the fold of visits says. -/
theorem run_tally (isOf : feed.IsOf kind object?) {processor : Processor}
    (honest : processor.engine.IsHonest)
    (free : Document.breakdown? processor.engine.settings.filterPatterns = none)
    {indices : List Index} {state : State} (answers : ∀ index ∈ indices, ∃ object,
      object? state index = some object ∧ (kind.view object).Answers) :
    ∃ summary, (processor.run feed indices state).summary = .ok summary
      ∧ (⟨object? (processor.run feed indices state).state,
          deedsOf (processor.calls feed indices state), summary⟩ : Tally Index Object)
        = indices.foldl (Tally.visit kind processor.engine.settings processor.highlightMode)
          ⟨object? state, fun _ => [], {}⟩ := by
  obtain ⟨done, tally⟩ := @visitAll_tally _ _ _ _ feed processor.highlightMode kind object? isOf
    indices ⟨processor.engine, state, [], {}⟩ honest free answers []
  rcases result : visitAll feed processor.highlightMode indices ⟨processor.engine, state, [], {}⟩
    with ⟨last, fault | _⟩
  · rw [result] at done
    cases done
  · rw [result] at tally
    obtain ⟨-, left, counted⟩ := run_of_ok result
    refine ⟨last.summary, counted, ?_⟩
    rw [left, calls_eq]
    exact tally

omit [DecidableEq Index] in
/-- Patterns that break down stop a pass at its first entry, and nothing is done. -/
theorem run_of_breakdown {processor : Processor} (honest : processor.engine.IsHonest)
    {breakdown : Regex.Breakdown}
    (found : Document.breakdown? processor.engine.settings.filterPatterns = some breakdown)
    (feed : Feed State Index) (indices : List Index) (state : State) :
    (processor.run feed indices state).state = state
      ∧ (processor.run feed indices state).summary
        = (if indices.isEmpty then .ok {} else .error (.breakdown breakdown))
      ∧ processor.calls feed indices state = [] := by
  cases indices with
  | nil => exact ⟨rfl, rfl, rfl⟩
  | cons index rest =>
    have decided : (processor.engine.decide (feed.view state index)).inspection.result
        = .error (.breakdown breakdown) := by
      rw [honest.decide_eq, Engine.decision_of_breakdown found]
    have stopped : visit feed processor.highlightMode ⟨processor.engine, state, [], {}⟩ index
        = (Progress.asked ⟨processor.engine, state, [], {}⟩ feed index,
          .error (.breakdown breakdown)) := by
      simp only [visit, decided, Progress.asked]
    have all : visitAll feed processor.highlightMode (index :: rest)
          ⟨processor.engine, state, [], {}⟩
        = (Progress.asked ⟨processor.engine, state, [], {}⟩ feed index,
          .error (.breakdown breakdown)) := by
      rw [visitAll, stopped]
    obtain ⟨left, failed⟩ := run_of_error all
    refine ⟨left, failed, ?_⟩
    rw [calls_eq, visits, visitsFrom, stopped]
    simp only [visitOf, decided]
    rfl

/-- **A pass depends neither on the order of its entries nor on its parts.** Over separate entries
that answer, some of them marked and some of them visited several times:

* in any other order a pass counts the same, does the same to each entry and leaves it the same;
* two passes over the parts of a list do to each entry what one pass over the whole list does, leave
  it the same, and count the same together;
* a pass comes to its end, unless the patterns break down: then all of them fail alike. -/
theorem run_anyOrder_anyParts (isOf : feed.IsOf kind object?) {processor : Processor}
    (honest : processor.engine.IsHonest) {indices : List Index} {state : State}
    (answers : ∀ index ∈ indices, ∃ object,
      object? state index = some object ∧ (kind.view object).Answers) :
    let whole := processor.run feed indices state
    (∀ others, indices.Perm others →
        let other := processor.run feed others state
        other.summary = whole.summary
          ∧ ∀ index, object? other.state index = object? whole.state index
            ∧ deedsOf (processor.calls feed others state) index
              = deedsOf (processor.calls feed indices state) index)
      ∧ (∀ first second, indices = first ++ second →
        let one := processor.run feed first state
        let two := one.processor.run feed second one.state
        whole.summary = (do return (← one.summary).plus (← two.summary))
          ∧ ∀ index, object? two.state index = object? whole.state index
            ∧ deedsOf (processor.calls feed indices state) index
              = deedsOf (processor.calls feed first state) index
                ++ deedsOf (one.processor.calls feed second one.state) index)
      ∧ (Document.breakdown? processor.engine.settings.filterPatterns = none →
        ∃ summary, whole.summary = .ok summary) := by
  intro whole
  cases found : Document.breakdown? processor.engine.settings.filterPatterns with
  | none =>
    obtain ⟨summary, counted, tally⟩ := run_tally isOf honest found answers
    refine ⟨fun others perm => ?_, fun first second parts => ?_, fun _ => ⟨summary, counted⟩⟩
    · obtain ⟨another, same, again⟩ := run_tally isOf honest found
        fun index member => answers index (perm.mem_iff.mpr member)
      have equal := again.trans ((Tally.foldl_visit_perm kind _ _ perm _).symm.trans tally.symm)
      obtain ⟨objects, deeds, total⟩ := Tally.mk.inj equal
      exact ⟨by rw [same, total, counted], fun index =>
        ⟨congrFun objects index, congrFun deeds index⟩⟩
    · subst parts
      obtain ⟨together, onward⟩ := run_append processor feed first second state
      obtain ⟨part, ended, -⟩ := run_tally isOf honest found
        fun index member => answers index (List.mem_append_left second member)
      obtain ⟨left, calls⟩ := onward part ended
      exact ⟨together, fun index => ⟨by rw [left], by rw [calls, deedsOf_append]⟩⟩
  | some breakdown =>
    refine ⟨fun others perm => ?_, fun first second parts => ?_, fun free => nomatch free⟩
    · obtain ⟨left, failed, nothing⟩ := run_of_breakdown honest found feed indices state
      obtain ⟨leftToo, failedToo, nothingToo⟩ := run_of_breakdown honest found feed others state
      refine ⟨?_, fun index => ⟨by rw [leftToo, left], by rw [nothing, nothingToo]⟩⟩
      rw [failedToo, failed, perm.isEmpty_eq]
    · subst parts
      obtain ⟨engine, settings, -⟩ := run_processor honest feed first state
      obtain ⟨left, -, nothing⟩ := run_of_breakdown honest found feed (first ++ second) state
      obtain ⟨leftFirst, -, nothingFirst⟩ := run_of_breakdown honest found feed first state
      obtain ⟨leftSecond, -, nothingSecond⟩ :=
        run_of_breakdown engine (settings ▸ found) feed second
        (processor.run feed first state).state
      refine ⟨(run_append processor feed first second state).1, fun index => ⟨?_, ?_⟩⟩
      · rw [leftSecond, leftFirst, left]
      · rw [nothing, nothingFirst, nothingSecond]
        rfl

end Processor

/-! ### Entries in a list -/

namespace TracedEntry

/-- Entries that keep account of what was done to them. -/
def kind : EntryKind TracedEntry where
  view := entry
  isMarked := marked
  hide traced := { traced with hides := traced.hides + 1 }
  highlight traced reason :=
    { traced with marked := true, highlights := traced.highlights ++ [reason] }
  view_hide _ := rfl
  view_highlight _ _ := rfl

/-- The entries in a list are separate. -/
theorem feed_isOf : feed.IsOf kind fun entries index => entries[index]? where
  view there := by simp only [feed, there, kind]
  isMarked there := by simp only [feed, there, kind, Option.map_some, Option.getD_some]
  apply := by
    intro entries index traced there deed
    funext other
    by_cases same : other = index
    · subst same
      cases deed <;> simp [Feed.apply, feed, EntryKind.apply, kind, there]
    · cases deed <;> simp [Feed.apply, feed, Ne.symm same, Function.update_of_ne same]
  highlights _ _ := rfl

end TracedEntry

namespace Processor

/-- A processor that highlights suggested posts. -/
def highlighter : Processor := .new (.new { hideSuggested := true }) (some true)

/-- A suggested post, another one that is marked, and a post that is not suggested. -/
def threePosts : List TracedEntry :=
  [.new (.ofValues [] none true false) false, .new (.ofValues [] none true false) true,
    .new (.ofValues [] none false false) false]

/-- The first post is visited twice, before or after the others and in one pass or in two. -/
theorem run_anyOrder_anyParts_repeated :
    let whole := highlighter.run TracedEntry.feed [0, 1, 0, 2] threePosts
    let one := highlighter.run TracedEntry.feed [0, 1] threePosts
    let two := one.processor.run TracedEntry.feed [0, 2] one.state
    highlighter.engine.IsHonest
      ∧ whole.summary = .ok ⟨0, 1, 0, 1⟩
      ∧ (highlighter.run TracedEntry.feed [2, 0, 0, 1] threePosts).summary = whole.summary
      ∧ whole.summary = (do return (← one.summary).plus (← two.summary)) := by
  intro whole one two
  have honest := Engine.new_isHonest { hideSuggested := true }
  have answers : ∀ index ∈ [0, 1, 0, 2], ∃ traced, threePosts[index]? = some traced
      ∧ (TracedEntry.kind.view traced).Answers := by
    intro index member
    have known : index = 0 ∨ index = 1 ∨ index = 0 ∨ index = 2 := by simpa using member
    rcases known with rfl | rfl | rfl | rfl <;> exact ⟨_, rfl, _, _, _, _, rfl⟩
  have perm : [0, 1, 0, 2].Perm [2, 0, 0, 1] := by decide
  obtain ⟨anyOrder, anyParts, -⟩ :=
    @run_anyOrder_anyParts _ _ _ _ _ _ _ TracedEntry.feed_isOf highlighter honest _ _ answers
  exact ⟨honest, by decide +kernel, (anyOrder _ perm).1, (anyParts [0, 1] [0, 2] rfl).1⟩

end Processor

end FeedFilter
