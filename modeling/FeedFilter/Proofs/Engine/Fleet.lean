/-
**Engines that share caches.**

Any number of engines are asked in any order, each of them through a cache that others may use as
well. What was asked before is a history, its newest step in front. Nothing of a cache shows in an
answer: it is the answer of a new engine with the settings in force.

* `Engine.serve`: an engine asked for a decision or its pattern, or given other settings.
* `Fleet.state`: the settings and the caches after a history.
* `settingsAfter`, `lastCompiled`, `recompiles`: what a history says of settings and compilations,
  no cache looked at.
* `state_tracks`: a cache holds what its history compiled last.
* `cache_unnoticed`: what a step after any history answers, holds, keeps and records.
-/

import FeedFilter.Proofs.Engine.Cache
import FeedFilter.Proofs.Inspection
import Mathlib.Logic.Function.Basic

namespace FeedFilter

/-! ### Asking one engine -/

/-- What an engine can be asked, or told. -/
inductive Request where
  | decide (entry : Entry)
  | shouldHide (entry : Entry)
  | root
  | update (settings : Settings)

/-- The settings that a request gives. -/
def Request.settings? : Request → Option Settings
  | update settings => some settings
  | _ => none

/-- What an engine says to a request. -/
inductive Reply where
  | decision (inspection : Inspection Decision)
  | hidden (inspection : Inspection Bool)
  | pattern (inspection : Inspection Held)
  | done

/-- A reply without the number of the compilation that its pattern comes from. -/
def Reply.unstamped : Reply → Reply
  | pattern inspection => pattern (inspection.bind fun held => .pure held.unstamped)
  | reply => reply

/-- A request served: the engine afterwards, the records, and the reply. -/
structure Service where
  engine : Engine
  log : List LogRecord
  reply : Reply

namespace Engine

/-- Serves a request. -/
def serve (engine : Engine) : Request → Service
  | .decide entry =>
    let answer := engine.decide entry
    ⟨answer.engine, answer.log, .decision answer.inspection⟩
  | .shouldHide entry =>
    let answer := engine.shouldHide entry
    ⟨answer.engine, answer.log, .hidden answer.inspection⟩
  | .root =>
    let answer := engine.root
    ⟨answer.engine, answer.log, .pattern answer.inspection⟩
  | .update settings => ⟨engine.update settings, [], .done⟩

theorem serve_settings (engine : Engine) (request : Request) :
    (engine.serve request).engine.settings = request.settings?.getD engine.settings := by
  cases request <;> rfl

theorem serve_of_settings (engine : Engine) {request : Request} {settings : Settings}
    (given : request.settings? = some settings) :
    (engine.serve request).engine.cache = engine.cache ∧ (engine.serve request).log = [] := by
  cases request with
  | update _ => exact ⟨rfl, rfl⟩
  | _ => cases given

theorem serve_of_none (engine : Engine) {request : Request} (asks : request.settings? = none) :
    (engine.serve request).engine.cache = (engine.cache.get engine.settings.filterPatterns).cache
      ∧ (engine.serve request).log = (engine.cache.get engine.settings.filterPatterns).log := by
  cases request with
  | update _ => cases asks
  | _ => exact ⟨rfl, rfl⟩

/-- The pattern of the settings in force without the number of its compilation. -/
def unstampedRoot (engine : Engine) : Inspection Held :=
  engine.root.inspection.bind fun held => .pure held.unstamped

theorem unstampedRoot_eq (engine : Engine) :
    engine.unstampedRoot
      = match (engine.cache.get engine.settings.filterPatterns).held.map Held.unstamped with
        | .ok held => .pure held
        | .error breakdown => .fail (.breakdown breakdown) := by
  simp only [unstampedRoot, root]
  cases (engine.cache.get engine.settings.filterPatterns).held with
  | ok held => rfl
  | error breakdown => rfl

theorem decide_eq (engine : Engine) (entry : Entry) :
    (engine.decide entry).inspection
      = engine.unstampedRoot.bind fun held => decideWith held.root engine.settings entry := by
  unfold decide unstampedRoot
  exact (Inspection.bind_bind_eq engine.root.inspection (fun held => .pure held.unstamped)
    fun held => decideWith held.root engine.settings entry).symm

theorem shouldHide_eq (engine : Engine) (entry : Entry) :
    (engine.shouldHide entry).inspection
      = (engine.decide entry).inspection.bind fun decision => .pure decision.isHidden := rfl

/-- The reply to a request hangs on the cache only through the pattern of the settings in force, and
not on the number of its compilation. -/
theorem serve_reply_congr (settings : Settings) {first second : Cache}
    (same : (first.get settings.filterPatterns).held.map Held.unstamped
      = (second.get settings.filterPatterns).held.map Held.unstamped) (request : Request) :
    ((Engine.mk settings first).serve request).reply.unstamped
      = ((Engine.mk settings second).serve request).reply.unstamped := by
  have root : (Engine.mk settings first).unstampedRoot
      = (Engine.mk settings second).unstampedRoot := by
    rw [unstampedRoot_eq, unstampedRoot_eq, same]
  have decision (entry : Entry) : ((Engine.mk settings first).decide entry).inspection
      = ((Engine.mk settings second).decide entry).inspection := by
    rw [decide_eq, decide_eq, root]
  cases request with
  | decide entry => exact congrArg Reply.decision (decision entry)
  | shouldHide entry =>
    show Reply.hidden _ = Reply.hidden _
    rw [shouldHide_eq, shouldHide_eq, decision]
  | root => exact congrArg Reply.pattern root
  | update _ => rfl

end Engine

/-! ### Engines and their caches -/

/-- One step: an engine, known by its name, and what it is asked. -/
structure Step (Name : Type) where
  engine : Name
  request : Request

/-- What happened so far, the newest step in front. -/
abbrev History (Name : Type) := List (Step Name)

/-- Engines with their settings at the start, and the cache that each of them uses. -/
structure Fleet (Name Slot : Type) where
  settings : Name → Settings
  cacheOf : Name → Slot

/-- The settings in force and the caches. -/
structure Fleet.State (Name Slot : Type) where
  settings : Name → Settings
  caches : Slot → Cache

namespace Fleet

variable {Name Slot : Type} [DecidableEq Name] [DecidableEq Slot] (fleet : Fleet Name Slot)

/-- What an engine says to a step. -/
def serve (state : State Name Slot) (step : Step Name) : Service :=
  (Engine.mk (state.settings step.engine) (state.caches (fleet.cacheOf step.engine))).serve
    step.request

/-- The settings and the caches after a step. -/
def next (state : State Name Slot) (step : Step Name) : State Name Slot :=
  let engine := (fleet.serve state step).engine
  ⟨Function.update state.settings step.engine engine.settings,
    Function.update state.caches (fleet.cacheOf step.engine) engine.cache⟩

/-- The settings and the caches after a history. Nothing is compiled at the start. -/
def state : History Name → State Name Slot
  | [] => ⟨fleet.settings, fun _ => .empty⟩
  | step :: history => next fleet (state history) step

/-! ### What a history says -/

/-- The settings of an engine: those it was given last. -/
def settingsAfter (name : Name) : History Name → Settings
  | [] => fleet.settings name
  | step :: history =>
    if step.engine = name then step.request.settings?.getD (settingsAfter name history)
    else settingsAfter name history

/-- The text of the patterns in force for the engine of a step. -/
def patternsOf (history : History Name) (step : Step Name) : Text :=
  (fleet.settingsAfter step.engine history).filterPatterns

/-- The text that a step asks a cache for. -/
def asked (slot : Slot) (history : History Name) (step : Step Name) : Option Text :=
  if fleet.cacheOf step.engine = slot && step.request.settings?.isNone then
    some (fleet.patternsOf history step)
  else none

/-- The last text asked of a cache that could be compiled. -/
def lastCompiled (slot : Slot) : History Name → Option Text
  | [] => none
  | step :: history =>
    (fleet.asked slot history step).elim (lastCompiled slot history)
      (Cache.lastAfter (lastCompiled slot history))

/-- Whether a step compiles another text in a cache than the one compiled last, with success. -/
def recompiles (slot : Slot) (history : History Name) (step : Step Name) : Bool :=
  (fleet.asked slot history step).any (Cache.renews (fleet.lastCompiled slot history))

/-- How often a cache has been filled. -/
def recompilations (slot : Slot) : History Name → Nat
  | [] => 0
  | step :: history => recompilations slot history + (fleet.recompiles slot history step).toNat

/-! ### The invariant -/

theorem next_settings (state : State Name Slot) (step : Step Name) :
    (fleet.next state step).settings
      = Function.update state.settings step.engine
          (step.request.settings?.getD (state.settings step.engine)) :=
  congrArg (Function.update state.settings step.engine) (Engine.serve_settings _ _)

theorem next_caches_self (state : State Name Slot) (step : Step Name) :
    (fleet.next state step).caches (fleet.cacheOf step.engine)
      = (fleet.serve state step).engine.cache := Function.update_self _ _ _

theorem next_caches_of_ne (state : State Name Slot) {step : Step Name} {slot : Slot}
    (other : fleet.cacheOf step.engine ≠ slot) :
    (fleet.next state step).caches slot = state.caches slot :=
  Function.update_of_ne (Ne.symm other) _ _

theorem state_settings (name : Name) (history : History Name) :
    (fleet.state history).settings name = fleet.settingsAfter name history := by
  induction history with
  | nil => rfl
  | cons step history ih =>
    rw [state, next_settings, settingsAfter]
    by_cases same : step.engine = name
    · subst same
      rw [Function.update_self, if_pos rfl, ih]
    · rw [Function.update_of_ne (Ne.symm same), if_neg same, ih]

theorem asked_of_none {step : Step Name} (asks : step.request.settings? = none)
    (history : History Name) :
    fleet.asked (fleet.cacheOf step.engine) history step
      = some (fleet.patternsOf history step) := by
  unfold asked
  rw [asks, Option.isNone_none, Bool.and_true, if_pos (decide_eq_true rfl)]

theorem asked_of_settings {step : Step Name} {settings : Settings}
    (given : step.request.settings? = some settings) (slot : Slot) (history : History Name) :
    fleet.asked slot history step = none := by
  unfold asked
  rw [given, Option.isNone_some, Bool.and_false, if_neg Bool.false_ne_true]

theorem asked_of_ne {step : Step Name} {slot : Slot} (other : fleet.cacheOf step.engine ≠ slot)
    (history : History Name) : fleet.asked slot history step = none := by
  unfold asked
  rw [decide_eq_false other, Bool.false_and, if_neg Bool.false_ne_true]

theorem eq_patternsOf_of_asked {slot : Slot} {history : History Name} {step : Step Name}
    {text : Text} (asks : fleet.asked slot history step = some text) :
    text = fleet.patternsOf history step := by
  unfold asked at asks
  split at asks
  · exact (Option.some.inj asks).symm
  · cases asks

/-- A step that asks for a pattern asks the cache of its engine for the text in force. -/
theorem serve_of_none {step : Step Name} (asks : step.request.settings? = none)
    (history : History Name) :
    (fleet.serve (fleet.state history) step).engine.cache
        = (((fleet.state history).caches (fleet.cacheOf step.engine)).get
            (fleet.patternsOf history step)).cache
      ∧ (fleet.serve (fleet.state history) step).log
        = (((fleet.state history).caches (fleet.cacheOf step.engine)).get
            (fleet.patternsOf history step)).log := by
  unfold patternsOf
  rw [← state_settings]
  exact Engine.serve_of_none _ asks

/-- **One step changes one cache at most**: the one it asks, and only by asking it. -/
theorem next_caches (slot : Slot) (history : History Name) (step : Step Name) :
    (fleet.state (step :: history)).caches slot
      = (fleet.asked slot history step).elim ((fleet.state history).caches slot)
          fun text => (((fleet.state history).caches slot).get text).cache := by
  rw [state]
  by_cases same : fleet.cacheOf step.engine = slot
  · subst same
    rw [next_caches_self]
    cases given : step.request.settings? with
    | some settings =>
      rw [asked_of_settings fleet given]
      exact (Engine.serve_of_settings _ given).1
    | none =>
      rw [asked_of_none fleet given, (fleet.serve_of_none given history).1]
      rfl
  · rw [fleet.next_caches_of_ne _ same, asked_of_ne fleet same]
    rfl

/-- **A cache holds what its history compiled last**, with the number of that compilation. -/
theorem state_tracks (slot : Slot) (history : History Name) :
    ((fleet.state history).caches slot).Tracks (fleet.lastCompiled slot history)
      (fleet.recompilations slot history) := by
  induction history with
  | nil => exact Cache.empty_tracks
  | cons step history ih =>
    rw [next_caches, lastCompiled, recompilations, recompiles]
    cases fleet.asked slot history step with
    | none => exact ih
    | some text => exact ih.get_cache text

/-! ### Counting compilations -/

theorem recompilations_le (slot : Slot) (recent base : History Name) :
    fleet.recompilations slot base ≤ fleet.recompilations slot (recent ++ base) := by
  induction recent with
  | nil => exact Nat.le_refl _
  | cons step recent ih => exact Nat.le_trans ih (Nat.le_add_right _ _)

/-- No cache is filled by some steps just where none of them fills it. -/
theorem recompilations_eq_iff (slot : Slot) (recent base : History Name) :
    fleet.recompilations slot (recent ++ base) = fleet.recompilations slot base
      ↔ ∀ later step before, recent = later ++ step :: before →
          fleet.recompiles slot (before ++ base) step = false := by
  induction recent with
  | nil =>
    refine iff_of_true rfl fun later step before split => ?_
    cases later <;> cases split
  | cons newest recent ih =>
    have monotone := fleet.recompilations_le slot recent base
    rw [List.cons_append, recompilations]
    constructor
    · intro equal later step before split
      have here : fleet.recompiles slot (recent ++ base) newest = false := by
        cases renewed : fleet.recompiles slot (recent ++ base) newest with
        | false => rfl
        | true => rw [renewed, Bool.toNat_true] at equal; omega
      rw [here, Bool.toNat_false, Nat.add_zero] at equal
      cases later with
      | nil =>
        obtain ⟨rfl, rfl⟩ := List.cons.inj split
        exact here
      | cons _ later => exact ih.mp equal later step before (List.cons.inj split).2
    · intro quiet
      rw [quiet [] newest recent rfl, Bool.toNat_false, Nat.add_zero]
      exact ih.mpr fun later step before split =>
        quiet (newest :: later) step before (congrArg (newest :: ·) split)

/-! ### What a step shows -/

/-- **A reply is that of a new engine** with the settings in force. -/
theorem serve_unstamped (history : History Name) (step : Step Name) :
    (fleet.serve (fleet.state history) step).reply.unstamped
      = ((Engine.new (fleet.settingsAfter step.engine history)).serve
          step.request).reply.unstamped := by
  have tracks := fleet.state_tracks (fleet.cacheOf step.engine) history
  -- Both caches give what compiling the text gives, so the replies agree.
  rw [serve, state_settings, Engine.new]
  refine Engine.serve_reply_congr _ ?_ step.request
  rw [tracks.get_held, Cache.empty_tracks.get_held]

/-- A text that cannot be compiled leaves all caches as they were. -/
theorem state_caches_of_not_compiles {history : History Name} {step : Step Name}
    (failing : Document.compiles (fleet.patternsOf history step) = false) :
    (fleet.state (step :: history)).caches = (fleet.state history).caches := by
  funext slot
  rw [next_caches]
  cases asks : fleet.asked slot history step with
  | none => rfl
  | some text =>
    rw [fleet.eq_patternsOf_of_asked asks]
    exact (fleet.state_tracks slot history).get_cache_of_not_compiles failing

/-- A compilation is recorded just where the text is not the one compiled last. -/
theorem serve_log (history : History Name) (step : Step Name) :
    ((fleet.serve (fleet.state history) step).log.filter fun entry => entry.origin = .engine)
      = if step.request.settings?.isSome
            ∨ fleet.lastCompiled (fleet.cacheOf step.engine) history
              = some (fleet.patternsOf history step)
          then [] else [Cache.record (fleet.patternsOf history step)] := by
  cases given : step.request.settings? with
  | some settings =>
    rw [serve, (Engine.serve_of_settings _ given).2, if_pos (.inl rfl)]
    rfl
  | none =>
    rw [(fleet.serve_of_none given history).2, (fleet.state_tracks _ history).get_log]
    simp only [Option.isSome_none, Bool.false_eq_true, false_or]

/-- A step that recompiles is one that asks. -/
theorem settings?_of_recompiles {slot : Slot} {history : History Name} {step : Step Name}
    (renewed : fleet.recompiles slot history step = true) : step.request.settings? = none := by
  cases given : step.request.settings? with
  | none => rfl
  | some settings =>
    rw [recompiles, asked_of_settings fleet given] at renewed
    cases renewed

/-- **A recompilation makes a new pattern**: its number was never held before. -/
theorem held_of_recompiles {history : History Name} {step : Step Name}
    (renewed : fleet.recompiles (fleet.cacheOf step.engine) history step = true) :
    ∃ outline stamp, Document.compile (fleet.patternsOf history step) = .ok outline
      ∧ ((fleet.state (step :: history)).caches (fleet.cacheOf step.engine)).held
        = some ⟨fleet.patternsOf history step, outline.root, stamp⟩
      ∧ ∀ recent earlier held, history = recent ++ earlier →
          ((fleet.state earlier).caches (fleet.cacheOf step.engine)).held = some held →
          held.stamp ≠ stamp := by
  have asks := fleet.asked_of_none (fleet.settings?_of_recompiles renewed) history
  rw [recompiles, asks] at renewed
  obtain ⟨outline, compiled, -, inside⟩ :=
    (fleet.state_tracks (fleet.cacheOf step.engine) history).get_held_of_renews renewed
  refine ⟨outline, fleet.recompilations (fleet.cacheOf step.engine) history, compiled, ?_,
    fun recent earlier held split found => ?_⟩
  · rw [next_caches, asks]
    exact inside
  · have stamp := (fleet.state_tracks _ earlier).stamp held found
    have monotone := fleet.recompilations_le (fleet.cacheOf step.engine) recent earlier
    rw [← split] at monotone
    omega

/-- The pattern that an engine is given is held afterwards by the cache that it uses. -/
theorem held_of_root {history : History Name} {step : Step Name} {held : Held}
    (asks : step.request = .root)
    (reply : (fleet.serve (fleet.state history) step).reply = .pattern (.pure held)) :
    ((fleet.state (step :: history)).caches (fleet.cacheOf step.engine)).held = some held := by
  obtain ⟨name, request⟩ := step
  have root : request = .root := asks
  subst root
  rw [state, next_caches_self]
  refine (fleet.state_tracks (fleet.cacheOf name) history).get_cache_held ?_
  have inspection : ((Engine.mk ((fleet.state history).settings name)
      ((fleet.state history).caches (fleet.cacheOf name))).root).inspection = .pure held :=
    Reply.pattern.inj reply
  simp only [Engine.root] at inspection
  split at inspection
  · next found equal =>
    cases inspection
    exact equal
  · cases inspection

/-- Two reads of the same cache give the pattern of one compilation just where nothing is compiled
in it from the first on. -/
theorem stamp_eq_iff {recent earlier : History Name} {first second : Step Name} {held again : Held}
    (before : ((fleet.state (first :: earlier)).caches (fleet.cacheOf second.engine)).held
      = some held)
    (after : ((fleet.state (second :: (recent ++ first :: earlier))).caches
      (fleet.cacheOf second.engine)).held = some again) :
    held.stamp = again.stamp
      ↔ ∀ later step past, second :: recent = later ++ step :: past →
          fleet.recompiles (fleet.cacheOf second.engine) (past ++ first :: earlier) step
            = false := by
  have early := (fleet.state_tracks _ (first :: earlier)).stamp held before
  have late := (fleet.state_tracks _ (second :: (recent ++ first :: earlier))).stamp again after
  rw [← recompilations_eq_iff, List.cons_append, ← early, ← late]
  omega

/-- **The cache is invisible.** Whatever engines were asked before, in whatever order and with
whatever caches in common:

* the reply to a step is that of a new engine with the settings in force;
* every cache holds nothing, or a text together with the pattern compiled from it;
* a text that cannot be compiled leaves all caches as they were;
* a compilation is recorded just where the text asked for is not the one compiled last;
* a text compiled with success gives a pattern that was not held before;
* two reads of one cache give the same pattern just where nothing was compiled with success between
  them. -/
theorem cache_unnoticed (history : History Name) (step : Step Name) :
    (fleet.serve (fleet.state history) step).reply.unstamped
        = ((Engine.new (fleet.settingsAfter step.engine history)).serve
            step.request).reply.unstamped
      ∧ (∀ slot held, ((fleet.state (step :: history)).caches slot).held = some held →
          ∃ outline, Document.compile held.source = .ok outline ∧ held.root = outline.root)
      ∧ (Document.compiles (fleet.patternsOf history step) = false →
          (fleet.state (step :: history)).caches = (fleet.state history).caches)
      ∧ ((fleet.serve (fleet.state history) step).log.filter fun entry => entry.origin = .engine)
        = (if step.request.settings?.isSome
              ∨ fleet.lastCompiled (fleet.cacheOf step.engine) history
                = some (fleet.patternsOf history step)
            then [] else [Cache.record (fleet.patternsOf history step)])
      ∧ (fleet.recompiles (fleet.cacheOf step.engine) history step = true →
          ∃ outline stamp, Document.compile (fleet.patternsOf history step) = .ok outline
            ∧ ((fleet.state (step :: history)).caches (fleet.cacheOf step.engine)).held
              = some ⟨fleet.patternsOf history step, outline.root, stamp⟩
            ∧ ∀ recent earlier held, history = recent ++ earlier →
                ((fleet.state earlier).caches (fleet.cacheOf step.engine)).held = some held →
                held.stamp ≠ stamp)
      ∧ ∀ recent first earlier held again, history = recent ++ first :: earlier →
          fleet.cacheOf first.engine = fleet.cacheOf step.engine →
          first.request = .root → step.request = .root →
          (fleet.serve (fleet.state earlier) first).reply = .pattern (.pure held) →
          (fleet.serve (fleet.state history) step).reply = .pattern (.pure again) →
          (held.stamp = again.stamp
            ↔ ∀ later one past, step :: recent = later ++ one :: past →
                fleet.recompiles (fleet.cacheOf step.engine) (past ++ first :: earlier) one
                  = false) := by
  refine ⟨fleet.serve_unstamped history step, fun slot => ?_, fleet.state_caches_of_not_compiles,
    fleet.serve_log history step, fleet.held_of_recompiles, ?_⟩
  · exact (fleet.state_tracks slot (step :: history)).compiled
  · intro recent first earlier held again split shared firstRoot stepRoot firstReply stepReply
    subst split
    have before := fleet.held_of_root firstRoot firstReply
    rw [shared] at before
    exact fleet.stamp_eq_iff before (fleet.held_of_root stepRoot stepReply)

end Fleet

end FeedFilter
