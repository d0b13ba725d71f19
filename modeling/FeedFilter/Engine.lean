/-
**The engine: settings and patterns make decisions.**

The pattern of a document is compiled when it is first needed and kept until another text is asked
for. Flags of the settings count only where the patterns have no opinion.

* `Cache.get`: the pattern of a text, compiled anew unless it is the one kept.
* `decideWith`: the decision of a pattern and the flags of settings.
* `Engine.decide`: the decision of an engine.
-/

import FeedFilter.Document
import FeedFilter.Settings

namespace FeedFilter

/-- A compiled pattern, the text it was compiled from, and the number of its compilation, which
tells equal patterns of different compilations apart. -/
structure Held where
  source : Text
  root : Pattern
  stamp : Nat

/-- The pattern compiled last, and the number of compilations so far. -/
structure Cache where
  held : Option Held
  compilations : Nat

namespace Cache

/-- Nothing compiled yet. -/
def empty : Cache := ⟨none, 0⟩

/-- The pattern kept for a text. -/
def find? (cache : Cache) (source : Text) : Option Held :=
  cache.held.filter fun held => held.source = source

/-- The record about a compilation. -/
def record (source : Text) : LogRecord :=
  ⟨.engine, .debug, "Compiling filter patterns (" ++ toString source.length ++ " chars)"⟩

/-- What asking a cache gives: the cache afterwards, the records, and the pattern. -/
structure Answer where
  cache : Cache
  log : List LogRecord
  held : Except Regex.Breakdown Held

/-- The pattern of a text. A text that cannot be compiled leaves the cache as it was. -/
def get (cache : Cache) (source : Text) : Answer :=
  match cache.find? source with
  | some held => ⟨cache, [], .ok held⟩
  | none =>
    match Document.compile source with
    | .ok outline =>
      let held : Held := ⟨source, outline.root, cache.compilations⟩
      ⟨⟨some held, cache.compilations + 1⟩,
        record source :: outline.ignored.map Ignored.record, .ok held⟩
    | .error breakdown =>
      let ignored := Document.ignoredOf (Document.directiveLines source)
      ⟨cache, record source :: ignored.map Ignored.record, .error breakdown⟩

end Cache

/-- The reason for hiding a post with content credentials. -/
def credentialsReason : String := "Post contains content credentials"

/-- The reason for hiding a suggested post. -/
def suggestedReason : String := "Post is suggested"

/-- Whether an entry has a flag, which is only read where the settings ask for it. -/
def flagged (wanted : Bool) (capability : Capability) (answer : Bool) : Inspection Bool :=
  if wanted then .read capability (.ok answer) else .pure false

/-- The decision of the flags alone: credentials first, then suggestions. -/
def decideByFlags (settings : Settings) (entry : Entry) : Inspection Decision := do
  if ← flagged settings.hideContentCredentials .credentials entry.credentials then
    return .hide (some credentialsReason)
  else if ← flagged settings.hideSuggested .suggested entry.suggested then
    return .hide (some suggestedReason)
  else return .nothing

/-- The decision of a pattern, and of the flags where the pattern has no opinion. -/
def decideWith (root : Pattern) (settings : Settings) (entry : Entry) : Inspection Decision := do
  match ← root.evaluate entry with
  | .hit reason => return .hide reason
  | .keep reason => return .keep reason
  | .undecided => decideByFlags settings entry

/-- An engine: the settings in force and the cache that it uses. -/
structure Engine where
  settings : Settings
  cache : Cache

namespace Engine

/-- An engine that has compiled nothing. -/
def new (settings : Settings) : Engine := ⟨settings, .empty⟩

/-- What asking an engine gives: the engine afterwards, the records, and the answer. -/
structure Answer (Result : Type) where
  engine : Engine
  log : List LogRecord
  inspection : Inspection Result

/-- Changes the settings; the patterns are compiled when they are next needed. -/
def update (engine : Engine) (settings : Settings) : Engine := { engine with settings }

/-- The pattern of the settings in force. -/
def root (engine : Engine) : Answer Held :=
  let answer := engine.cache.get engine.settings.filterPatterns
  ⟨{ engine with cache := answer.cache }, answer.log,
    match answer.held with
    | .ok held => .pure held
    | .error breakdown => .fail (.breakdown breakdown)⟩

/-- The decision on an entry. -/
def decide (engine : Engine) (entry : Entry) : Answer Decision :=
  let answer := engine.root
  ⟨answer.engine, answer.log,
    answer.inspection.bind fun held => decideWith held.root engine.settings entry⟩

/-- Whether an entry is hidden. -/
def shouldHide (engine : Engine) (entry : Entry) : Answer Bool :=
  let answer := engine.decide entry
  ⟨answer.engine, answer.log, answer.inspection.bind fun decision => .pure decision.isHidden⟩

end Engine

end FeedFilter
