/-
**Passes: what a filter does to a feed.**

* `Feed`: a feed whose entries can be looked at, hidden and marked.
* `Processor.run`: one pass over entries. Hidden entries are removed, or marked where the user wants
  to see them; a marked entry is not marked again.
* `shouldFilterUrl`: the pages that are left alone.
-/

import FeedFilter.Engine

namespace FeedFilter

/-- Whether a page may be filtered: it may unless its address contains one of some fragments. -/
def shouldFilterUrl (url : Option Text) (fragments : List Text) : Bool :=
  match url with
  | none => true
  | some url => url.isEmpty || !fragments.any url.containsText

/-- The fragments of addresses of single posts. -/
def defaultSkipFragments : List Text := ["/feed/update/".toList]

/-- A feed of a kind: how its entries are seen, and what hiding and marking one does to it. -/
structure Feed (State Index : Type) where
  view : State → Index → Entry
  isMarked : State → Index → Bool
  hide : State → Index → State
  highlight : State → Index → Option String → State × Except Fault Unit

/-- The counts of a pass. -/
structure Summary where
  hidden : Nat := 0
  highlighted : Nat := 0
  shown : Nat := 0
  untouched : Nat := 0
deriving DecidableEq, Repr

/-- How many entries something was done to. -/
def Summary.actedOn (summary : Summary) : Nat := summary.hidden + summary.highlighted

/-- Applies the decisions of an engine. Whether it marks or removes is settled at the start. -/
structure Processor where
  engine : Engine
  highlightMode : Bool

namespace Processor

variable {State Index : Type}

/-- A processor for an engine; without a choice the settings of the engine decide how it acts. -/
def new (engine : Engine) (highlightMode : Option Bool) : Processor :=
  ⟨engine, highlightMode.getD engine.settings.highlightMode⟩

/-- The middle of a pass. -/
structure Progress (State : Type) where
  engine : Engine
  state : State
  log : List LogRecord
  summary : Summary

/-- The record about an entry that something was done to. -/
def filteredRecord (reason : Option String) : LogRecord :=
  ⟨.processor, .debug, "Filtered entry: " ++ reason.getD "None"⟩

/-- The record at the end of a pass in which something was done. -/
def totalRecord (highlightMode : Bool) (summary : Summary) : LogRecord :=
  ⟨.processor, .info, (if highlightMode then "Highlighted " else "Removed ")
    ++ toString summary.actedOn ++ " element(s)"⟩

/-- Acts on an entry that is to be hidden. -/
def act (feed : Feed State Index) (highlightMode : Bool) (index : Index) (reason : Option String)
    (progress : Progress State) : Progress State × Except Fault Unit :=
  let record := filteredRecord reason
  if highlightMode then
    if feed.isMarked progress.state index then (progress, .ok ())
    else
      match feed.highlight progress.state index reason with
      | (state, .ok ()) =>
        ({ progress with
            state, log := progress.log ++ [record]
            summary := { progress.summary with
              highlighted := progress.summary.highlighted + 1 } }, .ok ())
      | (state, .error fault) => ({ progress with state }, .error fault)
  else
    ({ progress with
        state := feed.hide progress.state index, log := progress.log ++ [record]
        summary := { progress.summary with hidden := progress.summary.hidden + 1 } }, .ok ())

/-- Visits one entry. -/
def visit (feed : Feed State Index) (highlightMode : Bool) (progress : Progress State)
    (index : Index) : Progress State × Except Fault Unit :=
  let answer := progress.engine.decide (feed.view progress.state index)
  let progress := { progress with engine := answer.engine, log := progress.log ++ answer.log }
  match answer.inspection.result with
  | .error fault => (progress, .error fault)
  | .ok (.keep _) =>
    ({ progress with
        summary := { progress.summary with shown := progress.summary.shown + 1 } }, .ok ())
  | .ok .nothing =>
    ({ progress with
        summary := { progress.summary with untouched := progress.summary.untouched + 1 } }, .ok ())
  | .ok (.hide reason) => act feed highlightMode index reason progress

/-- Visits entries one after the other, up to the first that cannot be judged. -/
def visitAll (feed : Feed State Index) (highlightMode : Bool) :
    List Index → Progress State → Progress State × Except Fault Unit
  | [], progress => (progress, .ok ())
  | index :: rest, progress =>
    match visit feed highlightMode progress index with
    | (next, .ok ()) => visitAll feed highlightMode rest next
    | (next, .error fault) => (next, .error fault)

/-- What a pass gives: the processor and the feed afterwards, the records, and the counts. -/
structure Outcome (State : Type) where
  processor : Processor
  state : State
  log : List LogRecord
  summary : Except Fault Summary

/-- One pass over entries. -/
def run (processor : Processor) (feed : Feed State Index) (indices : List Index) (state : State) :
    Outcome State :=
  let (progress, result) :=
    visitAll feed processor.highlightMode indices ⟨processor.engine, state, [], {}⟩
  let after := { processor with engine := progress.engine }
  match result with
  | .error fault => ⟨after, progress.state, progress.log, .error fault⟩
  | .ok () =>
    let log :=
      if progress.summary.actedOn = 0 then progress.log
      else progress.log ++ [totalRecord processor.highlightMode progress.summary]
    ⟨after, progress.state, log, .ok progress.summary⟩

end Processor

/-- An entry that keeps account of what was done to it. -/
structure TracedEntry where
  entry : Entry
  marked : Bool
  hides : Nat
  highlights : List (Option String)

namespace TracedEntry

/-- An entry that nothing was done to. -/
def new (entry : Entry) (marked : Bool) : TracedEntry := ⟨entry, marked, 0, []⟩

/-- The feed of entries in a list, known by their places in it. -/
def feed : Feed (List TracedEntry) Nat where
  view entries index :=
    match entries[index]? with
    | some traced => traced.entry
    | none => ⟨.error .gone, .error .gone, false, false⟩
  isMarked entries index := (entries[index]?.map TracedEntry.marked).getD false
  hide entries index :=
    entries.modify index fun traced => { traced with hides := traced.hides + 1 }
  highlight entries index reason :=
    (entries.modify index fun traced =>
      { traced with marked := true, highlights := traced.highlights ++ [reason] }, .ok ())

end TracedEntry

end FeedFilter
