/-
**Entries of a feed, as a filter sees them.**

A decision reads an entry through four capabilities and keeps account of what it has read.

* `Entry`: what each capability answers. Text and reactor cannot be read of an entry that is gone.
* `Inspection`: a result together with the capabilities read on the way to it.
-/

import FeedFilter.Regex.Error

namespace FeedFilter

/-- What can be asked of an entry. -/
inductive Capability where
  | text
  | reactor
  | suggested
  | credentials
deriving DecidableEq, Repr

/-- Why an entry cannot be judged. -/
inductive Fault where
  | gone
  | unknownPattern (label : Text)
  | breakdown (breakdown : Regex.Breakdown)
deriving DecidableEq, Repr

/-- The answers of an entry. -/
structure Entry where
  text : Except Fault Text
  reactor : Except Fault (Option Text)
  suggested : Bool
  credentials : Bool

/-- An entry made of plain values. -/
def Entry.ofValues (text : Text) (reactor : Option Text) (suggested credentials : Bool) : Entry :=
  ⟨.ok text, .ok reactor, suggested, credentials⟩

/-- A result, or what prevents it, with the capabilities read on the way, the first one first. -/
structure Inspection (Result : Type) where
  reads : List Capability
  result : Except Fault Result

namespace Inspection

variable {First Second : Type}

/-- A result that needs no reading. -/
def pure (result : First) : Inspection First := ⟨[], .ok result⟩

/-- What prevents a result. -/
def fail (fault : Fault) : Inspection First := ⟨[], .error fault⟩

/-- Goes on with a result. -/
def bind (first : Inspection First) (next : First → Inspection Second) : Inspection Second :=
  match first.result with
  | .ok result => ⟨first.reads ++ (next result).reads, (next result).result⟩
  | .error fault => ⟨first.reads, .error fault⟩

instance : Monad Inspection where
  pure := Inspection.pure
  bind := Inspection.bind

/-- Reads one capability. -/
def read (capability : Capability) (answer : Except Fault First) : Inspection First :=
  ⟨[capability], answer⟩

/-- How often a capability has been read. -/
def count (inspection : Inspection First) (capability : Capability) : Nat :=
  inspection.reads.count capability

end Inspection

end FeedFilter
