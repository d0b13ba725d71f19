/-
**Verdicts and decisions.**

A pattern has a verdict on an entry; the whole filter takes a decision. Both name a reason, except
where there is nothing to give a reason for.

* `Verdict.negate`: what a rule that keeps posts makes of a verdict.
* `Verdict.negate_negate`: it does nothing when done twice.
-/

import FeedFilter.Text.Basic

namespace FeedFilter

/-- What a pattern says of an entry. -/
inductive Verdict where
  | hit (reason : Option String)
  | keep (reason : Option String)
  | undecided
deriving DecidableEq, Repr

namespace Verdict

/-- Whether a verdict says anything. -/
def isDecisive : Verdict → Bool
  | undecided => false
  | _ => true

/-- The reason of a verdict. -/
def reason : Verdict → Option String
  | hit reason => reason
  | keep reason => reason
  | undecided => none

/-- The opposite of a verdict for the same reason. -/
def negate : Verdict → Verdict
  | hit reason => keep reason
  | keep reason => hit reason
  | undecided => undecided

theorem negate_negate (verdict : Verdict) : verdict.negate.negate = verdict := by
  cases verdict <;> rfl

theorem isDecisive_negate (verdict : Verdict) : verdict.negate.isDecisive = verdict.isDecisive := by
  cases verdict <;> rfl

end Verdict

/-- What becomes of an entry. -/
inductive Decision where
  | hide (reason : Option String)
  | keep (reason : Option String)
  | nothing
deriving DecidableEq, Repr

namespace Decision

/-- Whether an entry is hidden. -/
def isHidden : Decision → Bool
  | hide _ => true
  | _ => false

/-- Whether an entry is kept on purpose. -/
def isShown : Decision → Bool
  | keep _ => true
  | _ => false

/-- The reason of a decision. -/
def reason : Decision → Option String
  | hide reason => reason
  | keep reason => reason
  | nothing => none

/-- A decision as the tester of patterns words it. -/
def describe : Decision → String
  | hide reason => "Hidden: " ++ reason.getD "None"
  | keep reason => "Allowed: " ++ reason.getD "None"
  | nothing => "No decision (entry left untouched)"

end Decision

end FeedFilter
