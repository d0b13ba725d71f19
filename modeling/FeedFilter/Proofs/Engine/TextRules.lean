/-
**Engines with rules on the text alone.**

Where no rule keeps a post or looks at who reacted, and no flag is set, an engine hides a post for
the first rule that finds something in its text. It reads nothing but the text.

* `scan_result`: the first such rule has the say.
* `decide_textRules`: the decision of an engine.
* `reads_textRules`: what the engine reads.
-/

import FeedFilter.Engine
import FeedFilter.Proofs.Document.Flattening
import FeedFilter.Proofs.Engine.Cache

namespace FeedFilter

/-- A directive that hides posts for their text. -/
def Directive.onText (matcher : Matcher) : Directive := ⟨false, false, matcher⟩

/-- The rules of some matchers on the text of an entry, from the left. -/
def Matcher.scan (entry : Entry) (matchers : List Matcher) : Inspection Verdict :=
  .firstDecisive (matchers.map fun matcher => (Directive.onText matcher).pattern.evaluate entry)

namespace Matcher

/-- Whether a matcher finds something in a text with straight quotes. -/
def finds (text : Text) (matcher : Matcher) : Bool := matcher.regex.isFoundIn (foldQuotes text)

theorem evaluate_onText {entry : Entry} {text : Text} (present : entry.text = .ok text)
    (matcher : Matcher) :
    (Directive.onText matcher).pattern.evaluate entry
      = ⟨[.text], .ok (if matcher.finds text then .hit (some (Pattern.reason .text matcher))
          else .undecided)⟩ := by
  show Pattern.evaluate entry (.rule .text matcher) = _
  rw [Pattern.evaluate, Pattern.look, Inspection.read, present]
  rfl

theorem reads_onText (entry : Entry) (matcher : Matcher) :
    ((Directive.onText matcher).pattern.evaluate entry).reads = [.text] := by
  show (Pattern.evaluate entry (.rule .text matcher)).reads = _
  rw [Pattern.evaluate, Pattern.look, Inspection.read]
  cases entry.text with
  | ok text => rfl
  | error fault => rfl

/-- **The first rule that finds something has the say.** -/
theorem scan_result {entry : Entry} {text : Text} (present : entry.text = .ok text)
    (matchers : List Matcher) :
    (scan entry matchers).result
      = .ok (match matchers.find? (finds text) with
          | some matcher => .hit (some (Pattern.reason .text matcher))
          | none => .undecided) := by
  induction matchers with
  | nil => rfl
  | cons matcher rest ih =>
    unfold scan at ih ⊢
    rw [List.map_cons, Inspection.firstDecisive, evaluate_onText present, Inspection.bind_ok,
      List.find?_cons]
    cases matcher.finds text with
    | true => rfl
    | false => exact ih

/-- Rules on the text read nothing else. -/
theorem mem_scan_reads {entry : Entry} {matchers : List Matcher} {capability : Capability}
    (read : capability ∈ (scan entry matchers).reads) : capability = .text := by
  obtain ⟨inspection, member, inside⟩ := Inspection.exists_of_mem_reads read
  obtain ⟨matcher, -, rfl⟩ := List.mem_map.mp member
  rw [reads_onText] at inside
  exact List.mem_singleton.mp inside

end Matcher

/-- A new engine decides by the pattern of its text. -/
theorem Engine.decide_new {settings : Settings} {outline : Outline}
    (compiled : Document.compile settings.filterPatterns = .ok outline) (entry : Entry) :
    ((Engine.new settings).decide entry).inspection = decideWith outline.root settings entry := by
  have other : Cache.empty.held.map Held.source ≠ some settings.filterPatterns :=
    fun equal => nomatch equal
  simp only [decide, root, new, Cache.get_of_compiled other compiled]
  rfl

/-- Settings that ask for no flag of an entry. -/
structure Settings.IsFlagless (settings : Settings) : Prop where
  suggested : settings.hideSuggested = false
  credentials : settings.hideContentCredentials = false

theorem decideByFlags_of_isFlagless {settings : Settings} (flagless : settings.IsFlagless)
    (entry : Entry) : decideByFlags settings entry = .pure .nothing := by
  rw [decideByFlags, flagless.suggested, flagless.credentials]
  rfl

namespace Engine

variable {settings : Settings} {matchers : List Matcher}

/-- An engine without flags whose directives are rules on the text scans them. -/
theorem decide_eq_scan (flagless : settings.IsFlagless)
    (settled : Document.IsSettled settings.filterPatterns)
    (rules : Document.directives settings.filterPatterns = matchers.map Directive.onText)
    (entry : Entry) :
    ((Engine.new settings).decide entry).inspection
      = (Matcher.scan entry matchers).bind fun verdict => match verdict with
          | .hit reason => .pure (.hide reason)
          | .keep reason => .pure (.keep reason)
          | .undecided => .pure .nothing := by
  obtain ⟨outline, compiled, describes⟩ := Document.compile_describes settled
  have scan : outline.root.evaluate entry = Matcher.scan entry matchers := by
    have all := describes.evaluate_root entry
    rw [← Document.directives, rules, List.map_map] at all
    exact all
  rw [decide_new compiled, decideWith, scan, decideByFlags_of_isFlagless flagless]
  rfl

/-- **An engine with rules on the text alone** hides a post for the first rule that finds something
in its text. -/
theorem decide_textRules (flagless : settings.IsFlagless)
    (settled : Document.IsSettled settings.filterPatterns)
    (rules : Document.directives settings.filterPatterns = matchers.map Directive.onText)
    {entry : Entry} {text : Text} (present : entry.text = .ok text) :
    ((Engine.new settings).decide entry).inspection.result
      = .ok (match matchers.find? (Matcher.finds text) with
          | some matcher => .hide (some (Pattern.reason .text matcher))
          | none => .nothing) := by
  have scanned := Matcher.scan_result present matchers
  rw [decide_eq_scan flagless settled rules, Inspection.bind, scanned]
  cases matchers.find? (Matcher.finds text) with
  | none => rfl
  | some matcher => rfl

/-- Such an engine reads nothing but the text. -/
theorem reads_textRules (flagless : settings.IsFlagless)
    (settled : Document.IsSettled settings.filterPatterns)
    (rules : Document.directives settings.filterPatterns = matchers.map Directive.onText)
    {entry : Entry} {capability : Capability}
    (read : capability ∈ ((Engine.new settings).decide entry).inspection.reads) :
    capability = .text := by
  rw [decide_eq_scan flagless settled rules, Inspection.bind] at read
  split at read
  · next verdict _ =>
    rw [List.mem_append] at read
    rcases read with here | later
    · exact Matcher.mem_scan_reads here
    · cases verdict <;> cases later
  · exact Matcher.mem_scan_reads read

end Engine

end FeedFilter
