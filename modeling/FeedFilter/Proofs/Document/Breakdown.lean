/-
**What stops a document.**

A line is a directive, or it is refused and left out, or the reading of its expression breaks down.
A line of the last kind stops everything that reads the document: the compilation, whatever the
nesting, and the list of errors both end with the first such breakdown.

* `Directive.breakdown?`: what a line breaks down at.
* `ofForest_breakdown`: a forest stops at its first breakdown in document order.
* `compile_eq_error_iff`, `errors_eq_error_iff`, `invalidLines_eq_error_iff`: what stops a document.
* `Engine.decide_new_eq`: an engine decides by the directives and the first breakdown alone.
-/

import FeedFilter.Engine
import FeedFilter.Proofs.Document.Flattening
import FeedFilter.Proofs.Engine.TextRules

namespace FeedFilter

namespace Directive

/-- What the reading of a line breaks down at, if it does. -/
def breakdown? (line : Text) : Option Regex.Breakdown :=
  match compile line with
  | .error (.breakdown breakdown) => some breakdown
  | _ => none

theorem breakdown?_eq_some_iff {line : Text} {breakdown : Regex.Breakdown} :
    breakdown? line = some breakdown ↔ compile line = .error (.breakdown breakdown) := by
  unfold breakdown?
  split
  · next found outcome => simp [outcome]
  · next other =>
    refine iff_of_false (fun found => nomatch found) fun outcome => other breakdown outcome

theorem breakdown?_eq_none_iff {line : Text} : breakdown? line = none ↔ IsSettled line := by
  unfold breakdown? IsSettled
  cases compile line with
  | ok directive => simp
  | error failure => cases failure <;> simp

/-- The first breakdown among some lines. -/
def firstBreakdown? (lines : List Text) : Option Regex.Breakdown := lines.findSome? breakdown?

theorem firstBreakdown?_eq_none_iff {lines : List Text} :
    firstBreakdown? lines = none ↔ ∀ line ∈ lines, IsSettled line := by
  simp only [firstBreakdown?, List.findSome?_eq_none_iff, breakdown?_eq_none_iff]

theorem firstBreakdown?_cons (line : Text) (rest : List Text) :
    firstBreakdown? (line :: rest) = (breakdown? line).or (firstBreakdown? rest) := by
  rw [firstBreakdown?, List.findSome?_cons]
  cases breakdown? line <;> rfl

theorem firstBreakdown?_append (first second : List Text) :
    firstBreakdown? (first ++ second) = (firstBreakdown? first).or (firstBreakdown? second) :=
  List.findSome?_append

end Directive

/-! ### A forest stops at its first breakdown -/

namespace Outline

variable {breakdown : Regex.Breakdown}

theorem ofLine_breakdown {line : Text} (found : Directive.breakdown? line = some breakdown) :
    ofLine line = .error breakdown := by
  rw [ofLine, Directive.breakdown?_eq_some_iff.mp found]

mutual

theorem ofBlock_breakdown : ∀ block : Block,
    Directive.firstBreakdown? block.preorder = some breakdown → ofBlock block = .error breakdown
  | .node line [], found => by
    rw [Block.preorder, Block.preorderAll, Directive.firstBreakdown?_cons] at found
    have here : Directive.breakdown? line = some breakdown := by
      simpa [Directive.firstBreakdown?] using found
    rw [ofBlock, ofLine_breakdown here]
  | .node line (child :: rest), found => by
    rw [Block.preorder, Directive.firstBreakdown?_cons] at found
    cases own : Directive.breakdown? line with
    | some earlier =>
      rw [own, Option.some_or] at found
      cases found
      rw [ofBlock, ofLine_breakdown own]
      rfl
    | none =>
      rw [own, Option.none_or] at found
      obtain ⟨outline, compiled, -⟩ := ofLine_describes (Directive.breakdown?_eq_none_iff.mp own)
      rw [ofBlock, compiled, ofForest_breakdown (child :: rest) found]
      rfl

/-- **A forest stops at its first breakdown** in document order, whatever the nesting. -/
theorem ofForest_breakdown : ∀ blocks : List Block,
    Directive.firstBreakdown? (Block.preorderAll blocks) = some breakdown →
      ofForest blocks = .error breakdown
  | [], found => by
    rw [Block.preorderAll] at found
    cases found
  | block :: rest, found => by
    rw [Block.preorderAll, Directive.firstBreakdown?_append] at found
    cases own : Directive.firstBreakdown? block.preorder with
    | some earlier =>
      rw [own, Option.some_or] at found
      cases found
      rw [ofForest, ofBlock_breakdown block own]
      rfl
    | none =>
      rw [own, Option.none_or] at found
      obtain ⟨outline, compiled, -⟩ :=
        ofBlock_describes block (Directive.firstBreakdown?_eq_none_iff.mp own)
      rw [ofForest, compiled, ofForest_breakdown rest found]
      rfl

end

end Outline

/-! ### What stops a document -/

namespace Document

/-- The first breakdown of a document. -/
def breakdown? (text : Text) : Option Regex.Breakdown :=
  Directive.firstBreakdown? (trimmedLines text)

theorem breakdown?_eq_none_iff {text : Text} : breakdown? text = none ↔ IsSettled text :=
  Directive.firstBreakdown?_eq_none_iff

variable {text : Text} {breakdown : Regex.Breakdown}

theorem compile_of_breakdown (found : breakdown? text = some breakdown) :
    compile text = .error breakdown := by
  rw [compile]
  refine Outline.ofForest_breakdown (blocks text) ?_
  rw [preorderAll_blocks]
  exact found

/-- **What stops the compilation of a document** is its first breakdown. -/
theorem compile_eq_error_iff :
    compile text = .error breakdown ↔ breakdown? text = some breakdown := by
  refine ⟨fun failed => ?_, compile_of_breakdown⟩
  cases found : breakdown? text with
  | some other =>
    rw [compile_of_breakdown found] at failed
    rw [Except.error.inj failed]
  | none =>
    obtain ⟨outline, compiled, -⟩ := compile_describes (breakdown?_eq_none_iff.mp found)
    rw [compiled] at failed
    cases failed

theorem errorsOf_breakdown {lines : List Text}
    (found : Directive.firstBreakdown? (lines.map Text.trim) = some breakdown) :
    errorsOf lines = .error breakdown := by
  induction lines with
  | nil => cases found
  | cons line rest ih =>
    rw [List.map_cons, Directive.firstBreakdown?_cons] at found
    cases own : Directive.breakdown? line.trim with
    | some earlier =>
      rw [own, Option.some_or] at found
      cases found
      rw [errorsOf, Directive.breakdown?_eq_some_iff.mp own]
    | none =>
      rw [own, Option.none_or] at found
      obtain ⟨directive, compiled⟩ | ⟨error, refused⟩ := Directive.breakdown?_eq_none_iff.mp own
      · rw [errorsOf, compiled]
        exact ih found
      · rw [errorsOf, refused, ih found]
        rfl

theorem errors_of_breakdown (found : breakdown? text = some breakdown) :
    errors text = .error breakdown := by
  rw [breakdown?, trimmedLines_eq] at found
  exact errorsOf_breakdown found

/-- **What stops the list of errors** is the first breakdown as well. -/
theorem errors_eq_error_iff :
    errors text = .error breakdown ↔ breakdown? text = some breakdown := by
  refine ⟨fun failed => ?_, errors_of_breakdown⟩
  cases found : breakdown? text with
  | some other =>
    rw [errors_of_breakdown found] at failed
    rw [Except.error.inj failed]
  | none =>
    rw [errors_eq (breakdown?_eq_none_iff.mp found)] at failed
    cases failed

end Document

/-! ### What an engine decides by -/

theorem Pattern.leavesAll_directives (directives : List Directive) :
    leavesAll (directives.map Directive.pattern) = directives.map Directive.pattern := by
  induction directives with
  | nil => rw [List.map_nil, leavesAll]
  | cons directive rest ih => rw [List.map_cons, leavesAll, leaves_directive, ih]; rfl

/-- The outline without nesting describes lines as well as any other does. -/
theorem Outline.flat_describes (lines : List Text) :
    Describes ⟨(Directive.ofLines lines).map Directive.pattern, lines.filterMap Ignored.ofLine?⟩
      lines :=
  ⟨Pattern.leavesAll_directives _, rfl⟩

namespace Engine

/-- An engine whose document is stopped cannot decide, and it reads nothing. -/
theorem decide_new_of_breakdown {settings : Settings} {breakdown : Regex.Breakdown}
    (failed : Document.compile settings.filterPatterns = .error breakdown) (entry : Entry) :
    ((Engine.new settings).decide entry).inspection = .fail (.breakdown breakdown) := by
  have other : Cache.empty.held.map Held.source ≠ some settings.filterPatterns :=
    fun equal => nomatch equal
  simp only [decide, root, new, Cache.get_of_breakdown other failed]
  rfl

/-- **An engine decides by the first breakdown of its document and by the directives alone.** -/
theorem decide_new_eq (settings : Settings) (entry : Entry) :
    ((Engine.new settings).decide entry).inspection
      = match Document.breakdown? settings.filterPatterns with
        | some breakdown => .fail (.breakdown breakdown)
        | none => decideWith (.block ((Document.directives settings.filterPatterns).map
            Directive.pattern)) settings entry := by
  cases found : Document.breakdown? settings.filterPatterns with
  | some breakdown => exact decide_new_of_breakdown (Document.compile_of_breakdown found) entry
  | none =>
    have settled := Document.breakdown?_eq_none_iff.mp found
    obtain ⟨outline, compiled, describes⟩ := Document.compile_describes settled
    have same := describes.evaluate_root entry
    rw [← (Outline.flat_describes _).evaluate_root entry] at same
    rw [decide_new compiled, decideWith, same]
    rfl

end Engine

end FeedFilter
