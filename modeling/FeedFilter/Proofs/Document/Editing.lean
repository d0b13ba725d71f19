/-
**Edits of the layout change no decision.**

Lines may be indented otherwise, and lines of which nothing is read, or that are refused, may come
and go. Any of this can nest the document anew, but what decides are the directives in order and the
first breakdown, and these stay.

* `Edited`: lines before and after such edits.
* `SameRules`: lines with the same directives in order and the same first breakdown.
* `Edited.trimmed_eq`, `Edited.sameRules`: what stays of the lines, and of their rules.
* `decide_of_edited`: the decisions stay, and the lines that are reported stay as well unless a
  refused one comes or goes.
-/

import FeedFilter.Proofs.Comment.Layout
import FeedFilter.Proofs.Document.Breakdown

namespace FeedFilter.Document

/-! ### What is read of raw lines -/

theorem trimmedOf_cons (line : Text) (rest : List Text) :
    trimmedOf (line :: rest)
      = if (Comment.strip line).trim = [] then trimmedOf rest
        else (Comment.strip line).trim :: trimmedOf rest := by
  rw [trimmedOf, List.map_cons, List.filter_cons]
  by_cases blank : (Comment.strip line).trim = []
  · rw [if_pos blank, if_neg (by simp [blank])]
    rfl
  · rw [if_neg blank, if_pos (by simp [blank])]
    rfl

theorem trimmedOf_cons_of_isIdle {line : Text} (idle : Comment.IsIdle line) (rest : List Text) :
    trimmedOf (line :: rest) = trimmedOf rest := by
  rw [trimmedOf_cons, if_pos idle.trim_strip]

/-- Whether what is read of a raw line is refused as a directive. -/
def IsRefused (line : Text) : Prop :=
  ∃ error, Directive.compile (Comment.strip line).trim = .error (.invalid error)

/-- Whether a line may come and go without a directive that comes or goes. -/
def IsInert (line : Text) : Prop := Comment.IsIdle line ∨ IsRefused line

/-- Lines before and after edits of the layout: any line may be indented otherwise, and removable
lines may come and go. -/
inductive Edited (Removable : Text → Prop) : List Text → List Text → Prop
  | nil : Edited Removable [] []
  | indented {blanks others : Text} {before after : List Text} (blank : blanks.AllBlank)
      (otherBlank : others.AllBlank) (content : Text) (rest : Edited Removable before after) :
      Edited Removable ((blanks ++ content) :: before) ((others ++ content) :: after)
  | inserted {line : Text} {before after : List Text} (removable : Removable line)
      (rest : Edited Removable before after) : Edited Removable before (line :: after)
  | deleted {line : Text} {before after : List Text} (removable : Removable line)
      (rest : Edited Removable before after) : Edited Removable (line :: before) after

namespace Edited

variable {before after : List Text}

/-- Idle lines and indentation leave what is read as it is. -/
theorem trimmed_eq (edited : Edited Comment.IsIdle before after) :
    trimmedOf before = trimmedOf after := by
  induction edited with
  | nil => rfl
  | indented blank otherBlank content _ ih =>
    rw [trimmedOf_cons, trimmedOf_cons, Comment.trim_strip_append blank,
      Comment.trim_strip_append otherBlank, ih]
  | inserted idle _ ih => rw [trimmedOf_cons_of_isIdle idle, ih]
  | deleted idle _ ih => rw [trimmedOf_cons_of_isIdle idle, ih]

end Edited

/-! ### Lines with the same rules -/

/-- Whether two documents, given by their trimmed lines, have the same directives in order and the
same first breakdown. -/
structure SameRules (first second : List Text) : Prop where
  breakdown : Directive.firstBreakdown? first = Directive.firstBreakdown? second
  directives : Directive.ofLines first = Directive.ofLines second

theorem SameRules.symm {first second : List Text} (same : SameRules first second) :
    SameRules second first := ⟨same.breakdown.symm, same.directives.symm⟩

theorem SameRules.trans {first second third : List Text} (same : SameRules first second)
    (more : SameRules second third) : SameRules first third :=
  ⟨same.breakdown.trans more.breakdown, same.directives.trans more.directives⟩

theorem SameRules.cons {first second : List Text} (line : Text) (same : SameRules first second) :
    SameRules (line :: first) (line :: second) where
  breakdown := by
    rw [Directive.firstBreakdown?_cons, Directive.firstBreakdown?_cons, same.breakdown]
  directives := by
    have others := same.directives
    unfold Directive.ofLines at others ⊢
    rw [List.filterMap_cons, List.filterMap_cons, others]

/-- A refused line makes no directive and no breakdown. -/
theorem sameRules_of_refused {line : Text} {error : DirectiveError}
    (refused : Directive.compile line = .error (.invalid error)) (rest : List Text) :
    SameRules (line :: rest) rest where
  breakdown := by
    have settles : Directive.breakdown? line = none :=
      Directive.breakdown?_eq_none_iff.mpr (.inr ⟨error, refused⟩)
    rw [Directive.firstBreakdown?_cons, settles, Option.none_or]
  directives := by
    rw [Directive.ofLines, List.filterMap_cons, refused]
    rfl

/-- An inert line makes no directive and no breakdown. -/
theorem IsInert.sameRules {line : Text} (inert : IsInert line) (rest : List Text) :
    SameRules (trimmedOf (line :: rest)) (trimmedOf rest) := by
  obtain idle | ⟨error, refused⟩ := inert
  · rw [trimmedOf_cons_of_isIdle idle]
    exact ⟨rfl, rfl⟩
  · rw [trimmedOf_cons]
    split
    · exact ⟨rfl, rfl⟩
    · exact sameRules_of_refused refused _

/-- **Edits of the layout leave the rules as they are**, refused lines among the edited ones. -/
theorem Edited.sameRules {before after : List Text} (edited : Edited IsInert before after) :
    SameRules (trimmedOf before) (trimmedOf after) := by
  induction edited with
  | nil => exact ⟨rfl, rfl⟩
  | indented blank otherBlank content _ ih =>
    rw [trimmedOf_cons, trimmedOf_cons, Comment.trim_strip_append blank,
      Comment.trim_strip_append otherBlank]
    split
    · exact ih
    · exact ih.cons _
  | inserted inert _ ih => exact ih.trans (inert.sameRules _).symm
  | deleted inert _ ih => exact (inert.sameRules _).trans ih

/-! ### What is decided and reported -/

/-- An engine decides alike by documents with the same rules. -/
theorem SameRules.decide_eq {first second : Text}
    (same : SameRules (trimmedLines first) (trimmedLines second)) (settings : Settings)
    (entry : Entry) :
    ((Engine.new { settings with filterPatterns := first }).decide entry).inspection
      = ((Engine.new { settings with filterPatterns := second }).decide entry).inspection := by
  have breakdown : breakdown? first = breakdown? second := same.breakdown
  have directives : Document.directives first = Document.directives second := same.directives
  simp only [Engine.decide_new_eq]
  rw [breakdown, directives]
  rfl

/-- The errors of a document depend on its trimmed lines alone. -/
theorem errors_congr {first second : Text} (same : trimmedLines first = trimmedLines second) :
    errors first = errors second := by
  have breakdowns : breakdown? first = breakdown? second := by rw [breakdown?, breakdown?, same]
  cases found : breakdown? first with
  | some breakdown =>
    rw [errors_eq_error_iff.mpr found, errors_eq_error_iff.mpr (breakdowns ▸ found)]
  | none =>
    rw [errors_eq (breakdown?_eq_none_iff.mp found), same,
      errors_eq (breakdown?_eq_none_iff.mp (breakdowns ▸ found))]

/-- **Edits of the layout are inert.** Where lines are indented otherwise, and idle or refused lines
come and go, an engine decides the same for the same reason and with the same reads, or is stopped
by the same breakdown. Where no refused line comes or goes, the errors stay as well. -/
theorem decide_of_edited (first second : Text) :
    (Edited IsInert first.lines second.lines → ∀ (settings : Settings) (entry : Entry),
        ((Engine.new { settings with filterPatterns := first }).decide entry).inspection
          = ((Engine.new { settings with filterPatterns := second }).decide entry).inspection)
      ∧ (Edited Comment.IsIdle first.lines second.lines →
        errors first = errors second ∧ invalidLines first = invalidLines second) := by
  refine ⟨fun edited settings entry => edited.sameRules.decide_eq settings entry, fun edited => ?_⟩
  have trimmed : trimmedLines first = trimmedLines second := by
    rw [trimmedLines, trimmedLines, edited.trimmed_eq]
  have same : errors first = errors second := errors_congr trimmed
  exact ⟨same, by rw [invalidLines, invalidLines, same]⟩

/-- A directive under a line that is refused. -/
def underRefused : Text := ['!', '\n', ' ', 'a', 'd']

/-- The same directive without the refused line, and with another one behind it. -/
def movedOut : Text := ['\t', 'a', 'd', '\n', ' ', '/', 'a', '/', 'i', 'i']

/-- The same lines the other way round in depth, with a comment between them. -/
def movedUp : Text := [' ', '!', '\n', ';', '!', '\r', 'a', 'd']

theorem decide_of_edited_underRefused :
    Edited IsInert underRefused.lines movedOut.lines
      ∧ ((Engine.new { filterPatterns := underRefused, hideSuggested := true }).decide
          (.ofValues ['A', 'd'] none true false)).inspection
        = ((Engine.new { filterPatterns := movedOut, hideSuggested := true }).decide
          (.ofValues ['A', 'd'] none true false)).inspection
      ∧ Edited Comment.IsIdle underRefused.lines movedUp.lines
      ∧ invalidLines underRefused = invalidLines movedUp := by
  have inert : Edited IsInert underRefused.lines movedOut.lines :=
    .deleted (.inr ⟨.empty, rfl⟩)
      (.indented (by decide : Text.AllBlank [' ']) (by decide : Text.AllBlank ['\t']) ['a', 'd']
        (.inserted (.inr ⟨.repeatedFlag ['i', 'i'], rfl⟩) .nil))
  have idle : Edited Comment.IsIdle underRefused.lines movedUp.lines :=
    .indented Text.allBlank_nil (by decide : Text.AllBlank [' ']) ['!']
      (.inserted ⟨[], Text.allBlank_nil, .inr ⟨['!'], rfl⟩⟩
        (.indented (by decide : Text.AllBlank [' ']) Text.allBlank_nil ['a', 'd'] .nil))
  exact ⟨inert,
    (decide_of_edited underRefused movedOut).1 inert ⟨[], true, false, false⟩ _, idle,
    ((decide_of_edited underRefused movedUp).2 idle).2⟩

end FeedFilter.Document
