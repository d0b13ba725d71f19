/-
**Indentation has no effect on decisions.**

A document is compiled into nested blocks of patterns. What a tree of patterns says depends only on
its leaves in document order, and these are the directives of the document, so the tree says what a
scan of the directives from the left says.

* `Pattern.leaves`: the rules of a tree, a rule that keeps posts as one leaf.
* `firstDecisive_leavesAll`: the verdict of a tree is that of a scan of its leaves.
* `ofForest_describes`: the leaves of a compiled forest are the directives of its lines.
* `Document.trimmedLines`: what is read of the lines of a document; `trimmedLines_eq`: its blocks
  are made of just these.
* `compile_evaluate_eq_scan`: the verdict of a document is the first decisive one among the verdicts
  of its directives, with the same reads.
-/

import FeedFilter.Document
import FeedFilter.Proofs.Block.Preorder
import FeedFilter.Proofs.Directive.Reading
import FeedFilter.Proofs.Inspection

namespace FeedFilter

/-! ### Leaves of a tree -/

namespace Pattern

mutual

/-- The leaves of a tree in order: everything but blocks. -/
def leaves : Pattern → List Pattern
  | block children => leavesAll children
  | leaf => [leaf]

/-- The leaves of trees one after the other. -/
def leavesAll : List Pattern → List Pattern
  | [] => []
  | first :: rest => leaves first ++ leavesAll rest

end

theorem leaves_directive (directive : Directive) :
    leaves directive.pattern = [directive.pattern] := by
  unfold Directive.pattern
  cases directive.keeps with
  | true => rw [if_pos rfl, leaves]; exact fun children equal => nomatch equal
  | false => rw [if_neg Bool.false_ne_true, leaves]; exact fun children equal => nomatch equal

theorem leavesAll_append (first second : List Pattern) :
    leavesAll (first ++ second) = leavesAll first ++ leavesAll second := by
  induction first with
  | nil => rfl
  | cons pattern rest ih => rw [List.cons_append, leavesAll, leavesAll, ih, List.append_assoc]

mutual

theorem firstDecisive_leaves (entry : Entry) :
    ∀ pattern : Pattern,
      .firstDecisive ((leaves pattern).map (evaluate entry)) = evaluate entry pattern
  | block children => by
    rw [leaves, evaluate, firstDecisive_leavesAll]
  | rule subject matcher => Inspection.firstDecisive_singleton _
  | keep inner => Inspection.firstDecisive_singleton _
  | unknown label => Inspection.firstDecisive_singleton _

/-- **What patterns say depends only on their leaves.** -/
theorem firstDecisive_leavesAll (entry : Entry) :
    ∀ patterns : List Pattern,
      .firstDecisive ((leavesAll patterns).map (evaluate entry)) = evaluateFirst entry patterns
  | [] => by rw [leavesAll, evaluateFirst]; rfl
  | pattern :: rest => by
    rw [leavesAll, evaluateFirst, List.map_append, Inspection.firstDecisive_append,
      firstDecisive_leaves entry pattern, firstDecisive_leavesAll entry rest]

end

end Pattern

/-! ### The lines of a document that settle -/

/-- The directives among some lines, in order. -/
def Directive.ofLines (lines : List Text) : List Directive :=
  lines.filterMap fun line => (Directive.compile line).toOption

/-- The refusal of a line that is no directive. -/
def Ignored.ofLine? (line : Text) : Option Ignored :=
  match Directive.compile line with
  | .error (.invalid error) => some ⟨line, error⟩
  | _ => none

/-- What is said of an outline of some lines: its leaves are the directives among them, and it
leaves out the others. -/
structure Outline.Describes (outline : Outline) (lines : List Text) : Prop where
  leaves : Pattern.leavesAll outline.patterns = (Directive.ofLines lines).map Directive.pattern
  ignored : outline.ignored = lines.filterMap Ignored.ofLine?

namespace Outline

theorem Describes.append {first second : Outline} {lines more : List Text}
    (left : first.Describes lines) (right : second.Describes more) :
    (first.append second).Describes (lines ++ more) where
  leaves := by
    rw [Outline.append, Pattern.leavesAll_append, left.leaves, right.leaves, Directive.ofLines,
      Directive.ofLines, Directive.ofLines, List.filterMap_append, List.map_append]
  ignored := by rw [Outline.append, left.ignored, right.ignored, List.filterMap_append]

theorem Describes.nested {outline : Outline} {lines : List Text} (inner : outline.Describes lines) :
    outline.nested.Describes lines where
  leaves := by
    rw [Outline.nested, Pattern.leavesAll, Pattern.leavesAll, Pattern.leaves, List.append_nil,
      inner.leaves]
  ignored := inner.ignored

/-- The outline of a line that settles. -/
theorem ofLine_describes {line : Text} (settled : Directive.IsSettled line) :
    ∃ outline, ofLine line = .ok outline ∧ outline.Describes [line] := by
  obtain ⟨directive, compiled⟩ | ⟨error, refused⟩ := settled
  · refine ⟨⟨[directive.pattern], []⟩, by rw [ofLine, compiled], ?_, ?_⟩
    · simp [Pattern.leavesAll, Pattern.leaves_directive, Directive.ofLines, compiled,
        Except.toOption]
    · simp [Ignored.ofLine?, compiled]
  · refine ⟨⟨[], [⟨line, error⟩]⟩, by rw [ofLine, refused], ?_, ?_⟩
    · simp [Pattern.leavesAll, Directive.ofLines, refused, Except.toOption]
    · simp [Ignored.ofLine?, refused]

mutual

theorem ofBlock_describes : ∀ block : Block, (∀ line ∈ block.preorder, Directive.IsSettled line) →
    ∃ outline, ofBlock block = .ok outline ∧ outline.Describes block.preorder
  | .node line [], settled => by
    rw [ofBlock, Block.preorder, Block.preorderAll]
    exact ofLine_describes (settled line (by rw [Block.preorder]; exact List.mem_cons_self))
  | .node line (child :: rest), settled => by
    rw [Block.preorder] at settled ⊢
    obtain ⟨own, ownEq, ownDescribes⟩ := ofLine_describes (settled line List.mem_cons_self)
    obtain ⟨under, underEq, underDescribes⟩ := ofForest_describes (child :: rest)
      fun line member => settled line (List.mem_cons_of_mem _ member)
    refine ⟨own.append under.nested, ?_, ownDescribes.append underDescribes.nested⟩
    rw [ofBlock, ownEq, underEq]
    rfl

/-- **The leaves of a compiled forest are the directives of its lines**, whatever the nesting, and
the lines left out are the others. -/
theorem ofForest_describes :
    ∀ blocks : List Block, (∀ line ∈ Block.preorderAll blocks, Directive.IsSettled line) →
    ∃ outline, ofForest blocks = .ok outline ∧ outline.Describes (Block.preorderAll blocks)
  | [], _ => ⟨empty, by rw [ofForest], by rw [Block.preorderAll]; exact ⟨rfl, rfl⟩⟩
  | block :: rest, settled => by
    rw [Block.preorderAll] at settled ⊢
    obtain ⟨first, firstEq, firstDescribes⟩ := ofBlock_describes block
      fun line member => settled line (List.mem_append_left _ member)
    obtain ⟨others, othersEq, othersDescribes⟩ := ofForest_describes rest
      fun line member => settled line (List.mem_append_right _ member)
    refine ⟨first.append others, ?_, firstDescribes.append othersDescribes⟩
    rw [ofForest, firstEq, othersEq]
    rfl

end

end Outline

namespace Outline

/-- **What an outline says** is what a scan of the directives that it describes says. -/
theorem Describes.evaluate_root {outline : Outline} {lines : List Text}
    (describes : outline.Describes lines) (entry : Entry) :
    outline.root.evaluate entry
      = .firstDecisive
          ((Directive.ofLines lines).map fun directive => directive.pattern.evaluate entry) := by
  rw [root, Pattern.evaluate, ← Pattern.firstDecisive_leavesAll, describes.leaves, List.map_map]
  rfl

end Outline

/-! ### The directives of a document -/

namespace Document

/-- What is read of raw lines: each without its comment and trimmed, as far as anything is left. -/
def trimmedOf (lines : List Text) : List Text :=
  (lines.map fun line => (Comment.strip line).trim).filter fun line => !line.isEmpty

/-- What is read of the lines of a document. A directive may stand on each of these. -/
def trimmedLines (text : Text) : List Text := trimmedOf text.lines

/-- These are the lines that blocks are made of, without their indentation. -/
theorem trimmedLines_eq (text : Text) :
    trimmedLines text = (directiveLines text).map Text.trim := by
  rw [trimmedLines, trimmedOf, directiveLines, List.filter_map, List.filter_map, List.map_map]
  rfl

/-- The directives of a document from the first line to the last, indentation left aside. -/
def directives (text : Text) : List Directive := Directive.ofLines (trimmedLines text)

/-- Whether each line of a document either is a directive or is refused as none. -/
def IsSettled (text : Text) : Prop := ∀ line ∈ trimmedLines text, Directive.IsSettled line

theorem preorderAll_blocks (text : Text) : Block.preorderAll (blocks text) = trimmedLines text := by
  rw [blocks, Block.preorderAll_ofLines, trimmedLines_eq, List.filter_eq_self]
  intro line member
  obtain ⟨raw, rawMember, rfl⟩ := List.mem_map.mp member
  rw [directiveLines, List.mem_filter] at rawMember
  exact rawMember.2

theorem compile_describes {text : Text} (settled : IsSettled text) :
    ∃ outline, compile text = .ok outline ∧ outline.Describes (trimmedLines text) := by
  rw [← preorderAll_blocks]
  refine Outline.ofForest_describes (blocks text) fun line member => settled line ?_
  rwa [preorderAll_blocks] at member

theorem errorsOf_eq {lines : List Text}
    (settled : ∀ line ∈ lines, Directive.IsSettled line.trim) :
    errorsOf lines = .ok ((lines.map Text.trim).filterMap Ignored.ofLine?) := by
  induction lines with
  | nil => rw [errorsOf]; rfl
  | cons line rest ih =>
    have tail := ih fun other member => settled other (List.mem_cons_of_mem _ member)
    obtain ⟨directive, compiled⟩ | ⟨error, refused⟩ := settled line List.mem_cons_self
    · rw [errorsOf, compiled, tail, List.map_cons, List.filterMap_cons, Ignored.ofLine?, compiled]
    · rw [errorsOf, refused, tail, List.map_cons, List.filterMap_cons, Ignored.ofLine?, refused]
      rfl

/-- **The errors of a document** are the refusals of its lines. -/
theorem errors_eq {text : Text} (settled : IsSettled text) :
    errors text = .ok ((trimmedLines text).filterMap Ignored.ofLine?) := by
  rw [IsSettled, trimmedLines_eq] at settled
  rw [trimmedLines_eq]
  exact errorsOf_eq fun line member => settled line.trim (List.mem_map_of_mem member)

/-- **Indentation has no effect on decisions.** The pattern of a document says what a scan of its
directives from the left says, with the same reads: the verdict is that of the first decisive
directive, and nothing is read after it; without one it is undecided. -/
theorem compile_evaluate_eq_scan (text : Text) (settled : IsSettled text) (entry : Entry) :
    ∃ outline, compile text = .ok outline
      ∧ outline.root.evaluate entry
        = .firstDecisive ((directives text).map fun directive => directive.pattern.evaluate entry)
      ∧ (∀ before directive after verdict, directives text = before ++ directive :: after →
          (∀ earlier ∈ before, (earlier.pattern.evaluate entry).result = .ok .undecided) →
          (directive.pattern.evaluate entry).result = .ok verdict → verdict.isDecisive →
          outline.root.evaluate entry
            = ⟨(before ++ [directive]).flatMap fun one => (one.pattern.evaluate entry).reads,
                .ok verdict⟩)
      ∧ ((∀ directive ∈ directives text,
            (directive.pattern.evaluate entry).result = .ok .undecided) →
          outline.root.evaluate entry
            = ⟨(directives text).flatMap fun one => (one.pattern.evaluate entry).reads,
                .ok .undecided⟩) := by
  obtain ⟨outline, compiled, describes⟩ := compile_describes settled
  have scan : outline.root.evaluate entry
      = .firstDecisive ((directives text).map fun directive => directive.pattern.evaluate entry) :=
    describes.evaluate_root entry
  refine ⟨outline, compiled, scan, ?_, ?_⟩
  · intro before directive after verdict split undecided result decisive
    rw [scan, split, List.map_append, List.map_cons,
      Inspection.firstDecisive_of_decisive ?_ result decisive]
    · simp only [List.flatMap_append, List.flatMap_map, List.flatMap_cons, List.flatMap_nil,
        List.append_nil]
    · intro inspection member
      obtain ⟨earlier, earlierMember, rfl⟩ := List.mem_map.mp member
      exact undecided earlier earlierMember
  · intro undecided
    rw [scan, Inspection.firstDecisive_of_undecided, List.flatMap_map]
    intro inspection member
    obtain ⟨directive, directiveMember, rfl⟩ := List.mem_map.mp member
    exact undecided directive directiveMember

/-- A document in which a line that is no directive has lines under it. -/
def orphans : Text := ['!', '\n', ' ', 'a', 'd', '\n', '\t', ' ', '!', 'j', 'o', 'b']

theorem compile_evaluate_eq_scan_orphans :
    IsSettled orphans ∧ ∃ outline, compile orphans = .ok outline
      ∧ outline.root.evaluate (.ofValues ['j', 'o', 'b'] none false false)
        = .firstDecisive ((directives orphans).map fun directive =>
            directive.pattern.evaluate (.ofValues ['j', 'o', 'b'] none false false)) := by
  have plain : ∀ line ∈ trimmedLines orphans,
      Matcher.literal? (Directive.Form.ofLine line).rest = none := by decide
  have settled : IsSettled orphans := fun line member =>
    Directive.isSettled_of_word (plain line member)
  obtain ⟨outline, compiled, scan, -, -⟩ :=
    compile_evaluate_eq_scan orphans settled (.ofValues ['j', 'o', 'b'] none false false)
  exact ⟨settled, outline, compiled, scan⟩

end Document

end FeedFilter
