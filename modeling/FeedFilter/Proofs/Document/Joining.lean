/-
**Documents compose.**

Two documents with a line feed between them are one document. The line feed may merge with a
carriage return before it, make an empty line, or put the first lines of the second document under
the last ones of the first; none of this shows in what is decided and reported.

* `directiveLines_append`: the lines of the whole are those of the first and those of the second.
* `breakdown?_append`, `directives_append`: so are its breakdown and its directives.
* `compile_append`: where the first document has no opinion, the second one has the say, and the
  errors of both are the errors of the whole.
-/

import FeedFilter.Proofs.Document.Breakdown
import FeedFilter.Proofs.Text.Lines

namespace FeedFilter.Document

/-! ### The lines of the whole -/

/-- **Joined documents keep their lines**, those of the first and then those of the second. -/
theorem directiveLines_append (first second : Text) :
    directiveLines (first ++ '\n' :: second) = directiveLines first ++ directiveLines second := by
  obtain ⟨gap, split, empty⟩ := Text.exists_lines_append_feed first second
  have nothing : (gap.map Comment.strip).filter (fun line => !line.trim.isEmpty) = [] := by
    rw [List.filter_eq_nil_iff]
    intro line member
    obtain ⟨raw, rawMember, rfl⟩ := List.mem_map.mp member
    rw [empty raw rawMember]
    exact Bool.false_ne_true
  rw [directiveLines, split, List.map_append, List.map_append, List.filter_append,
    List.filter_append, nothing, List.nil_append]
  rfl

theorem trimmedLines_append (first second : Text) :
    trimmedLines (first ++ '\n' :: second) = trimmedLines first ++ trimmedLines second := by
  rw [trimmedLines_eq, trimmedLines_eq, trimmedLines_eq, directiveLines_append, List.map_append]

theorem breakdown?_append (first second : Text) :
    breakdown? (first ++ '\n' :: second) = (breakdown? first).or (breakdown? second) := by
  rw [breakdown?, trimmedLines_append, Directive.firstBreakdown?_append]
  rfl

theorem directives_append (first second : Text) :
    directives (first ++ '\n' :: second) = directives first ++ directives second := by
  rw [directives, trimmedLines_append, Directive.ofLines, List.filterMap_append]
  rfl

/-! ### What compiles -/

theorem isSettled_of_compile {text : Text} {outline : Outline}
    (compiled : compile text = .ok outline) : IsSettled text := by
  rw [← breakdown?_eq_none_iff]
  cases found : breakdown? text with
  | none => rfl
  | some breakdown =>
    rw [compile_of_breakdown found] at compiled
    cases compiled

/-- What a document says is what a scan of its directives says. -/
theorem evaluate_of_compile {text : Text} {outline : Outline}
    (compiled : compile text = .ok outline) (entry : Entry) :
    outline.root.evaluate entry
      = .firstDecisive
          ((directives text).map fun directive => directive.pattern.evaluate entry) := by
  obtain ⟨found, same, describes⟩ := compile_describes (isSettled_of_compile compiled)
  rw [compiled] at same
  cases same
  exact describes.evaluate_root entry

/-- **Documents compose.** Where two documents compile, so do both with a line feed between them.
The whole says what the first says where that is decisive, for the same reason and with the same
reads, and what the second says otherwise. Its errors are those of the first and then those of the
second. -/
theorem compile_append {first second : Text} {one two : Outline}
    (compiled : compile first = .ok one) (compiledToo : compile second = .ok two) :
    ∃ outline, compile (first ++ '\n' :: second) = .ok outline
      ∧ (∀ entry, outline.root.evaluate entry = do
          let verdict ← one.root.evaluate entry
          if verdict.isDecisive then return verdict else two.root.evaluate entry)
      ∧ ∃ refused more, errors first = .ok refused ∧ errors second = .ok more
          ∧ errors (first ++ '\n' :: second) = .ok (refused ++ more) := by
  have settled := isSettled_of_compile compiled
  have settledToo := isSettled_of_compile compiledToo
  have whole : IsSettled (first ++ '\n' :: second) := by
    rw [← breakdown?_eq_none_iff, breakdown?_append, breakdown?_eq_none_iff.mpr settled,
      breakdown?_eq_none_iff.mpr settledToo]
    rfl
  obtain ⟨outline, joined, -⟩ := compile_describes whole
  refine ⟨outline, joined, fun entry => ?_, _, _, errors_eq settled, errors_eq settledToo, ?_⟩
  · rw [evaluate_of_compile joined, evaluate_of_compile compiled, evaluate_of_compile compiledToo,
      directives_append, List.map_append, Inspection.firstDecisive_append]
  · rw [errors_eq whole, trimmedLines_append, List.filterMap_append]

/-- A document that ends with a line that is refused and a carriage return. -/
def aboveSeam : Text := ['!', 'a', 'd', '\n', '!', '\r']

/-- A document whose first line is indented. -/
def belowSeam : Text := [' ', 'j', 'o', 'b', '\n', '!']

theorem compile_append_seam :
    ∃ one two outline, compile aboveSeam = .ok one ∧ compile belowSeam = .ok two
      ∧ compile (aboveSeam ++ '\n' :: belowSeam) = .ok outline
      ∧ (outline.root.evaluate (.ofValues ['j', 'o', 'b'] none false false) = do
          let verdict ← one.root.evaluate (.ofValues ['j', 'o', 'b'] none false false)
          if verdict.isDecisive then return verdict
          else two.root.evaluate (.ofValues ['j', 'o', 'b'] none false false)) := by
  have plain : ∀ line ∈ trimmedLines aboveSeam ++ trimmedLines belowSeam,
      Matcher.literal? (Directive.Form.ofLine line).rest = none := by decide
  have settled : IsSettled aboveSeam := fun line member =>
    Directive.isSettled_of_word (plain line (List.mem_append_left _ member))
  have settledToo : IsSettled belowSeam := fun line member =>
    Directive.isSettled_of_word (plain line (List.mem_append_right _ member))
  obtain ⟨one, compiled, -⟩ := compile_describes settled
  obtain ⟨two, compiledToo, -⟩ := compile_describes settledToo
  obtain ⟨outline, joined, appended, -⟩ := compile_append compiled compiledToo
  exact ⟨one, two, outline, compiled, compiledToo, joined, appended _⟩

end FeedFilter.Document
