/-
**Comments and indentation.**

Where a comment starts is found by positions, but these are counted from the first character that is
no blank. So a line may be moved to any indentation, and a line that begins with a semicolon holds
nothing but a comment.

* `strip_append`: what is read of a line goes with it when it is indented.
* `IsIdle`: a blank line, or a comment on a line of its own.
* `IsIdle.trim_strip`: nothing is read of such a line.
* `strip_written`: an indented line is read back with blanks and a comment behind it.
-/

import FeedFilter.Proofs.Comment.OnePass
import FeedFilter.Proofs.Text.Lines

namespace FeedFilter.Comment

/-- Blanks end no reading, and they protect nothing. -/
theorem unguard_append_of_allBlank {blanks : Text} (blank : blanks.AllBlank) (rest : Text) :
    unguard (blanks ++ rest) = blanks ++ unguard rest := by
  induction blanks with
  | nil => rfl
  | cons c blanks ih =>
    have visible : (['\\', ';'] : Text).all (fun mark => !Text.isBlank mark) = true := by decide
    have other (mark : Char) (member : mark ∈ (['\\', ';'] : Text)) : c ≠ mark := by
      rintro rfl
      have shown := List.all_eq_true.mp visible c member
      rw [blank c List.mem_cons_self] at shown
      cases shown
    rw [List.cons_append, unguard, ih fun d inside => blank d (List.mem_cons_of_mem _ inside)]
    · rfl
    · exact fun _ backslash => absurd backslash (other '\\' (by decide))
    · exact fun semicolon => other ';' (by decide) semicolon

/-- The leading expression goes with a line that is indented. -/
theorem closingSlash?_append {blanks : Text} (blank : blanks.AllBlank) (content : Text) :
    closingSlash? (blanks ++ content)
      = (closingSlash? content).map (· + blanks.length) := by
  unfold closingSlash?
  rw [drop_indent, drop_indent, List.dropWhile_append_of_pos blank, blank.indent_append]
  split
  · next rest =>
    rw [Option.map_map]
    refine congrArg (Option.map · _) (funext fun place => ?_)
    show place + (blanks.length + content.indent + 1) = place + (content.indent + 1) + blanks.length
    omega
  · rfl

/-- **What is read of a line goes with it when it is indented.** -/
theorem strip_append {blanks : Text} (blank : blanks.AllBlank) (content : Text) :
    strip (blanks ++ content) = blanks ++ strip content := by
  rw [strip_eq, strip_eq, lead, lead, closingSlash?_append blank]
  cases closingSlash? content with
  | none =>
    simp only [Option.map_none, Option.elim_none, List.take_zero, List.drop_zero, List.nil_append]
    exact unguard_append_of_allBlank blank content
  | some place =>
    simp only [Option.map_some, Option.elim_some]
    have border : place + blanks.length + 1 = blanks.length + (place + 1) := by omega
    rw [border, List.take_length_add_append, List.drop_length_add_append, List.append_assoc]

/-- The trimmed line does not depend on the indentation. -/
theorem trim_strip_append {blanks : Text} (blank : blanks.AllBlank) (content : Text) :
    (strip (blanks ++ content)).trim = (strip content).trim := by
  rw [strip_append blank, blank.trim_append]

/-! ### Lines of which nothing is read -/

/-- Whether a line is blank, or holds a comment and nothing else. -/
def IsIdle (line : Text) : Prop :=
  ∃ blanks : Text, blanks.AllBlank
    ∧ (line = blanks ∨ ∃ comment, line = blanks ++ ';' :: comment)

/-- A line that begins with a semicolon is a comment. -/
theorem strip_comment (comment : Text) : strip (';' :: comment) = [] := by
  have opened : closingSlash? (';' :: comment) = none := by
    unfold closingSlash?
    rw [drop_indent, List.dropWhile_cons_of_neg (by decide)]
    rfl
  rw [strip_eq, lead, opened, Option.elim_none, List.take_zero, List.drop_zero, unguard]
  rfl

/-- Of an idle line only the blanks in front are kept. -/
theorem IsIdle.strip_allBlank {line : Text} (idle : IsIdle line) : (strip line).AllBlank := by
  obtain ⟨blanks, blank, rfl | ⟨comment, rfl⟩⟩ := idle
  · have kept := strip_append blank []
    have empty : strip [] = [] := rfl
    rw [empty, List.append_nil] at kept
    rw [kept]
    exact blank
  · rw [strip_append blank, strip_comment, List.append_nil]
    exact blank

/-- **Nothing is read of an idle line.** -/
theorem IsIdle.trim_strip {line : Text} (idle : IsIdle line) : (strip line).trim = [] :=
  idle.strip_allBlank.trim

/-! ### Lines that are written -/

/-- What may be written behind a line: nothing, or a comment. Where a leading expression is left
open the comment has no slash in it, which would close the expression. -/
inductive IsRemark (line : Text) : Text → Prop
  | absent : IsRemark line []
  | comment {text : Text} (oneLine : text.IsOneLine)
      (noSlash : line.head? = some '/' → closingSlash? line = none → '/' ∉ text) :
      IsRemark line (' ' :: ';' :: text)

/-- A line that does not begin with a slash has no leading expression. -/
theorem closingSlash?_cons_of_ne {c : Char} (visible : Text.isBlank c = false) (other : c ≠ '/')
    (rest : Text) : closingSlash? (c :: rest) = none := by
  unfold closingSlash?
  rw [drop_indent, List.dropWhile_cons_of_neg (Bool.not_eq_true _ ▸ visible)]
  split
  · next equal => exact absurd (List.cons.inj equal).1 other
  · rfl

theorem closingSlash?_slash (rest : Text) :
    closingSlash? ('/' :: rest) = (unprotectedSlash? '/' rest).map (· + 1) := rfl

theorem unprotectedSlash?_of_not_mem {previous : Char} {text : Text} (free : '/' ∉ text) :
    unprotectedSlash? previous text = none := by
  cases found : unprotectedSlash? previous text with
  | none => rfl
  | some place =>
    obtain ⟨body, rest, rfl, -⟩ := unprotectedSlash?_eq_some_iff.mp found
    exact absurd (List.mem_append_right _ List.mem_cons_self) free

/-- A text without slashes closes nothing. -/
theorem unprotectedSlash?_append {previous : Char} {front back : Text}
    (left : unprotectedSlash? previous front = none) (free : '/' ∉ back) :
    unprotectedSlash? previous (front ++ back) = none := by
  induction front generalizing previous with
  | nil => exact unprotectedSlash?_of_not_mem free
  | cons c front ih =>
    rw [unprotectedSlash?] at left
    rw [List.cons_append, unprotectedSlash?]
    split at left
    · cases left
    · next goesOn =>
      rw [if_neg goesOn, ih (Option.map_eq_none_iff.mp left)]
      rfl

/-- **What is written behind a line leaves its leading expression alone.** -/
theorem IsRemark.closingSlash?_eq {line remark : Text} (clean : line.IsClean)
    (behind : IsRemark line remark) :
    closingSlash? (escape line ++ remark) = closingSlash? line := by
  cases behind with
  | absent => rw [List.append_nil, closingSlash?_escape]
  | @comment text _ noSlash =>
    cases found : closingSlash? line with
    | some place =>
      have ends : closingSlash? (escape line) = some place := by
        rw [closingSlash?_escape, found]
      have cut : escape line ++ ' ' :: ';' :: text
          = (escape line).take (place + 1)
            ++ ((escape line).drop (place + 1) ++ ' ' :: ';' :: text) := by
        rw [← List.append_assoc, List.take_append_drop]
      rw [cut]
      exact closingSlash?_take_append ends _
    | none =>
      obtain ⟨c, rest, rfl, visible⟩ := clean.exists_cons
      rw [escape_eq, lead, found, Option.elim_none, List.take_zero, List.drop_zero, List.nil_append,
        guarded_cons]
      by_cases slash : c = '/'
      · subst slash
        have left : unprotectedSlash? '/' (guarded rest) = none := by
          rw [unprotectedSlash?_guarded]
          exact Option.map_eq_none_iff.mp found
        have free : '/' ∉ ' ' :: ';' :: text := by
          have inside := noSlash rfl found
          simpa using inside
        show closingSlash? ('/' :: (guarded rest ++ ' ' :: ';' :: text)) = none
        rw [closingSlash?_slash, unprotectedSlash?_append left free]
        rfl
      · split
        · exact closingSlash?_cons_of_ne (by decide) (by decide) _
        · exact closingSlash?_cons_of_ne visible slash _

/-- **A written line is read back** with its indentation; a comment leaves a blank behind it. -/
theorem strip_written {blanks line remark : Text} (blank : blanks.AllBlank) (clean : line.IsClean)
    (behind : IsRemark line remark) :
    ∃ back : Text, back.AllBlank
      ∧ strip (blanks ++ (escape line ++ remark)) = blanks ++ (line ++ back) := by
  have bare : remark.head? ≠ some ';' := by
    cases behind with
    | absent => exact fun equal => nomatch equal
    | comment _ _ => exact fun equal => absurd (Option.some.inj equal) (by decide)
  refine ⟨unguard remark, ?_, ?_⟩
  · cases behind with
    | absent => exact Text.allBlank_nil
    | comment _ _ => exact Text.allBlank_replicate 1
  · rw [strip_append blank, strip_escape_append bare (behind.closingSlash?_eq clean)]

theorem IsRemark.oneLine {line remark : Text} (behind : IsRemark line remark) :
    remark.IsOneLine := by
  cases behind with
  | absent => exact Text.isOneLine_nil
  | comment oneLine _ =>
    exact Text.isOneLine_cons.mpr ⟨by decide, Text.isOneLine_cons.mpr ⟨by decide, oneLine⟩⟩

end FeedFilter.Comment
