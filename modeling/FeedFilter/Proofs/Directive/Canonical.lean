/-
**Directives can be written back.**

A directive is written as one line: its marks, with a single blank behind the mark of a reactor, and
then the text that it was written as. That text may itself begin like a mark, but each mark is only
looked for once, and the blanks behind the mark of a reactor are all taken off. So the written line
is taken apart just as the first line was, and the rest of it is read alike.

* `Form.line`: the line that a form is written as; `Form.Marks.line`: it has that form again.
* `Form.Marks.isClean_line`: escaping, joining and trimming do it no harm if they did the first line
  none.
* `Document.blocks_escape`: a clean line, escaped, is a document of one block.
* `compile_canonicalLine`: a directive is got back from its line, also when that line is a document.
-/

import FeedFilter.Proofs.Comment.OnePass
import FeedFilter.Proofs.Directive.Grammar
import FeedFilter.Proofs.Document.Writing

namespace FeedFilter

/-- A clean line ends with a character that is no blank. -/
theorem Text.IsClean.getLast?_visible {line : Text} (clean : line.IsClean) :
    ∀ c, line.getLast? = some c → isBlank c = false := by
  intro c last
  have stops := List.head?_dropWhile_not isBlank line.reverse
  have whole := congrArg List.reverse clean.trimEnd
  rw [Text.trimEnd, List.reverse_reverse] at whole
  rw [whole, List.head?_reverse, last] at stops
  simpa using stops

/-! ### The line of a form -/

namespace Directive

/-- The line of a form, with one blank behind the mark of a reactor. -/
def Form.line (form : Form) : Text :=
  (if form.keeps then keepMark else [])
    ++ ((if form.byReactor then reactorMark ++ [' '] else []) ++ form.rest)

/-- **The line of a form has that form again.** -/
theorem Form.Marks.line {form : Form} {line : Text} (marks : form.Marks line) :
    form.Marks form.line := by
  obtain ⟨keeps, byReactor, rest⟩ := form
  obtain ⟨unmarked, kept, reacted⟩ := marks
  refine ⟨(if byReactor then reactorMark ++ [' '] else []) ++ rest, ?_, ?_⟩
  · cases keeps with
    | true => exact .marked _
    | false =>
      refine .bare fun more same => ?_
      cases byReactor with
      | true => cases same
      | false =>
        -- Without marks the line is the one that the form was found in.
        cases reacted
        cases kept with
        | bare other => exact other more same
  · cases reacted with
    | marked filled blank all =>
      have spaced : ∀ c ∈ [' '], isSpace c = true :=
        List.forall_mem_singleton.mpr (by decide +kernel)
      have marked := Reacts.marked (List.cons_ne_nil ' ' []) spaced all
      rwa [← List.append_assoc] at marked
    | bare other => exact .bare other

/-- The line of a form begins with a mark, or it is the line that the form was found in. -/
theorem Form.Marks.head?_line_visible {form : Form} {line : Text} (marks : form.Marks line)
    (clean : line.IsClean) : ∀ c, form.line.head? = some c → Text.isBlank c = false := by
  intro c first
  obtain ⟨keeps, byReactor, rest⟩ := form
  obtain ⟨unmarked, kept, reacted⟩ := marks
  cases kept with
  | marked =>
    cases first
    decide
  | bare =>
    cases reacted with
    | marked =>
      cases first
      decide
    | bare =>
      obtain ⟨d, more, rfl, visible⟩ := clean.exists_cons
      cases first
      exact visible

/-- Escaping, joining and trimming do no harm to the line of a form, if they did none to the line
that the form was found in. -/
theorem Form.Marks.isClean_line {form : Form} {line : Text} (marks : form.Marks line)
    (filled : form.rest ≠ []) (clean : line.IsClean) : form.line.IsClean := by
  have suffix : form.rest <:+ line := by
    rw [marks_iff.mp marks]
    exact Form.rest_suffix line
  have ends (front : Text) : (front ++ form.rest).getLast? = form.rest.getLast? := by
    rw [List.getLast?_append, List.getLast?_eq_some_getLast filled, Option.some_or]
  refine ⟨?_, ?_, Text.trim_eq_self (marks.head?_line_visible clean) ?_⟩
  · exact List.append_ne_nil_of_right_ne_nil _ (List.append_ne_nil_of_right_ne_nil _ filled)
  · intro c member
    have own : Text.IsOneLine (keepMark ++ (reactorMark ++ [' '])) := by decide
    rw [Form.line, List.mem_append, List.mem_append] at member
    rcases member with mark | mark | inside
    · split at mark
      · exact own c (List.mem_append_left _ mark)
      · cases mark
    · split at mark
      · exact own c (List.mem_append_right _ mark)
      · cases mark
    · exact clean.oneLine c (suffix.subset inside)
  · intro c last
    obtain ⟨front, split⟩ := suffix
    rw [Form.line, ← List.append_assoc, ends, ← ends front, split] at last
    exact clean.getLast?_visible c last

end Directive

/-! ### Documents of one line -/

namespace Document

/-- **A clean line, escaped, is a document of one block**, with that line and nothing under it. -/
theorem blocks_escape {line : Text} (clean : line.IsClean) :
    blocks (Comment.escape line) = [.node line []] := by
  have single : (Comment.escape line).lines = [Comment.escape line] :=
    Text.lines_eq_singleton_iff.mpr
      ⟨Comment.escape_ne_nil clean.filled, Comment.isOneLine_escape clean.oneLine⟩
  have entries : Block.entries [line] = [(line.indent, line)] := by
    rw [Block.entries_cons, clean.trimmed, if_neg clean.filled]
    rfl
  rw [blocks_eq, single, List.map_singleton, Comment.strip_escape, Block.ofLines, entries,
    Block.forest, List.takeWhile_nil, List.dropWhile_nil, Block.forest]

/-- A document of a clean line that is a directive has just this directive. -/
theorem compile_escape {line : Text} {directive : Directive} (clean : line.IsClean)
    (compiled : Directive.compile line = .ok directive) :
    compile (Comment.escape line) = .ok ⟨[directive.pattern], []⟩ := by
  have alone : Outline.ofBlock (.node line []) = .ok ⟨[directive.pattern], []⟩ := by
    rw [Outline.ofBlock, Outline.ofLine, compiled]
  rw [compile, blocks_escape clean, Outline.ofForest, alone, Outline.ofForest]
  rfl

end Document

/-! ### The line of a directive -/

namespace Directive

/-- The form of a directive. -/
def form (directive : Directive) : Form :=
  ⟨directive.keeps, directive.byReactor, directive.matcher.source⟩

/-- The line that a directive is written as: `!` if it keeps posts, the mark of a reactor and a
blank if it looks at who reacted, and the text that it was written as. -/
def canonicalLine (directive : Directive) : Text := directive.form.line

/-- A line has the form of its directive. -/
theorem marks_form {line : Text} {directive : Directive}
    (compiled : compile line = .ok directive) : directive.form.Marks line := by
  obtain ⟨keeps, byReactor, matcher⟩ := compile_eq_ok_iff.mp compiled
  rw [marks_iff, form, keeps, byReactor, Matcher.source_of_compile matcher]

/-- Lines of one form are the same directive. -/
theorem compile_congr {form : Form} {line other : Text} (marks : form.Marks line)
    (twin : form.Marks other) : compile line = compile other := by
  rw [compile_eq, compile_eq, ← marks_iff.mp marks, marks_iff.mp twin]

/-- What a directive was written as is not empty. -/
theorem source_ne_nil {line : Text} {directive : Directive}
    (compiled : compile line = .ok directive) : directive.matcher.source ≠ [] := by
  obtain ⟨-, -, matcher⟩ := compile_eq_ok_iff.mp compiled
  rw [Matcher.source_of_compile matcher]
  intro empty
  rw [empty] at matcher
  cases matcher

/-- **Directives can be written back.** The line that a directive is written as is the same
directive again. If the first line was trimmed and has no line break, the written line, escaped, is
a document with just this directive, and nothing in it is left out. -/
theorem compile_canonicalLine {line : Text} {directive : Directive}
    (compiled : compile line = .ok directive) :
    compile directive.canonicalLine = .ok directive
      ∧ (line.trim = line → line.IsOneLine →
        ∃ outline, Document.compile (Comment.escape directive.canonicalLine) = .ok outline
          ∧ outline.root = .block [directive.pattern] ∧ outline.ignored = []) := by
  have marks := marks_form compiled
  have again : compile directive.canonicalLine = .ok directive :=
    (compile_congr marks.line marks).trans compiled
  refine ⟨again, fun trimmed oneLine => ?_⟩
  have filled : line ≠ [] := by
    rintro rfl
    cases compiled
  have clean := marks.isClean_line (source_ne_nil compiled) ⟨filled, oneLine, trimmed⟩
  exact ⟨_, Document.compile_escape clean again, rfl, rfl⟩

/-- A line whose rest looks like a line with both marks, with a semicolon that looks protected. -/
def nestedMarks : Text := "!$react \t!$react ;a\\;".toList

/-- It is written with one blank behind the mark of a reactor, and escaped with a backslash for each
semicolon. -/
theorem compile_canonicalLine_nestedMarks :
    ∃ directive, compile nestedMarks = .ok directive
      ∧ directive.canonicalLine = "!$react !$react ;a\\;".toList
      ∧ compile "!$react !$react ;a\\;".toList = .ok directive
      ∧ nestedMarks.trim = nestedMarks ∧ nestedMarks.IsOneLine
      ∧ ∃ outline, Document.compile "!$react !$react \\;a\\\\;".toList = .ok outline
        ∧ outline.root = .block [directive.pattern] := by
  have form : Form.ofLine nestedMarks = ⟨true, true, "!$react ;a\\;".toList⟩ := by decide +kernel
  have plain : Matcher.literal? "!$react ;a\\;".toList = none := by decide
  obtain ⟨regex, -, read⟩ := Matcher.compile_of_word plain (by decide)
  have compiled : compile nestedMarks = .ok ⟨true, true, ⟨"!$react ;a\\;".toList, regex⟩⟩ := by
    rw [compile_eq, form, read]
    rfl
  have trimmed : nestedMarks.trim = nestedMarks := by decide
  have oneLine : nestedMarks.IsOneLine := by decide
  obtain ⟨again, document⟩ := compile_canonicalLine compiled
  obtain ⟨outline, written, root, -⟩ := document trimmed oneLine
  exact ⟨_, compiled, rfl, again, trimmed, oneLine, outline, written, root⟩

end Directive

end FeedFilter
