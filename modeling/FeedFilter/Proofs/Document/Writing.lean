/-
**Documents that are written from blocks are read back.**

A document is written from blocks with one line for each of them, in order and escaped, deeper lines
indented more. Comments may stand behind the lines, and idle lines between them. Reading undoes all
of this at once.

* `Writes`: what such a document looks like, line by line.
* `Writes.entries_eq`: each written line is read back with its indentation, and nothing else is.
* `blocks_of_writes`: the blocks of the document are those it was written from.
-/

import FeedFilter.Document
import FeedFilter.Proofs.Block.Preorder
import FeedFilter.Proofs.Comment.Layout
import Mathlib.Order.Monotone.Basic

namespace FeedFilter

namespace Block

theorem entries_append (first second : List Text) :
    entries (first ++ second) = entries first ++ entries second := by
  rw [entries, List.map_append, List.filter_append, entries, entries]

theorem entries_cons (line : Text) (rest : List Text) :
    entries (line :: rest)
      = if line.trim = [] then entries rest else (line.indent, line.trim) :: entries rest := by
  rw [entries, List.map_cons, List.filter_cons]
  by_cases blank : line.trim = []
  · simp [blank, entries]
  · simp [blank, entries]

/-- Blank lines make no entries. -/
theorem entries_eq_nil {lines : List Text} (blank : ∀ line ∈ lines, line.trim = []) :
    entries lines = [] := by
  induction lines with
  | nil => rfl
  | cons line rest ih =>
    rw [entries_cons, if_pos (blank line List.mem_cons_self),
      ih fun other member => blank other (List.mem_cons_of_mem _ member)]

/-- Leaving out blank lines changes no entry. -/
theorem entries_filter (lines : List Text) :
    entries (lines.filter fun line => !line.trim.isEmpty) = entries lines := by
  induction lines with
  | nil => rfl
  | cons line rest ih =>
    rw [List.filter_cons, entries_cons line rest]
    by_cases blank : line.trim = []
    · rw [if_pos blank, if_neg (by simp [blank]), ih]
    · rw [if_neg blank, if_pos (by simp [blank]), entries_cons, if_neg blank, ih]

end Block

namespace Document

/-- Blank lines may be left out or not: the blocks of a document are those of its lines without
comments. -/
theorem blocks_eq (text : Text) : blocks text = Block.ofLines (text.lines.map Comment.strip) := by
  rw [blocks, directiveLines, Block.ofLines, Block.entries_filter, Block.ofLines]

/-- How lines with their depths are written: each on a line of its own, escaped and indented by its
depth, with a comment behind it or none; and idle lines anywhere. -/
inductive Writes (indent : Nat → Nat) : List (Nat × Text) → List Text → Prop
  | nil : Writes indent [] []
  | idle {line : Text} {entries : List (Nat × Text)} {lines : List Text}
      (oneLine : line.IsOneLine) (isIdle : Comment.IsIdle line)
      (rest : Writes indent entries lines) : Writes indent entries (line :: lines)
  | entry {depth : Nat} {line remark : Text} {entries : List (Nat × Text)} {lines : List Text}
      (behind : Comment.IsRemark line remark) (rest : Writes indent entries lines) :
      Writes indent ((depth, line) :: entries)
        ((List.replicate (indent depth) ' ' ++ (Comment.escape line ++ remark)) :: lines)

variable {indent : Nat → Nat} {outlined : List (Nat × Text)} {lines : List Text}

/-- Nothing that is written breaks a line. -/
theorem Writes.isOneLine (writes : Writes indent outlined lines)
    (clean : ∀ entry ∈ outlined, entry.2.IsClean) : ∀ line ∈ lines, line.IsOneLine := by
  induction writes with
  | nil => exact fun _ member => absurd member List.not_mem_nil
  | idle oneLine _ _ ih => exact List.forall_mem_cons.mpr ⟨oneLine, ih clean⟩
  | @entry depth line remark entries lines behind _ ih =>
    obtain ⟨here, others⟩ := List.forall_mem_cons.mp clean
    refine List.forall_mem_cons.mpr ⟨fun c inside => ?_, ih others⟩
    rcases List.mem_append.mp inside with space | written
    · rw [List.eq_of_mem_replicate space]
      decide
    · rcases List.mem_append.mp written with escaped | after
      · exact Comment.isOneLine_escape here.oneLine c escaped
      · exact behind.oneLine c after

/-- **Each written line is read back with its indentation**, and nothing else is read. -/
theorem Writes.entries_eq (writes : Writes indent outlined lines)
    (clean : ∀ entry ∈ outlined, entry.2.IsClean) :
    Block.entries (lines.map Comment.strip)
      = outlined.map fun entry => (indent entry.1, entry.2) := by
  induction writes with
  | nil => rfl
  | idle _ isIdle _ ih => rw [List.map_cons, Block.entries_cons, if_pos isIdle.trim_strip, ih clean]
  | @entry depth line remark entries lines behind _ ih =>
    obtain ⟨here, others⟩ := List.forall_mem_cons.mp clean
    have spaces := Text.allBlank_replicate (indent depth)
    obtain ⟨back, blank, stripped⟩ := Comment.strip_written spaces here behind
    obtain ⟨trimmed, indented⟩ := here.trim_padded spaces blank
    rw [List.map_cons, Block.entries_cons, stripped, trimmed, indented, if_neg here.filled,
      List.length_replicate, ih others, List.map_cons]

/-- **The document format round-trips.** A document that is written from blocks, by any indentation
that grows with the depth, with comments and idle lines anywhere, has just these blocks. -/
theorem blocks_of_writes {blocks : List Block} (increasing : StrictMono indent)
    (clean : ∀ line ∈ Block.preorderAll blocks, line.IsClean)
    (writes : Writes indent (Block.outlinedAll 0 blocks) lines) :
    Block.ofLines ((Text.join ['\n'] lines).lines.map Comment.strip) = blocks
      ∧ Document.blocks (Text.join ['\n'] lines) = blocks := by
  have cleanEntries : ∀ entry ∈ Block.outlinedAll 0 blocks, entry.2.IsClean := by
    intro entry member
    refine clean entry.2 ?_
    rw [← Block.outlinedAll_lines 0 blocks]
    exact List.mem_map_of_mem member
  obtain ⟨lost, joined, empty⟩ := Text.exists_lines_join (writes.isOneLine cleanEntries)
  have entries : Block.entries ((Text.join ['\n'] lines).lines.map Comment.strip)
      = (Block.outlinedAll 0 blocks).map fun entry => (indent entry.1, entry.2) := by
    have nothing : Block.entries (lost.map Comment.strip) = [] := by
      refine Block.entries_eq_nil fun line member => ?_
      obtain ⟨own, inside, rfl⟩ := List.mem_map.mp member
      rw [empty own inside]
      rfl
    have whole := writes.entries_eq cleanEntries
    rwa [← joined, List.map_append, Block.entries_append, nothing, List.append_nil] at whole
  have read : Block.ofLines ((Text.join ['\n'] lines).lines.map Comment.strip) = blocks := by
    rw [Block.ofLines, entries]
    exact Block.forest_outlined (fun _ _ less => increasing less) 0 blocks
  exact ⟨read, by rw [blocks_eq, read]⟩

/-- Semicolons inside and behind expressions, and an expression that is left open. -/
def annotated : List Block :=
  [.node ['/', 'a', ';', '/'] [.node ['b', '\\', ';', 'c'] []], .node ['/', 'd'] []]

/-- A document for these blocks: comments with and without slashes, and idle lines. -/
def annotatedLines : List Text :=
  [[' ', '/', 'a', ';', '/', ' ', ';', '/'], ['\t', ';', ';'],
   [' ', ' ', ' ', 'b', '\\', '\\', ';', 'c'], [], [' ', '/', 'd', ' ', ';', 'e'], []]

theorem blocks_of_writes_annotated :
    (StrictMono fun depth : Nat => 2 * depth + 1)
      ∧ (∀ line ∈ Block.preorderAll annotated, line.IsClean)
      ∧ Writes (fun depth => 2 * depth + 1) (Block.outlinedAll 0 annotated) annotatedLines
      ∧ Block.ofLines ((Text.join ['\n'] annotatedLines).lines.map Comment.strip) = annotated := by
  have increasing : StrictMono fun depth : Nat => 2 * depth + 1 := fun first second less => by
    show 2 * first + 1 < 2 * second + 1
    omega
  have clean : ∀ line ∈ Block.preorderAll annotated, line.IsClean := by decide
  have writes : Writes (fun depth => 2 * depth + 1) (Block.outlinedAll 0 annotated)
      annotatedLines := by
    have slashed : Comment.IsRemark ['/', 'a', ';', '/'] [' ', ';', '/'] :=
      .comment (by decide) fun _ opened => absurd opened (by decide)
    have plain : Comment.IsRemark ['/', 'd'] [' ', ';', 'e'] :=
      .comment (by decide) fun _ _ => by decide
    have idle : Comment.IsIdle ['\t', ';', ';'] :=
      ⟨['\t'], by decide, .inr ⟨[';'], rfl⟩⟩
    have blank : Comment.IsIdle [] := ⟨[], by decide, .inl rfl⟩
    exact .entry slashed (.idle (by decide) idle (.entry .absent (.idle (by decide) blank
      (.entry plain (.idle (by decide) blank .nil)))))
  exact ⟨increasing, clean, writes, (blocks_of_writes increasing clean writes).1⟩

end Document

end FeedFilter
