/-
**The lines of blocks in document order.**

* `Block.preorder`: the line of a block and then the lines under it.
* `preorderAll_forest`: nesting by indentation neither loses a line nor moves one.
* `outlined`: the lines of a block with their depths.
* `forest_outlined`: blocks are got back from lines that are indented by their depths.
-/

import FeedFilter.Block

namespace FeedFilter.Block

mutual

/-- The lines of a block, its own first. -/
def preorder : Block → List Text
  | node line children => line :: preorderAll children

/-- The lines of blocks one after the other. -/
def preorderAll : List Block → List Text
  | [] => []
  | block :: rest => preorder block ++ preorderAll rest

end

/-- **Nesting keeps every line at its place.** -/
theorem preorderAll_forest (entries : List (Nat × Text)) :
    preorderAll (forest entries) = entries.map Prod.snd := by
  induction entries using forest.induct with
  | case1 => rw [forest, preorderAll, List.map_nil]
  | case2 indent line rest under after =>
    rw [forest, preorderAll, preorder, under, after, List.map_cons, List.cons_append,
      ← List.map_append, List.takeWhile_append_dropWhile]

/-- The blocks of raw lines hold the trimmed lines that are not blank, in order. -/
theorem preorderAll_ofLines (lines : List Text) :
    preorderAll (ofLines lines) = (lines.map Text.trim).filter fun line => !line.isEmpty := by
  rw [ofLines, preorderAll_forest, entries]
  induction lines with
  | nil => rfl
  | cons line rest ih =>
    simp only [List.map_cons, List.filter_cons]
    split
    · rw [List.map_cons, ih]
    · exact ih

/-! ### Lines with their depths -/

mutual

/-- The lines of a block, its own first, each with its depth. -/
def outlined (depth : Nat) : Block → List (Nat × Text)
  | node line children => (depth, line) :: outlinedAll (depth + 1) children

/-- The lines of blocks one after the other, each with its depth. -/
def outlinedAll (depth : Nat) : List Block → List (Nat × Text)
  | [] => []
  | block :: rest => outlined depth block ++ outlinedAll depth rest

end

mutual

theorem outlined_lines (depth : Nat) :
    ∀ block : Block, (outlined depth block).map Prod.snd = preorder block
  | node line children => by
    rw [outlined, preorder, List.map_cons, outlinedAll_lines]

theorem outlinedAll_lines (depth : Nat) :
    ∀ blocks : List Block, (outlinedAll depth blocks).map Prod.snd = preorderAll blocks
  | [] => by rw [outlinedAll, preorderAll, List.map_nil]
  | block :: rest => by
    rw [outlinedAll, preorderAll, List.map_append, outlined_lines, outlinedAll_lines]

end

mutual

theorem le_of_mem_outlined (depth : Nat) :
    ∀ block : Block, ∀ entry ∈ outlined depth block, depth ≤ entry.1
  | node line children, entry, member => by
    rw [outlined, List.mem_cons] at member
    rcases member with rfl | under
    · exact Nat.le_refl depth
    · exact Nat.le_of_succ_le (le_of_mem_outlinedAll (depth + 1) children entry under)

/-- Nothing is nested less deep than the blocks themselves. -/
theorem le_of_mem_outlinedAll (depth : Nat) :
    ∀ blocks : List Block, ∀ entry ∈ outlinedAll depth blocks, depth ≤ entry.1
  | [], entry, member => by
    rw [outlinedAll] at member
    cases member
  | block :: rest, entry, member => by
    rw [outlinedAll, List.mem_append] at member
    rcases member with inside | later
    · exact le_of_mem_outlined depth block entry inside
    · exact le_of_mem_outlinedAll depth rest entry later

end

/-- The first line of blocks is as deep as the blocks are. -/
theorem outlinedAll_head (depth : Nat) (blocks : List Block) :
    ∀ entry, (outlinedAll depth blocks).head? = some entry → entry.1 = depth := by
  intro entry first
  cases blocks with
  | nil =>
    rw [outlinedAll] at first
    cases first
  | cons block rest =>
    obtain ⟨line, children⟩ := block
    rw [outlinedAll, outlined, List.cons_append, List.head?_cons, Option.some.injEq] at first
    rw [← first]

/-- What follows a line and is indented deeper is what stands under it. -/
theorem forest_cons_append {indent : Nat} {line : Text} {under after : List (Nat × Text)}
    (deeper : ∀ entry ∈ under, indent < entry.1)
    (ends : ∀ entry, after.head? = some entry → entry.1 ≤ indent) :
    forest ((indent, line) :: (under ++ after)) = node line (forest under) :: forest after := by
  have inside : ∀ entry ∈ under, decide (indent < entry.1) = true := fun entry member =>
    decide_eq_true (deeper entry member)
  have stops : after.takeWhile (fun entry => decide (indent < entry.1)) = []
      ∧ after.dropWhile (fun entry => decide (indent < entry.1)) = after := by
    cases after with
    | nil => exact ⟨rfl, rfl⟩
    | cons entry rest =>
      have here : ¬ decide (indent < entry.1) = true := by
        rw [decide_eq_true_eq]
        exact Nat.not_lt.mpr (ends entry rfl)
      exact ⟨List.takeWhile_cons_of_neg here, List.dropWhile_cons_of_neg here⟩
  rw [forest, List.takeWhile_append_of_pos inside, List.dropWhile_append_of_pos inside, stops.1,
    stops.2, List.append_nil]

/-- **Blocks are got back from their lines**, where deeper lines are indented more. -/
theorem forest_outlined {indent : Nat → Nat}
    (increasing : ∀ first second, first < second → indent first < indent second) :
    ∀ (depth : Nat) (blocks : List Block),
      forest ((outlinedAll depth blocks).map fun entry => (indent entry.1, entry.2)) = blocks
  | depth, [] => by rw [outlinedAll, List.map_nil, forest]
  | depth, node line children :: rest => by
    rw [outlinedAll, outlined, List.cons_append, List.map_cons, List.map_append,
      forest_cons_append, forest_outlined increasing (depth + 1) children,
      forest_outlined increasing depth rest]
    · intro entry member
      obtain ⟨own, inside, rfl⟩ := List.mem_map.mp member
      exact increasing _ _ (le_of_mem_outlinedAll (depth + 1) children own inside)
    · intro entry first
      rw [List.head?_map] at first
      obtain ⟨own, here, rfl⟩ := Option.map_eq_some_iff.mp first
      exact Nat.le_of_eq (congrArg indent (outlinedAll_head depth rest own here))

end FeedFilter.Block
