/-
**The lines that lines are nested under.**

A line stands under the nearest earlier line that is indented less. So what stands under a line is
the run of deeper lines behind it: it begins with the next line and ends before the first one that
is not deeper.

* `Block.parents`: for each line of some blocks, in document order, the place of the line above it.
* `lastBelow?`: the last of some indentations that is smaller than another one.
* `parentsAll_forest`: above each line of a forest stands the nearest earlier one that is indented
  less.
* `isUnder_iff`: what stands under a line.
* `eq_of_parents`: blocks are known by their lines and by what these stand under.
* `eq_ofLines_iff`: what the blocks of raw lines are.
-/

import FeedFilter.Proofs.Block.Preorder
import Mathlib.Logic.Relation

namespace FeedFilter.Block

mutual

/-- For each line of a block the place of the line above it. The block begins at a place. -/
def parentsOf (above : Option Nat) (place : Nat) : Block → List (Option Nat)
  | node _ children => above :: parentsAll (some place) (place + 1) children

/-- For each line of blocks one after the other the place of the line above it. -/
def parentsAll (above : Option Nat) (place : Nat) : List Block → List (Option Nat)
  | [] => []
  | block :: rest =>
    parentsOf above place block ++ parentsAll above (place + (preorder block).length) rest

end

/-- For each line of some blocks, in document order, the place of the line it is nested under. -/
def parents (blocks : List Block) : List (Option Nat) := parentsAll none 0 blocks

mutual

theorem length_parentsOf (above : Option Nat) (place : Nat) :
    ∀ block : Block, (parentsOf above place block).length = (preorder block).length
  | node line children => by
    rw [parentsOf, preorder, List.length_cons, List.length_cons, length_parentsAll]

theorem length_parentsAll (above : Option Nat) (place : Nat) :
    ∀ blocks : List Block, (parentsAll above place blocks).length = (preorderAll blocks).length
  | [] => by rw [parentsAll, preorderAll, List.length_nil, List.length_nil]
  | block :: rest => by
    rw [parentsAll, preorderAll, List.length_append, List.length_append, length_parentsOf,
      length_parentsAll]

end

/-! ### The nearest earlier line that is indented less -/

/-- The place of the last of some indentations that is smaller than another one. -/
def lastBelow? (indent : Nat) : List Nat → Option Nat
  | [] => none
  | first :: rest =>
    match lastBelow? indent rest with
    | some place => some (place + 1)
    | none => if first < indent then some 0 else none

theorem lastBelow?_eq_none_iff {indent : Nat} {earlier : List Nat} :
    lastBelow? indent earlier = none ↔ ∀ other ∈ earlier, indent ≤ other := by
  induction earlier with
  | nil => exact iff_of_true rfl fun _ member => nomatch member
  | cons first rest ih =>
    rw [lastBelow?, List.forall_mem_cons, ← ih]
    cases lastBelow? indent rest with
    | some place => simp
    | none => simp

theorem lastBelow?_append (indent : Nat) (first second : List Nat) :
    lastBelow? indent (first ++ second)
      = ((lastBelow? indent second).map (first.length + ·)).or (lastBelow? indent first) := by
  induction first with
  | nil => cases found : lastBelow? indent second <;> simp [lastBelow?, found]
  | cons other rest ih =>
    rw [List.cons_append, lastBelow?, ih, lastBelow?]
    cases lastBelow? indent second with
    | none => rfl
    | some place => simp; omega

/-- The last smaller indentation is smaller, and none after it is. -/
theorem lastBelow?_eq_some_iff {indent place : Nat} {earlier : List Nat} :
    lastBelow? indent earlier = some place
      ↔ (∃ other, earlier[place]? = some other ∧ other < indent)
        ∧ ∀ between other, place < between → earlier[between]? = some other → indent ≤ other := by
  induction earlier generalizing place with
  | nil => simp [lastBelow?]
  | cons first rest ih =>
    cases place with
    | zero =>
      rw [lastBelow?]
      constructor
      · intro found
        split at found
        · cases found
        · next none =>
          split at found
          · next less =>
            refine ⟨⟨first, rfl, less⟩, fun between other later here => ?_⟩
            obtain ⟨before, rfl⟩ := Nat.exists_eq_succ_of_ne_zero (Nat.ne_of_gt later)
            exact lastBelow?_eq_none_iff.mp none other (List.mem_of_getElem? here)
          · cases found
      · rintro ⟨⟨other, here, less⟩, after⟩
        cases here
        have none : lastBelow? indent rest = none := by
          refine lastBelow?_eq_none_iff.mpr fun other member => ?_
          obtain ⟨between, there⟩ := List.mem_iff_getElem?.mp member
          exact after (between + 1) other (Nat.zero_lt_succ _) there
        simp only [none, if_pos less]
    | succ place =>
      have shifted : (∀ between other, place + 1 < between → (first :: rest)[between]? = some other
            → indent ≤ other)
          ↔ ∀ between other, place < between → rest[between]? = some other → indent ≤ other := by
        constructor
        · intro after between other later here
          exact after (between + 1) other (Nat.succ_lt_succ later) here
        · intro after between other later here
          obtain ⟨before, rfl⟩ := Nat.exists_eq_succ_of_ne_zero (Nat.ne_zero_of_lt later)
          exact after before other (Nat.lt_of_succ_lt_succ later) here
      rw [List.getElem?_cons_succ, shifted, ← ih, lastBelow?]
      cases lastBelow? indent rest with
      | some later => simp
      | none =>
        simp only [reduceCtorEq, iff_false]
        split <;> simp

/-! ### Lines of a forest -/

/-- Lines are taken block by block: a line, the deeper lines behind it, and the others. -/
theorem blockwise {motive : List (Nat × Text) → Prop} (nil : motive [])
    (block : ∀ indent line under after, (∀ entry ∈ under, indent < entry.1) →
      (∀ entry, after.head? = some entry → entry.1 ≤ indent) → motive under → motive after →
      motive ((indent, line) :: (under ++ after)))
    (entries : List (Nat × Text)) : motive entries := by
  induction entries using forest.induct with
  | case1 => exact nil
  | case2 indent line rest under after =>
    rw [← List.takeWhile_append_dropWhile
      (p := fun entry : Nat × Text => decide (indent < entry.1)) (l := rest)]
    refine block indent line _ _ (fun entry member => ?_) (fun entry first => ?_) under after
    · exact of_decide_eq_true (List.all_eq_true.mp List.all_takeWhile entry member)
    · have stops := List.head?_dropWhile_not (fun entry : Nat × Text => decide (indent < entry.1))
        rest
      rw [first] at stops
      simpa using stops

/-- **Above each line of a forest stands the nearest earlier line that is indented less**, and what
stands above the whole forest where there is none. -/
theorem parentsAll_forest (entries : List (Nat × Text)) (above : Option Nat) (place : Nat) :
    ∀ offset entry, entries[offset]? = some entry →
      (parentsAll above place (forest entries))[offset]?
        = some ((lastBelow? entry.1 ((entries.take offset).map Prod.fst)).elim above
          fun outer => some (place + outer)) := by
  induction entries using blockwise generalizing above place with
  | nil => exact fun offset entry here => nomatch here
  | block indent line under after deeper ends inside outside =>
    intro offset entry here
    have length : (parentsAll (some place) (place + 1) (forest under)).length = under.length := by
      rw [length_parentsAll, preorderAll_forest, List.length_map]
    rw [forest_cons_append deeper ends, parentsAll, parentsOf, preorder, List.length_cons,
      preorderAll_forest, List.length_map, List.cons_append]
    cases offset with
    | zero =>
      cases here
      rfl
    | succ offset =>
      rw [List.getElem?_cons_succ] at here ⊢
      rw [List.take_succ_cons, List.map_cons]
      rcases Nat.lt_or_ge offset under.length with within | beyond
      · -- A line under the first one, which is the nearest if none of those under it is.
        rw [List.getElem?_append_left within] at here
        have less := deeper entry (List.mem_of_getElem? here)
        rw [List.getElem?_append_left (length ▸ within), inside _ _ offset entry here,
          List.take_append_of_le_length (Nat.le_of_lt within), lastBelow?]
        cases lastBelow? entry.1 ((under.take offset).map Prod.fst) with
        | none => simp [less]
        | some found => simp; omega
      · -- A line behind them: none of them is indented less, nor is the first one.
        obtain ⟨further, rfl⟩ := Nat.exists_eq_add_of_le beyond
        rw [List.getElem?_append_right (Nat.le_add_right _ _), Nat.add_sub_cancel_left] at here
        rw [List.getElem?_append_right (length ▸ Nat.le_add_right _ _), length,
          Nat.add_sub_cancel_left, outside _ _ further entry here, List.take_length_add_append,
          List.map_append, ← List.cons_append, lastBelow?_append]
        cases found : lastBelow? entry.1 ((after.take further).map Prod.fst) with
        | some last => simp; omega
        | none =>
          have least : entry.1 ≤ indent := by
            cases after with
            | nil => cases here
            | cons head tail =>
              cases further with
              | zero => exact ends entry here
              | succ further =>
                rw [List.take_succ_cons, List.map_cons, lastBelow?_eq_none_iff] at found
                exact Nat.le_trans (found head.1 List.mem_cons_self) (ends head rfl)
          have passed : lastBelow? entry.1 (indent :: under.map Prod.fst) = none := by
            refine lastBelow?_eq_none_iff.mpr (List.forall_mem_cons.mpr ⟨least, ?_⟩)
            intro other member
            obtain ⟨inner, there, rfl⟩ := List.mem_map.mp member
            exact Nat.le_trans least (Nat.le_of_lt (deeper inner there))
          simp [passed]

/-! ### Lines under lines -/

/-- Whether a line stands directly under another one, both known by their places. -/
def IsChild (blocks : List Block) (inner outer : Nat) : Prop :=
  (parents blocks)[inner]? = some (some outer)

/-- Whether a line stands under no other. -/
def IsTop (blocks : List Block) (place : Nat) : Prop := (parents blocks)[place]? = some none

/-- Whether a line is nested under another one, directly or not. -/
def IsUnder (blocks : List Block) : Nat → Nat → Prop := Relation.TransGen (IsChild blocks)

/-- Whether a place is the nearest one before another that is indented less. -/
structure Encloses (indent : Nat → Nat) (outer inner : Nat) : Prop where
  before : outer < inner
  less : indent outer < indent inner
  between : ∀ place, outer < place → place < inner → indent inner ≤ indent place

/-- The indentation of the line at a place, among the lines that are not blank. -/
def indentAt (lines : List Text) (place : Nat) : Nat := (entries lines)[place]?.elim 0 Prod.fst

variable {lines : List Text} {place outer inner : Nat}

theorem indentAt_eq {entry : Nat × Text} (here : (entries lines)[place]? = some entry) :
    indentAt lines place = entry.1 := by
  rw [indentAt, here]
  rfl

/-- What stands above a line that is not blank. -/
theorem parents_ofLines (inside : place < (entries lines).length) :
    (parents (ofLines lines))[place]?
      = some (lastBelow? (indentAt lines place) (((entries lines).take place).map Prod.fst)) := by
  have here := List.getElem?_eq_getElem inside
  rw [parents, ofLines, parentsAll_forest _ _ _ _ _ here, indentAt_eq here]
  cases lastBelow? (entries lines)[place].1 (((entries lines).take place).map Prod.fst) <;> simp

theorem length_parents_ofLines (lines : List Text) :
    (parents (ofLines lines)).length = (entries lines).length := by
  rw [parents, ofLines, length_parentsAll, preorderAll_forest, List.length_map]

/-- The indentations of the lines before a place. -/
theorem getElem?_take_entries {earlier other : Nat} (inside : place < (entries lines).length) :
    (((entries lines).take place).map Prod.fst)[earlier]? = some other
      ↔ earlier < place ∧ indentAt lines earlier = other := by
  rw [List.getElem?_map, List.getElem?_take]
  by_cases before : earlier < place
  · have there := List.getElem?_eq_getElem (Nat.lt_trans before inside)
    rw [if_pos before, there, indentAt_eq there]
    simp [before]
  · simp [before]

/-- A line stands directly under the nearest earlier one that is indented less. -/
theorem isChild_iff : IsChild (ofLines lines) inner outer
    ↔ inner < (entries lines).length ∧ Encloses (indentAt lines) outer inner := by
  rcases Nat.lt_or_ge inner (entries lines).length with inside | beyond
  · rw [IsChild, parents_ofLines inside, Option.some.injEq, lastBelow?_eq_some_iff]
    simp only [getElem?_take_entries inside]
    constructor
    · rintro ⟨⟨indent, ⟨before, rfl⟩, less⟩, after⟩
      exact ⟨inside, before, less, fun place later earlier => after place _ later ⟨earlier, rfl⟩⟩
    · rintro ⟨-, before, less, between⟩
      refine ⟨⟨_, ⟨before, rfl⟩, less⟩, ?_⟩
      rintro place _ later ⟨earlier, rfl⟩
      exact between place later earlier
  · rw [IsChild, List.getElem?_eq_none (length_parents_ofLines lines ▸ beyond)]
    exact iff_of_false nofun fun found => Nat.not_lt.mpr beyond found.1

/-- A line stands under no other if no earlier one is indented less. -/
theorem isTop_iff : IsTop (ofLines lines) place
    ↔ place < (entries lines).length
      ∧ ∀ earlier < place, indentAt lines place ≤ indentAt lines earlier := by
  rcases Nat.lt_or_ge place (entries lines).length with inside | beyond
  · rw [IsTop, parents_ofLines inside, Option.some.injEq, lastBelow?_eq_none_iff]
    simp only [List.mem_iff_getElem?, getElem?_take_entries inside, inside, true_and]
    constructor
    · intro least earlier before
      exact least _ ⟨earlier, before, rfl⟩
    · rintro least _ ⟨earlier, before, rfl⟩
      exact least earlier before
  · rw [IsTop, List.getElem?_eq_none (length_parents_ofLines lines ▸ beyond)]
    exact iff_of_false nofun fun found => Nat.not_lt.mpr beyond found.1

/-- A line stands under no other, or directly under one. -/
theorem isTop_or_isChild {blocks : List Block} (inside : place < (parents blocks).length) :
    IsTop blocks place ∨ ∃ outer, IsChild blocks place outer := by
  have here := List.getElem?_eq_getElem inside
  cases found : (parents blocks)[place] with
  | none => exact .inl (here.trans (congrArg some found))
  | some outer => exact .inr ⟨outer, here.trans (congrArg some found)⟩

/-- **What stands under a line is the run of deeper lines behind it.** -/
theorem isUnder_iff : IsUnder (ofLines lines) inner outer
    ↔ outer < inner ∧ inner < (entries lines).length
      ∧ ∀ place, outer < place → place ≤ inner → indentAt lines outer < indentAt lines place := by
  constructor
  · intro under
    induction under with
    | single child =>
      obtain ⟨inside, before, less, between⟩ := isChild_iff.mp child
      refine ⟨before, inside, fun place later earlier => ?_⟩
      rcases Nat.lt_or_eq_of_le earlier with within | rfl
      · exact Nat.lt_of_lt_of_le less (between place later within)
      · exact less
    | @tail middle outer _ child ih =>
      obtain ⟨before, inside, deeper⟩ := ih
      obtain ⟨-, first, less, between⟩ := isChild_iff.mp child
      refine ⟨Nat.lt_trans first before, inside, fun place later earlier => ?_⟩
      rcases Nat.lt_trichotomy place middle with within | rfl | behind
      · exact Nat.lt_of_lt_of_le less (between place later within)
      · exact less
      · exact Nat.lt_trans less (deeper place behind earlier)
  · rintro ⟨before, inside, deeper⟩
    -- The line that the inner one stands under directly does not come before the outer one.
    induction inner using Nat.strongRecOn with
    | ind inner ih =>
      have less := deeper inner before (Nat.le_refl inner)
      rcases isTop_or_isChild (length_parents_ofLines lines ▸ inside) with top | ⟨parent, child⟩
      · exact absurd less (Nat.not_lt.mpr ((isTop_iff.mp top).2 outer before))
      · obtain ⟨-, first, -, between⟩ := isChild_iff.mp child
        rcases Nat.lt_trichotomy outer parent with later | rfl | earlier
        · refine .head child (ih parent first later (Nat.lt_trans first inside) ?_)
          intro place behind within
          exact deeper place behind (Nat.le_trans within (Nat.le_of_lt first))
        · exact .single child
        · exact absurd less (Nat.not_lt.mpr (between outer earlier before))

/-- Of two lines under the same line the later one is not indented deeper. -/
theorem indentAt_le_of_siblings {first second : Nat} (before : first < second)
    (inside : second < (entries lines).length)
    (same : (parents (ofLines lines))[first]? = (parents (ofLines lines))[second]?) :
    indentAt lines second ≤ indentAt lines first := by
  rcases isTop_or_isChild (length_parents_ofLines lines ▸ inside) with top | ⟨outer, child⟩
  · exact (isTop_iff.mp top).2 first before
  · have elder : IsChild (ofLines lines) first outer := same.trans child
    exact (isChild_iff.mp child).2.between first (isChild_iff.mp elder).2.before before

/-! ### Blocks known by their lines -/

theorem length_outlined (depth : Nat) (block : Block) :
    (outlined depth block).length = (preorder block).length := by
  rw [← outlined_lines depth block, List.length_map]

mutual

theorem depth_outlined (above : Option Nat) (place depth : Nat) :
    ∀ block : Block, ∀ offset entry, (outlined depth block)[offset]? = some entry →
      ((parentsOf above place block)[offset]? = some above ∧ entry.1 = depth)
        ∨ ∃ earlier other, earlier < offset
          ∧ (parentsOf above place block)[offset]? = some (some (place + earlier))
          ∧ (outlined depth block)[earlier]? = some other ∧ entry.1 = other.1 + 1
  | node line children, 0, entry, here => by
    rw [outlined] at here
    cases here
    rw [parentsOf]
    exact .inl ⟨rfl, rfl⟩
  | node line children, offset + 1, entry, here => by
    rw [outlined, List.getElem?_cons_succ] at here
    rw [outlined, parentsOf, List.getElem?_cons_succ]
    right
    obtain ⟨parent, depth⟩ | ⟨earlier, other, before, parent, there, depth⟩ :=
      depth_outlinedAll (some place) (place + 1) (depth + 1) children offset entry here
    · exact ⟨0, _, Nat.zero_lt_succ _, parent, rfl, depth⟩
    · refine ⟨earlier + 1, other, Nat.succ_lt_succ before, ?_, there, depth⟩
      rw [parent, Nat.add_assoc, Nat.add_comm 1]

/-- A line is one level deeper than the line above it. -/
theorem depth_outlinedAll (above : Option Nat) (place depth : Nat) :
    ∀ blocks : List Block, ∀ offset entry, (outlinedAll depth blocks)[offset]? = some entry →
      ((parentsAll above place blocks)[offset]? = some above ∧ entry.1 = depth)
        ∨ ∃ earlier other, earlier < offset
          ∧ (parentsAll above place blocks)[offset]? = some (some (place + earlier))
          ∧ (outlinedAll depth blocks)[earlier]? = some other ∧ entry.1 = other.1 + 1
  | [], offset, entry, here => by
    rw [outlinedAll] at here
    cases here
  | block :: rest, offset, entry, here => by
    rw [outlinedAll] at here ⊢
    rw [parentsAll]
    rcases Nat.lt_or_ge offset (preorder block).length with within | beyond
    · rw [List.getElem?_append_left (length_outlined depth block ▸ within)] at here
      rw [List.getElem?_append_left (length_parentsOf above place block ▸ within)]
      refine (depth_outlined above place depth block offset entry here).imp_right ?_
      rintro ⟨earlier, other, before, parent, there, depth⟩
      refine ⟨earlier, other, before, parent, ?_, depth⟩
      rw [List.getElem?_append_left, there]
      exact length_outlined _ block ▸ Nat.lt_trans before within
    · obtain ⟨further, rfl⟩ := Nat.exists_eq_add_of_le beyond
      rw [List.getElem?_append_right (length_outlined depth block ▸ beyond), length_outlined,
        Nat.add_sub_cancel_left] at here
      rw [List.getElem?_append_right (length_parentsOf above place block ▸ beyond),
        length_parentsOf, Nat.add_sub_cancel_left]
      refine (depth_outlinedAll above _ depth rest further entry here).imp_right ?_
      rintro ⟨earlier, other, before, parent, there, depth⟩
      refine ⟨(preorder block).length + earlier, other, Nat.add_lt_add_left before _, ?_, ?_, depth⟩
      · rw [parent, Nat.add_assoc]
      · rw [List.getElem?_append_right (length_outlined _ block ▸ Nat.le_add_right _ _),
          length_outlined, Nat.add_sub_cancel_left, there]

end

/-- **Blocks are known by their lines and by what these stand under.** -/
theorem eq_of_parents {first second : List Block} (lines : preorderAll first = preorderAll second)
    (same : parents first = parents second) : first = second := by
  have length : (outlinedAll 0 first).length = (outlinedAll 0 second).length := by
    have equal := congrArg List.length lines
    rwa [← outlinedAll_lines 0, ← outlinedAll_lines 0, List.length_map, List.length_map] at equal
  -- By induction along the document a line has the same depth in both.
  have depths : ∀ (offset : Nat) (one two : Nat × Text), (outlinedAll 0 first)[offset]? = some one →
      (outlinedAll 0 second)[offset]? = some two → one.1 = two.1 := by
    intro offset
    induction offset using Nat.strongRecOn with
    | ind offset ih =>
      intro one two here there
      have upper := depth_outlinedAll none 0 0 first offset one here
      have lower := depth_outlinedAll none 0 0 second offset two there
      rw [← parents, same] at upper
      rw [← parents] at lower
      obtain ⟨top, depth⟩ | ⟨earlier, other, before, parent, above, depth⟩ := upper
      · obtain ⟨-, other⟩ | ⟨_, _, _, parent, -⟩ := lower
        · rw [depth, other]
        · rw [top] at parent
          cases parent
      · obtain ⟨top, -⟩ | ⟨again, another, -, parentToo, aboveToo, depthToo⟩ := lower
        · rw [parent] at top
          cases top
        · have equal : earlier = again := by
            rw [parent] at parentToo
            simpa using parentToo
          subst equal
          rw [depth, depthToo, ih earlier before other another above aboveToo]
  have outlines : outlinedAll 0 first = outlinedAll 0 second := by
    refine List.ext_getElem length fun offset inside insideToo => Prod.ext ?_ ?_
    · exact depths offset _ _ (List.getElem?_eq_getElem inside) (List.getElem?_eq_getElem insideToo)
    · have equal := congrArg (·[offset]?) lines
      simp only [← outlinedAll_lines 0, List.getElem?_map, List.getElem?_eq_getElem inside,
        List.getElem?_eq_getElem insideToo, Option.map_some, Option.some.injEq] at equal
      exact equal
  have increasing : ∀ first second : Nat, first < second → id first < id second :=
    fun _ _ less => less
  rw [← forest_outlined increasing 0 first, ← forest_outlined increasing 0 second, outlines]

/-! ### The blocks of raw lines -/

/-- What is asked of the blocks of raw lines. Their lines are known by their places. -/
structure Nests (lines : List Text) (blocks : List Block) : Prop where
  inOrder : preorderAll blocks = (lines.map Text.trim).filter fun line => !line.isEmpty
  child : ∀ inner outer, IsChild blocks inner outer
    ↔ inner < (preorderAll blocks).length ∧ Encloses (indentAt lines) outer inner
  top : ∀ place, IsTop blocks place ↔ place < (preorderAll blocks).length
    ∧ ∀ earlier < place, indentAt lines place ≤ indentAt lines earlier
  deeper : ∀ inner outer, IsUnder blocks inner outer →
    indentAt lines outer < indentAt lines inner
  siblings : ∀ first second, first < second → second < (preorderAll blocks).length →
    (parents blocks)[first]? = (parents blocks)[second]? →
    indentAt lines second ≤ indentAt lines first
  contiguous : ∀ inner outer, IsUnder blocks inner outer → outer < inner
    ∧ ∀ place, outer < place → place ≤ inner → IsUnder blocks place outer

/-- **The blocks of raw lines** are those in which the lines that are not blank stand trimmed and in
order, each under the nearest earlier one that is indented less. -/
theorem eq_ofLines_iff (blocks : List Block) : blocks = ofLines lines ↔ Nests lines blocks := by
  have count : (preorderAll (ofLines lines)).length = (entries lines).length := by
    rw [ofLines, preorderAll_forest, List.length_map]
  constructor
  · rintro rfl
    refine ⟨preorderAll_ofLines lines, fun inner outer => count ▸ isChild_iff,
      fun place => count ▸ isTop_iff, fun inner outer under => ?_,
      fun first second before inside => indentAt_le_of_siblings before (count ▸ inside),
      fun inner outer under => ?_⟩
    · obtain ⟨before, -, deeper⟩ := isUnder_iff.mp under
      exact deeper inner before (Nat.le_refl inner)
    · obtain ⟨before, inside, deeper⟩ := isUnder_iff.mp under
      refine ⟨before, fun place later earlier => isUnder_iff.mpr ⟨later, ?_, ?_⟩⟩
      · exact Nat.lt_of_le_of_lt earlier inside
      · exact fun other behind within => deeper other behind (Nat.le_trans within earlier)
  · intro nests
    have order := nests.inOrder.trans (preorderAll_ofLines lines).symm
    have size : (preorderAll blocks).length = (entries lines).length := by rw [order, count]
    refine eq_of_parents order (List.ext_getElem? fun place => Option.ext fun above => ?_)
    cases above with
    | none => exact (nests.top place).trans (size ▸ isTop_iff.symm)
    | some outer => exact (nests.child place outer).trans (size ▸ isChild_iff.symm)

example : parents (ofLines [['a'], [' ', ' ', 'b'], [' ', ' ', ' ', 'c'], [], [' ', 'd'], ['e']])
    = [none, some 0, some 1, some 0, none] := by decide +kernel

end FeedFilter.Block
