/-
**The pattern of a document is nested as its lines are.**

Evaluation hardly shows how the blocks of a pattern are nested, so it would not show either if a
line that is left out took what is under it along, or lifted it. It does neither: the patterns of
blocks follow the blocks one by one, and what they have in common is proved by induction on that.

* `Outline.Mirrors`: the patterns that mirror blocks.
* `Mirrors.unique`, `Outline.mirrors_ofForest`: blocks have one mirror, and it is their outline.
* `Mirrors.leavesAtAll`, `Mirrors.nestingAll`: how deep the leaves of a mirror are, and how deep its
  blocks are nested.
* `Outline.ofForest_mirrors`: all of it for blocks whose lines settle.
-/

import FeedFilter.Proofs.Document.Flattening

namespace FeedFilter

/-! ### Depths in a pattern -/

namespace Pattern

mutual

/-- The leaves of a pattern in order, each with the number of blocks around it. -/
def leavesAt (depth : Nat) : Pattern → List (Nat × Pattern)
  | block children => leavesAtAll (depth + 1) children
  | leaf => [(depth, leaf)]

/-- The leaves of patterns one after the other, each with the number of blocks around it. -/
def leavesAtAll (depth : Nat) : List Pattern → List (Nat × Pattern)
  | [] => []
  | first :: rest => leavesAt depth first ++ leavesAtAll depth rest

end

mutual

/-- How deep the blocks of a pattern are nested. -/
def nesting : Pattern → Nat
  | block children => nestingAll children + 1
  | keep inner => nesting inner
  | rule _ _ => 0
  | unknown _ => 0

/-- How deep the blocks of some patterns are nested. -/
def nestingAll : List Pattern → Nat
  | [] => 0
  | first :: rest => max (nesting first) (nestingAll rest)

end

/-- Whether nothing but a rule is ever kept. -/
inductive KeepsRulesOnly : Pattern → Prop
  | rule {subject : Subject} {matcher : Matcher} : KeepsRulesOnly (rule subject matcher)
  | keep {subject : Subject} {matcher : Matcher} : KeepsRulesOnly (keep (rule subject matcher))
  | block {children : List Pattern} (inner : ∀ child ∈ children, KeepsRulesOnly child) :
    KeepsRulesOnly (block children)

theorem leavesAtAll_append (depth : Nat) (first second : List Pattern) :
    leavesAtAll depth (first ++ second) = leavesAtAll depth first ++ leavesAtAll depth second := by
  induction first with
  | nil => rw [leavesAtAll]; rfl
  | cons pattern rest ih => rw [List.cons_append, leavesAtAll, leavesAtAll, ih, List.append_assoc]

theorem nestingAll_append (first second : List Pattern) :
    nestingAll (first ++ second) = max (nestingAll first) (nestingAll second) := by
  induction first with
  | nil => rw [nestingAll, Nat.zero_max]; rfl
  | cons pattern rest ih => rw [List.cons_append, nestingAll, nestingAll, ih, Nat.max_assoc]

variable (directive : Directive)

theorem leavesAt_directive (depth : Nat) :
    leavesAt depth directive.pattern = [(depth, directive.pattern)] := by
  unfold Directive.pattern
  cases directive.keeps with
  | true => rw [if_pos rfl, leavesAt]; exact fun children equal => nomatch equal
  | false => rw [if_neg Bool.false_ne_true, leavesAt]; exact fun children equal => nomatch equal

theorem nesting_directive : nesting directive.pattern = 0 := by
  unfold Directive.pattern
  cases directive.keeps with
  | true => rw [if_pos rfl, nesting, nesting]
  | false => rw [if_neg Bool.false_ne_true, nesting]

theorem keepsRulesOnly_directive : KeepsRulesOnly directive.pattern := by
  unfold Directive.pattern
  cases directive.keeps with
  | true => exact .keep
  | false => exact .rule

end Pattern

namespace Block

mutual

/-- How many lines stand above each other in a block, its own among them. -/
def height : Block → Nat
  | node _ children => heightAll children + 1

/-- How many lines stand above each other in some blocks. -/
def heightAll : List Block → Nat
  | [] => 0
  | block :: rest => max (height block) (heightAll rest)

end

end Block

/-- The leaf that a line with a depth gives, if it is a directive. -/
def Directive.leafAt? (entry : Nat × Text) : Option (Nat × Pattern) :=
  (Directive.compile entry.2).toOption.map fun directive => (entry.1, directive.pattern)

/-! ### Mirrors -/

namespace Outline

/-- What the line at the top of a block contributes: its directive, or nothing if it is none. -/
inductive Contributes (line : Text) : List Pattern → Prop
  | directive {directive : Directive} (compiled : Directive.compile line = .ok directive) :
    Contributes line [directive.pattern]
  | refused {error : DirectiveError} (refused : Directive.compile line = .error (.invalid error)) :
    Contributes line []

/-- **The patterns that mirror blocks**: in the order of the blocks, what the line of each block
contributes, and then, if the block has children, one block with the patterns that mirror them. -/
inductive Mirrors : List Block → List Pattern → Prop
  | nil : Mirrors [] []
  | leaf {line : Text} {rest : List Block} {own others : List Pattern}
    (contributes : Contributes line own) (after : Mirrors rest others) :
    Mirrors (.node line [] :: rest) (own ++ others)
  | parent {line : Text} {children rest : List Block} {own inner others : List Pattern}
    (contributes : Contributes line own) (filled : children ≠ []) (under : Mirrors children inner)
    (after : Mirrors rest others) :
    Mirrors (.node line children :: rest) (own ++ .block inner :: others)

theorem Contributes.unique {line : Text} {own other : List Pattern}
    (contributes : Contributes line own) (again : Contributes line other) : own = other := by
  cases contributes with
  | directive compiled =>
    cases again with
    | directive compiledToo =>
      cases compiled.symm.trans compiledToo
      rfl
    | refused refused => cases compiled.symm.trans refused
  | refused refused =>
    cases again with
    | directive compiled => cases refused.symm.trans compiled
    | refused _ => rfl

/-- Blocks have one mirror, so nothing else of their patterns is left open. -/
theorem Mirrors.unique {blocks : List Block} {patterns others : List Pattern}
    (mirrors : Mirrors blocks patterns) (again : Mirrors blocks others) : patterns = others := by
  induction mirrors generalizing others with
  | nil =>
    cases again
    rfl
  | leaf contributes after later =>
    cases again with
    | leaf contributesToo afterToo => rw [contributes.unique contributesToo, later afterToo]
    | parent _ filled => exact absurd rfl filled
  | parent contributes filled under after inside later =>
    cases again with
    | leaf => exact absurd rfl filled
    | parent contributesToo _ underToo afterToo =>
      rw [contributes.unique contributesToo, inside underToo, later afterToo]

theorem contributes_ofLine {line : Text} {outline : Outline}
    (compiled : ofLine line = .ok outline) : Contributes line outline.patterns := by
  rw [ofLine] at compiled
  split at compiled
  · next directive found =>
    cases compiled
    exact .directive found
  · next error found =>
    cases compiled
    exact .refused found
  · cases compiled

/-- What succeeds in two steps succeeds in the first one. -/
theorem exists_of_bind {First Second Failure : Type} {value : Except Failure First}
    {next : First → Except Failure Second} {result : Second}
    (succeeded : (value >>= next) = .ok result) :
    ∃ first, value = .ok first ∧ next first = .ok result := by
  cases value with
  | ok first => exact ⟨first, rfl, succeeded⟩
  | error failure => cases succeeded

/-- **An outline mirrors the blocks that it is of.** -/
theorem mirrors_ofForest : ∀ (blocks : List Block) (outline : Outline),
    ofForest blocks = .ok outline → Mirrors blocks outline.patterns
  | [], outline, compiled => by
    rw [ofForest] at compiled
    cases compiled
    exact .nil
  | .node line [] :: rest, outline, compiled => by
    rw [ofForest, ofBlock] at compiled
    obtain ⟨own, top, compiled⟩ := exists_of_bind compiled
    obtain ⟨others, after, compiled⟩ := exists_of_bind compiled
    cases compiled
    exact .leaf (contributes_ofLine top) (mirrors_ofForest rest others after)
  | .node line (child :: more) :: rest, outline, compiled => by
    rw [ofForest, ofBlock] at compiled
    obtain ⟨first, block, compiled⟩ := exists_of_bind compiled
    obtain ⟨own, top, block⟩ := exists_of_bind block
    obtain ⟨inner, under, block⟩ := exists_of_bind block
    obtain ⟨others, after, compiled⟩ := exists_of_bind compiled
    cases block
    cases compiled
    have mirrors := Mirrors.parent (contributes_ofLine top) (List.cons_ne_nil child more)
      (mirrors_ofForest (child :: more) inner under) (mirrors_ofForest rest others after)
    rwa [List.append_cons] at mirrors

/-! ### What a mirror has in common with the blocks -/

section Mirrors

variable {line : Text} {own patterns : List Pattern} {blocks : List Block}

theorem Contributes.leavesAtAll (contributes : Contributes line own) (depth : Nat) :
    Pattern.leavesAtAll depth own = [(depth, line)].filterMap Directive.leafAt? := by
  cases contributes with
  | directive compiled =>
    simp only [Pattern.leavesAtAll, Pattern.leavesAt_directive, List.append_nil,
      List.filterMap_cons, Directive.leafAt?, compiled, Except.toOption, Option.map_some,
      List.filterMap_nil]
  | refused refused =>
    simp only [Pattern.leavesAtAll, List.filterMap_cons, Directive.leafAt?, refused,
      Except.toOption, Option.map_none, List.filterMap_nil]

theorem Contributes.nestingAll (contributes : Contributes line own) :
    Pattern.nestingAll own = 0 := by
  cases contributes with
  | directive =>
    rw [Pattern.nestingAll, Pattern.nesting_directive, Pattern.nestingAll, Nat.max_self]
  | refused => rw [Pattern.nestingAll]

theorem Contributes.keepsRulesOnly (contributes : Contributes line own) :
    ∀ pattern ∈ own, pattern.KeepsRulesOnly := by
  cases contributes with
  | directive => exact List.forall_mem_singleton.mpr (Pattern.keepsRulesOnly_directive _)
  | refused => exact List.forall_mem_nil _

/-- **Leaves are as deep as the lines that they come from.** -/
theorem Mirrors.leavesAtAll (mirrors : Mirrors blocks patterns) : ∀ depth,
    Pattern.leavesAtAll depth patterns
      = (Block.outlinedAll depth blocks).filterMap Directive.leafAt? := by
  induction mirrors with
  | nil =>
    intro depth
    rw [Pattern.leavesAtAll, Block.outlinedAll, List.filterMap_nil]
  | leaf contributes after later =>
    intro depth
    rw [Pattern.leavesAtAll_append, contributes.leavesAtAll, later, Block.outlinedAll,
      Block.outlined, Block.outlinedAll, List.filterMap_append]
  | parent contributes filled under after inside later =>
    intro depth
    rw [Pattern.leavesAtAll_append, Pattern.leavesAtAll, Pattern.leavesAt, contributes.leavesAtAll,
      inside, later, ← List.filterMap_append, ← List.filterMap_append, Block.outlinedAll,
      Block.outlined]
    rfl

/-- **Blocks are nested as deep as lines stand above each other.** Patterns that mirror nothing are
in no block, and patterns that mirror roots without children are in none either. -/
theorem Mirrors.nestingAll (mirrors : Mirrors blocks patterns) :
    Pattern.nestingAll patterns = Block.heightAll blocks - 1 := by
  induction mirrors with
  | nil => rw [Pattern.nestingAll, Block.heightAll]
  | leaf contributes after later =>
    rw [Pattern.nestingAll_append, contributes.nestingAll, later, Block.heightAll, Block.height,
      Block.heightAll]
    omega
  | @parent line children rest own inner others contributes filled under after inside later =>
    have high : 0 < Block.heightAll children := by
      obtain ⟨⟨top, below⟩, more, rfl⟩ := List.exists_cons_of_ne_nil filled
      rw [Block.heightAll, Block.height]
      exact Nat.lt_of_lt_of_le (Nat.succ_pos _) (Nat.le_max_left ..)
    rw [Pattern.nestingAll_append, contributes.nestingAll, Pattern.nestingAll, Pattern.nesting,
      inside, later, Block.heightAll, Block.height]
    omega

theorem Mirrors.keepsRulesOnly (mirrors : Mirrors blocks patterns) :
    ∀ pattern ∈ patterns, pattern.KeepsRulesOnly := by
  induction mirrors with
  | nil => exact List.forall_mem_nil _
  | leaf contributes after later =>
    exact List.forall_mem_append.mpr ⟨contributes.keepsRulesOnly, later⟩
  | parent contributes filled under after inside later =>
    exact List.forall_mem_append.mpr
      ⟨contributes.keepsRulesOnly, List.forall_mem_cons.mpr ⟨.block inside, later⟩⟩

end Mirrors

/-- **The pattern of blocks mirrors them**, if each of their lines is a directive or is refused as
none, and nothing else does. Hence a leaf is in as many blocks as the depth of its line, where roots
have depth one; the blocks are nested as deep as the lines stand above each other, and once if there
are none; and nothing but a rule is ever kept. -/
theorem ofForest_mirrors (blocks : List Block)
    (settled : ∀ line ∈ Block.preorderAll blocks, Directive.IsSettled line) :
    ∃ outline patterns, ofForest blocks = .ok outline ∧ outline.root = .block patterns
      ∧ (∀ others, Mirrors blocks others ↔ others = patterns)
      ∧ outline.root.leavesAt 0 = (Block.outlinedAll 1 blocks).filterMap Directive.leafAt?
      ∧ outline.root.nesting = max 1 (Block.heightAll blocks)
      ∧ outline.root.KeepsRulesOnly := by
  obtain ⟨outline, compiled, -⟩ := ofForest_describes blocks settled
  have mirrors := mirrors_ofForest blocks outline compiled
  refine ⟨outline, outline.patterns, compiled, rfl, fun others => ⟨fun again => ?_, ?_⟩, ?_, ?_,
    .block mirrors.keepsRulesOnly⟩
  · exact again.unique mirrors
  · rintro rfl
    exact mirrors
  · rw [root, Pattern.leavesAt, mirrors.leavesAtAll]
  · rw [root, Pattern.nesting, mirrors.nestingAll]
    omega

/-- Blocks with lines that are left out above others and under another. -/
def leftOut : List Block :=
  [.node ['!'] [.node ['!'] [.node ['a'] []], .node ['b'] [.node ['/', 'a', '/', 'i', 'i'] []]],
    .node ['!', 'c'] []]

theorem ofForest_mirrors_leftOut :
    (∀ line ∈ Block.preorderAll leftOut, Directive.IsSettled line)
      ∧ ∃ outline, ofForest leftOut = .ok outline
        ∧ (outline.root.leavesAt 0).map Prod.fst = [3, 2, 1] ∧ outline.root.nesting = 3 := by
  have nothing : Directive.compile ['!'] = .error (.invalid .empty) := rfl
  have repeated : Directive.compile ['/', 'a', '/', 'i', 'i']
      = .error (.invalid (.repeatedFlag ['i', 'i'])) := rfl
  have word (line : Text) (plain : Matcher.literal? (Directive.Form.ofLine line).rest = none)
      (filled : (Directive.Form.ofLine line).rest ≠ []) :
      ∃ directive, Directive.compile line = .ok directive := by
    obtain ⟨regex, -, compiled⟩ := Matcher.compile_of_word plain filled
    exact ⟨_, by rw [Directive.compile_eq, compiled]; rfl⟩
  obtain ⟨first, a⟩ := word ['a'] (by decide) (by decide)
  obtain ⟨second, b⟩ := word ['b'] (by decide) (by decide)
  obtain ⟨third, c⟩ := word ['!', 'c'] (by decide) (by decide)
  have settled : ∀ line ∈ Block.preorderAll leftOut, Directive.IsSettled line := by
    intro line member
    have lines : Block.preorderAll leftOut
        = [['!'], ['!'], ['a'], ['b'], ['/', 'a', '/', 'i', 'i'], ['!', 'c']] := rfl
    rw [lines] at member
    simp only [List.mem_cons, List.not_mem_nil, or_false] at member
    rcases member with rfl | rfl | rfl | rfl | rfl | rfl
    · exact .inr ⟨_, nothing⟩
    · exact .inr ⟨_, nothing⟩
    · exact .inl ⟨_, a⟩
    · exact .inl ⟨_, b⟩
    · exact .inr ⟨_, repeated⟩
    · exact .inl ⟨_, c⟩
  obtain ⟨outline, patterns, compiled, -, -, leaves, nesting, -⟩ := ofForest_mirrors leftOut settled
  refine ⟨settled, outline, compiled, ?_, nesting⟩
  rw [leaves]
  simp only [leftOut, Block.outlinedAll, Block.outlined, List.cons_append, List.nil_append,
    List.append_nil, List.filterMap_cons, Directive.leafAt?, nothing, repeated, a, b, c,
    Except.toOption, Option.map_some, Option.map_none, List.filterMap_nil, List.map_cons,
    List.map_nil, Nat.reduceAdd]

end Outline

end FeedFilter
