/-
**What a tree of patterns says, leaf by leaf.**

Keeps and blocks may stand inside each other in any way. A tree is looked at leaf by leaf, in order,
up to the first leaf that succeeds or cannot be told. A leaf under an even number of keeps is for
hiding, one under an odd number for keeping, so all that matters of a leaf is what it is and how
many keeps are around it.

* `Leaf`: a leaf with the number of keeps around it; `Pattern.tips`: the leaves of a tree in order.
* `Tip.answer`: whether a leaf succeeds on an entry; `Tip.read?`: what it reads for that.
* `firstDecisive_tips`: a tree says what a scan of its leaves says.
* `evaluate_tips`: the verdict of the first leaf that succeeds, with all that is read for it; an
  entry cannot be judged just where a node that is no pattern comes first.
-/

import FeedFilter.Pattern
import FeedFilter.Proofs.Inspection

namespace FeedFilter

/-! ### Verdicts under keeps -/

namespace Verdict

/-- What is left of a verdict under a number of keeps, each of which turns it into its opposite. -/
def under (keeps : Nat) (verdict : Verdict) : Verdict :=
  if keeps % 2 = 0 then verdict else verdict.negate

theorem under_negate (keeps : Nat) (verdict : Verdict) :
    verdict.negate.under keeps = verdict.under (keeps + 1) := by
  unfold under
  by_cases even : keeps % 2 = 0
  · have odd : (keeps + 1) % 2 ≠ 0 := by omega
    rw [if_pos even, if_neg odd]
  · have next : (keeps + 1) % 2 = 0 := by omega
    rw [if_neg even, if_pos next, negate_negate]

theorem isDecisive_under (keeps : Nat) (verdict : Verdict) :
    (verdict.under keeps).isDecisive = verdict.isDecisive := by
  unfold under
  split
  · rfl
  · exact isDecisive_negate verdict

theorem undecided_under (keeps : Nat) : undecided.under keeps = undecided := ite_self _

end Verdict

/-! ### Leaves -/

/-- A leaf of a tree by itself: a rule, or a node that is no pattern. -/
inductive Tip where
  | rule (subject : Subject) (matcher : Matcher)
  | unknown (label : Text)

/-- A leaf of a tree, and how many keeps are around it. -/
structure Leaf where
  tip : Tip
  keeps : Nat

namespace Tip

/-- Whether a leaf succeeds on an entry, or why that cannot be told. A rule on the reactor does not
succeed where there is none. -/
def answer (entry : Entry) : Tip → Except Fault Bool
  | rule .text matcher => entry.text.map fun text => matcher.regex.isFoundIn (foldQuotes text)
  | rule .reactor matcher => entry.reactor.map fun name => name.any matcher.regex.isFoundIn
  | unknown label => .error (.unknownPattern label)

/-- What a leaf reads of an entry. -/
def read? : Tip → Option Capability
  | rule .text _ => some .text
  | rule .reactor _ => some .reactor
  | unknown _ => none

/-- The verdict of a leaf that succeeds. -/
def verdict : Tip → Verdict
  | rule subject matcher => .hit (some (Pattern.reason subject matcher))
  | unknown _ => .undecided

end Tip

namespace Leaf

/-- What a leaf reads of an entry. -/
def read? (leaf : Leaf) : Option Capability := leaf.tip.read?

/-- What a leaf says of an entry, with what it reads. -/
def inspect (entry : Entry) (leaf : Leaf) : Inspection Verdict where
  reads := leaf.read?.toList
  result := (leaf.tip.answer entry).map fun succeeds =>
    if succeeds then leaf.tip.verdict.under leaf.keeps else .undecided

theorem flatMap_reads (entry : Entry) (leaves : List Leaf) :
    (leaves.map (inspect entry)).flatMap Inspection.reads = leaves.filterMap read? := by
  rw [List.flatMap_map]
  induction leaves with
  | nil => rfl
  | cons leaf rest ih =>
    rw [List.flatMap_cons, ih, List.filterMap_cons]
    show leaf.read?.toList ++ _ = _
    cases leaf.read? <;> rfl

end Leaf

namespace Pattern

mutual

/-- The leaves of a tree in order, where a number of keeps is around it. -/
def tips (keeps : Nat) : Pattern → List Leaf
  | rule subject matcher => [⟨.rule subject matcher, keeps⟩]
  | keep inner => tips (keeps + 1) inner
  | block children => tipsAll keeps children
  | unknown label => [⟨.unknown label, keeps⟩]

/-- The leaves of trees one after the other. -/
def tipsAll (keeps : Nat) : List Pattern → List Leaf
  | [] => []
  | first :: rest => tips keeps first ++ tipsAll keeps rest

end

/-! ### A tree as a scan of its leaves -/

/-- A rule says what its leaf says. -/
theorem inspect_rule (entry : Entry) (keeps : Nat) (subject : Subject) (matcher : Matcher) :
    Leaf.inspect entry ⟨.rule subject matcher, keeps⟩
      = Verdict.under keeps <$> evaluate entry (rule subject matcher) := by
  have told (seen : Option Text) : (judge subject matcher seen).under keeps
      = if seen.any matcher.regex.isFoundIn then
          (Verdict.hit (some (reason subject matcher))).under keeps else .undecided := by
    unfold judge
    split
    · rfl
    · exact Verdict.undecided_under keeps
  rw [evaluate]
  cases subject with
  | text =>
    unfold Leaf.inspect Tip.answer look
    rcases entry.text with fault | text
    · rfl
    · exact congrArg (fun verdict => (⟨[.text], .ok verdict⟩ : Inspection Verdict))
        (told (some (foldQuotes text))).symm
  | reactor =>
    unfold Leaf.inspect Tip.answer look
    rcases entry.reactor with fault | name
    · rfl
    · exact congrArg (fun verdict => (⟨[.reactor], .ok verdict⟩ : Inspection Verdict))
        (told name).symm

/-- Going on from an undecided verdict is the same under keeps. -/
theorem under_first (keeps : Nat) (first rest : Inspection Verdict) :
    Verdict.under keeps <$> (do
        let verdict ← first
        if verdict.isDecisive then return verdict else rest)
      = (do
        let verdict ← Verdict.under keeps <$> first
        if verdict.isDecisive then return verdict else Verdict.under keeps <$> rest) := by
  rw [map_bind, bind_map_left]
  refine congrArg _ (funext fun verdict => ?_)
  rw [Verdict.isDecisive_under]
  split
  · rw [map_pure]
  · rfl

mutual

/-- **A tree under some keeps says what a scan of its leaves says.** -/
theorem firstDecisive_tips (entry : Entry) (keeps : Nat) :
    ∀ pattern : Pattern, .firstDecisive ((tips keeps pattern).map (Leaf.inspect entry))
      = Verdict.under keeps <$> evaluate entry pattern
  | rule subject matcher => by
    rw [tips, List.map_singleton, Inspection.firstDecisive_singleton, inspect_rule]
  | keep inner => by
    have turned : (fun verdict : Verdict => Verdict.under keeps verdict.negate)
        = Verdict.under (keeps + 1) := funext (Verdict.under_negate keeps)
    rw [tips, firstDecisive_tips entry (keeps + 1) inner, evaluate, map_bind]
    simp only [map_pure, turned, bind_pure_comp]
  | block children => by
    rw [tips, evaluate, firstDecisive_tipsAll entry keeps children]
  | unknown label => by
    rw [tips, List.map_singleton, Inspection.firstDecisive_singleton, evaluate]
    rfl

theorem firstDecisive_tipsAll (entry : Entry) (keeps : Nat) :
    ∀ patterns : List Pattern, .firstDecisive ((tipsAll keeps patterns).map (Leaf.inspect entry))
      = Verdict.under keeps <$> evaluateFirst entry patterns
  | [] => by
    rw [tipsAll, evaluateFirst, map_pure, Verdict.undecided_under]
    rfl
  | pattern :: rest => by
    rw [tipsAll, List.map_append, Inspection.firstDecisive_append, firstDecisive_tips entry keeps
      pattern, firstDecisive_tipsAll entry keeps rest, evaluateFirst, under_first]

end

/-! ### The first leaf that succeeds -/

theorem evaluate_eq_scan (entry : Entry) (pattern : Pattern) :
    evaluate entry pattern = .firstDecisive ((tips 0 pattern).map (Leaf.inspect entry)) := by
  rw [firstDecisive_tips]
  exact (id_map _).symm

/-- Leaves that do not succeed are undecided. -/
theorem inspect_undecided {entry : Entry} {leaves : List Leaf}
    (silent : ∀ leaf ∈ leaves, leaf.tip.answer entry = .ok false) :
    ∀ inspection ∈ leaves.map (Leaf.inspect entry), inspection.result = .ok .undecided := by
  intro inspection member
  obtain ⟨leaf, here, rfl⟩ := List.mem_map.mp member
  unfold Leaf.inspect
  rw [silent leaf here]
  rfl

/-- All that is read up to a leaf. -/
theorem reads_concat (entry : Entry) (before : List Leaf) (leaf : Leaf) :
    (before.map (Leaf.inspect entry)).flatMap Inspection.reads ++ (leaf.inspect entry).reads
      = (before ++ [leaf]).filterMap Leaf.read? := by
  rw [← Leaf.flatMap_reads entry, List.map_append, List.flatMap_append]
  exact congrArg _ (List.append_nil _).symm

theorem evaluate_of_silent {entry : Entry} {pattern : Pattern}
    (silent : ∀ leaf ∈ pattern.tips 0, leaf.tip.answer entry = .ok false) :
    pattern.evaluate entry = ⟨(pattern.tips 0).filterMap Leaf.read?, .ok .undecided⟩ := by
  rw [evaluate_eq_scan, Inspection.firstDecisive_of_undecided (inspect_undecided silent),
    Leaf.flatMap_reads]

theorem evaluate_of_success {entry : Entry} {pattern : Pattern} {before after : List Leaf}
    {leaf : Leaf} {subject : Subject} {matcher : Matcher}
    (split : pattern.tips 0 = before ++ leaf :: after) (rule : leaf.tip = .rule subject matcher)
    (silent : ∀ earlier ∈ before, earlier.tip.answer entry = .ok false)
    (succeeds : leaf.tip.answer entry = .ok true) :
    pattern.evaluate entry = ⟨(before ++ [leaf]).filterMap Leaf.read?,
      .ok ((Verdict.hit (some (reason subject matcher))).under leaf.keeps)⟩ := by
  have told : (leaf.inspect entry).result
      = .ok ((Verdict.hit (some (reason subject matcher))).under leaf.keeps) := by
    unfold Leaf.inspect
    rw [succeeds, rule]
    rfl
  rw [evaluate_eq_scan, split, List.map_append, List.map_cons,
    Inspection.firstDecisive_of_decisive (inspect_undecided silent) told
      (Verdict.isDecisive_under leaf.keeps _), reads_concat]

theorem evaluate_of_fault {entry : Entry} {pattern : Pattern} {before after : List Leaf}
    {leaf : Leaf} {fault : Fault} (split : pattern.tips 0 = before ++ leaf :: after)
    (silent : ∀ earlier ∈ before, earlier.tip.answer entry = .ok false)
    (failed : leaf.tip.answer entry = .error fault) :
    pattern.evaluate entry = ⟨(before ++ [leaf]).filterMap Leaf.read?, .error fault⟩ := by
  have told : (leaf.inspect entry).result = .error fault := by
    unfold Leaf.inspect
    rw [failed]
    rfl
  rw [evaluate_eq_scan, split, List.map_append, List.map_cons,
    Inspection.firstDecisive_of_fault (inspect_undecided silent) told, reads_concat]

/-- Only a node that is no pattern keeps an entry that answers from being judged. -/
theorem answer_cases {entry : Entry} {text : Text} {name : Option Text}
    (texts : entry.text = .ok text) (reactors : entry.reactor = .ok name) (tip : Tip) :
    (∃ succeeds, tip.answer entry = .ok succeeds) ∨ ∃ label, tip = .unknown label := by
  cases tip with
  | unknown label => exact .inr ⟨label, rfl⟩
  | rule subject matcher =>
    left
    cases subject with
    | text => exact ⟨_, by rw [Tip.answer, texts]; rfl⟩
    | reactor => exact ⟨_, by rw [Tip.answer, reactors]; rfl⟩

/-- The first leaf, if any, that does anything but fail to succeed. -/
theorem exists_first (entry : Entry) (leaves : List Leaf) :
    (∀ leaf ∈ leaves, leaf.tip.answer entry = .ok false)
      ∨ ∃ before leaf after, leaves = before ++ leaf :: after
        ∧ (∀ earlier ∈ before, earlier.tip.answer entry = .ok false)
        ∧ leaf.tip.answer entry ≠ .ok false := by
  induction leaves with
  | nil => exact .inl nofun
  | cons first rest ih =>
    by_cases silent : first.tip.answer entry = .ok false
    · rcases ih with all | ⟨before, leaf, after, split, earlier, found⟩
      · exact .inl (List.forall_mem_cons.mpr ⟨silent, all⟩)
      · exact .inr ⟨first :: before, leaf, after, by rw [split, List.cons_append],
          List.forall_mem_cons.mpr ⟨silent, earlier⟩, found⟩
    · exact .inr ⟨[], first, rest, rfl, nofun, silent⟩

/-- An entry that answers cannot be judged just where a node that is no pattern comes before the
first leaf that succeeds. -/
theorem evaluate_unknown_iff {entry : Entry} {text : Text} {name : Option Text}
    (texts : entry.text = .ok text) (reactors : entry.reactor = .ok name) (pattern : Pattern) :
    (∃ label, (pattern.evaluate entry).result = .error (.unknownPattern label))
      ↔ ∃ before leaf after label, pattern.tips 0 = before ++ leaf :: after
        ∧ leaf.tip = .unknown label ∧ ∀ earlier ∈ before, earlier.tip.answer entry ≠ .ok true := by
  have answers := answer_cases texts reactors
  constructor
  · rintro ⟨label, failed⟩
    rcases exists_first entry (pattern.tips 0) with all
      | ⟨before, leaf, after, split, silent, found⟩
    · rw [evaluate_of_silent all] at failed
      cases failed
    rcases answers leaf.tip with ⟨_ | _, answer⟩ | ⟨own, unknown⟩
    · exact absurd answer found
    · cases rule : leaf.tip with
      | rule subject matcher =>
        rw [evaluate_of_success split rule silent answer] at failed
        cases failed
      | unknown other =>
        rw [rule] at answer
        cases answer
    · refine ⟨before, leaf, after, own, split, unknown, fun earlier member succeeds => ?_⟩
      rw [silent earlier member] at succeeds
      cases succeeds
  · rintro ⟨before, leaf, after, label, split, unknown, open_⟩
    -- The first of the nodes that are no pattern is what the judgement fails at.
    rcases exists_first entry before with all | ⟨first, other, rest, cut, silent, found⟩
    · exact ⟨label, by rw [evaluate_of_fault split all (by rw [unknown]; rfl)]⟩
    · rcases answers other.tip with ⟨_ | _, answer⟩ | ⟨own, nothing⟩
      · exact absurd answer found
      · exact absurd answer (open_ other (cut ▸ List.mem_append_right _ List.mem_cons_self))
      · rw [cut, List.append_assoc, List.cons_append] at split
        exact ⟨own, by rw [evaluate_of_fault split silent (by rw [nothing]; rfl)]⟩

/-- **The first leaf that succeeds has the say.** Of the leaves of a tree in order:

* the first one that succeeds decides, for hiding under an even number of keeps and for keeping
  under an odd one, with its own reason;
* without one the verdict is undecided;
* a leaf before it that cannot be told is a fault, and for an entry that answers this is just a node
  that is no pattern.

In each case all leaves up to there read what they look at, once each and in order, and nothing is
read after that. -/
theorem evaluate_tips (entry : Entry) (pattern : Pattern) :
    (∀ before leaf after subject matcher, pattern.tips 0 = before ++ leaf :: after →
        leaf.tip = .rule subject matcher →
        (∀ earlier ∈ before, earlier.tip.answer entry = .ok false) →
        leaf.tip.answer entry = .ok true →
        pattern.evaluate entry = ⟨(before ++ [leaf]).filterMap Leaf.read?,
          .ok (if leaf.keeps % 2 = 0 then .hit (some (reason subject matcher))
            else .keep (some (reason subject matcher)))⟩)
      ∧ ((∀ leaf ∈ pattern.tips 0, leaf.tip.answer entry = .ok false) →
        pattern.evaluate entry = ⟨(pattern.tips 0).filterMap Leaf.read?, .ok .undecided⟩)
      ∧ (∀ before leaf after fault, pattern.tips 0 = before ++ leaf :: after →
        (∀ earlier ∈ before, earlier.tip.answer entry = .ok false) →
        leaf.tip.answer entry = .error fault →
        pattern.evaluate entry = ⟨(before ++ [leaf]).filterMap Leaf.read?, .error fault⟩)
      ∧ ∀ text name, entry.text = .ok text → entry.reactor = .ok name →
        ((∃ label, (pattern.evaluate entry).result = .error (.unknownPattern label))
          ↔ ∃ before leaf after label, pattern.tips 0 = before ++ leaf :: after
            ∧ leaf.tip = .unknown label
            ∧ ∀ earlier ∈ before, earlier.tip.answer entry ≠ .ok true) := by
  refine ⟨?_, evaluate_of_silent, ?_, ?_⟩
  · intro before leaf after subject matcher split rule silent succeeds
    exact evaluate_of_success split rule silent succeeds
  · intro before leaf after fault split silent failed
    exact evaluate_of_fault split silent failed
  · intro text name texts reactors
    exact evaluate_unknown_iff texts reactors pattern

/-- A matcher of one letter. -/
def ofLetter (letter : Char) : Matcher := ⟨[letter], ⟨[letter], [], .char letter.toNat .exact⟩⟩

/-- A keep around a block, in which a rule and a node that is no pattern stand under more keeps. -/
def mixed (first : Char) : Pattern :=
  .keep (.block [.rule .reactor (ofLetter 'z'), .keep (.block [.rule .text (ofLetter first)]),
    .block [.keep (.keep (.unknown ['?']))], .rule .text (ofLetter 'a')])

/-- Twice kept is not kept, and what comes before the first success counts. -/
theorem evaluate_tips_mixed :
    let entry : Entry := .ofValues ['a', 'd'] none false false
    (mixed 'd').evaluate entry
        = ⟨[.reactor, .text], .ok (.hit (some (reason .text (ofLetter 'd'))))⟩
      ∧ (mixed 'o').evaluate entry = ⟨[.reactor, .text], .error (.unknownPattern ['?'])⟩
      ∧ (Pattern.keep (.rule .text (ofLetter 'o'))).evaluate entry = ⟨[.text], .ok .undecided⟩
      ∧ ∃ label, ((mixed 'o').evaluate entry).result = .error (.unknownPattern label) := by
  intro entry
  obtain ⟨success, -, -, -⟩ := evaluate_tips entry (mixed 'd')
  obtain ⟨-, -, fault, unknown⟩ := evaluate_tips entry (mixed 'o')
  obtain ⟨-, silent, -, -⟩ := evaluate_tips entry (.keep (.rule .text (ofLetter 'o')))
  have nameless : (Tip.rule .reactor (ofLetter 'z')).answer entry = .ok false := rfl
  have found (letter : Char) : (Tip.rule .text (ofLetter letter)).answer entry
      = .ok ((ofLetter letter).regex.isFoundIn ['a', 'd']) := rfl
  have missing : (Tip.rule .text (ofLetter 'o')).answer entry = .ok false :=
    (found 'o').trans (congrArg Except.ok (by decide +kernel))
  have there : (Tip.rule .text (ofLetter 'd')).answer entry = .ok true :=
    (found 'd').trans (congrArg Except.ok (by decide +kernel))
  have split : (mixed 'o').tips 0
      = [⟨.rule .reactor (ofLetter 'z'), 1⟩, ⟨.rule .text (ofLetter 'o'), 2⟩]
        ++ ⟨.unknown ['?'], 3⟩ :: [⟨.rule .text (ofLetter 'a'), 1⟩] := rfl
  have passed : ∀ earlier ∈ [(⟨.rule .reactor (ofLetter 'z'), 1⟩ : Leaf),
      ⟨.rule .text (ofLetter 'o'), 2⟩], earlier.tip.answer entry = .ok false :=
    List.forall_mem_cons.mpr ⟨nameless, List.forall_mem_singleton.mpr missing⟩
  refine ⟨?_, fault _ _ _ _ split passed rfl, silent (List.forall_mem_singleton.mpr missing), ?_⟩
  · exact success [⟨.rule .reactor (ofLetter 'z'), 1⟩] ⟨.rule .text (ofLetter 'd'), 2⟩ _ _ _ rfl rfl
      (List.forall_mem_singleton.mpr nameless) there
  · refine (unknown ['a', 'd'] none rfl rfl).mpr ⟨_, _, _, ['?'], split, rfl, ?_⟩
    intro earlier member succeeds
    rw [passed earlier member] at succeeds
    cases succeeds

end Pattern

end FeedFilter
