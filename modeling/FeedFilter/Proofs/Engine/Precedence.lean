/-
**Patterns come before flags.**

Patterns see of an entry its text with straight quotes and its reactor, and nothing else. Two
entries that are alike in these have the same verdict, and if it is decisive, the decision is taken
without a look at any flag. If it is not, the flags that the settings ask for are read in their
order until one of them hides the entry, so the decision is a function of the answers given.

* `Entry.ReadsAlike`, `Pattern.evaluate_congr`: entries that patterns cannot tell apart.
* `Pattern.mem_evaluate_reads`: patterns read no flag.
* `DecidesByFlags`: which flags are read, and what their answers lead to.
* `Decision.Tightens`, `decideByFlags_tightens`: what asking for more flags can do to a decision.
* `Engine.decide_precedence`: all of it for two engines with the same patterns.
-/

import FeedFilter.Proofs.Document.Joining
import FeedFilter.Proofs.Document.Stopping
import FeedFilter.Proofs.Pass.Visits
import FeedFilter.Proofs.Pattern.Parity

namespace FeedFilter

/-! ### What patterns see -/

/-- Entries that patterns cannot tell apart: their texts are equal once quotes are straight, and
they have the same reactor. -/
structure Entry.ReadsAlike (entry other : Entry) : Prop where
  text : entry.text.map foldQuotes = other.text.map foldQuotes
  reactor : entry.reactor = other.reactor

theorem Tip.answer_congr {entry other : Entry} (alike : entry.ReadsAlike other) (tip : Tip) :
    tip.answer entry = tip.answer other := by
  have found (entry : Entry) (matcher : Matcher) : (Tip.rule .text matcher).answer entry
      = (entry.text.map foldQuotes).map matcher.regex.isFoundIn := by
    rw [answer]
    cases entry.text <;> rfl
  cases tip with
  | unknown label => rfl
  | rule subject matcher =>
    cases subject with
    | text => rw [found, found, alike.text]
    | reactor => rw [answer, answer, alike.reactor]

namespace Pattern

/-- **Patterns cannot tell such entries apart**, and they read the same of both. -/
theorem evaluate_congr {entry other : Entry} (alike : entry.ReadsAlike other) (pattern : Pattern) :
    pattern.evaluate entry = pattern.evaluate other := by
  have inspect : Leaf.inspect entry = Leaf.inspect other := by
    funext leaf
    rw [Leaf.inspect, Leaf.inspect, Tip.answer_congr alike]
  rw [evaluate_eq_scan, evaluate_eq_scan, inspect]

/-- **Patterns read no flag.** -/
theorem mem_evaluate_reads {entry : Entry} {pattern : Pattern} {capability : Capability}
    (read : capability ∈ (pattern.evaluate entry).reads) :
    capability = .text ∨ capability = .reactor := by
  rw [evaluate_eq_scan] at read
  obtain ⟨inspection, member, inside⟩ := Inspection.exists_of_mem_reads read
  obtain ⟨⟨tip, keeps⟩, -, rfl⟩ := List.mem_map.mp member
  have own : tip.read? = some capability := Option.mem_toList.mp inside
  cases tip with
  | unknown label => cases own
  | rule subject matcher =>
    cases subject with
    | text => exact .inl (Option.some.inj own).symm
    | reactor => exact .inr (Option.some.inj own).symm

end Pattern

/-- What reads nothing but texts and reactors reads no flag. -/
theorem flags_not_mem {reads : List Capability}
    (others : ∀ capability ∈ reads, capability = .text ∨ capability = .reactor) :
    .suggested ∉ reads ∧ .credentials ∉ reads :=
  ⟨fun member => absurd (others _ member) (by decide),
    fun member => absurd (others _ member) (by decide)⟩

/-! ### What flags add -/

/-- The answer of an entry to a capability that is a flag. -/
def Entry.flag? (entry : Entry) : Capability → Option (Capability × Bool)
  | .suggested => some (.suggested, entry.suggested)
  | .credentials => some (.credentials, entry.credentials)
  | .text => none
  | .reactor => none

/-- The decision that answers of flags lead to: credentials first, then suggestions. -/
def Decision.ofFlags (answers : List (Capability × Bool)) : Decision :=
  if (.credentials, true) ∈ answers then .hide (some credentialsReason)
  else if (.suggested, true) ∈ answers then .hide (some suggestedReason)
  else .nothing

/-- What is said of an inspection in which flags decide: credentials are asked for once if the
settings want that, suggestions once if the settings want that and credentials do not hide the entry
already, and the decision follows from the answers to just what was asked. -/
structure DecidesByFlags (settings : Settings) (entry : Entry) (inspection : Inspection Decision) :
    Prop where
  credentials : inspection.count .credentials = settings.hideContentCredentials.toNat
  suggested : inspection.count .suggested
    = (settings.hideSuggested && !(settings.hideContentCredentials && entry.credentials)).toNat
  decision : inspection.result = .ok (.ofFlags (inspection.reads.filterMap entry.flag?))

theorem decideByFlags_decides (settings : Settings) (entry : Entry) :
    DecidesByFlags settings entry (decideByFlags settings entry) := by
  obtain ⟨patterns, hideSuggested, hideCredentials, mode⟩ := settings
  obtain ⟨text, reactor, suggested, credentials⟩ := entry
  -- Whether a flag is asked for, and what it answers.
  cases hideCredentials <;> cases credentials <;> cases hideSuggested <;> cases suggested <;>
    exact ⟨rfl, rfl, rfl⟩

/-- What has been read of other capabilities before does not matter. -/
theorem DecidesByFlags.prepend {settings : Settings} {entry : Entry}
    {inspection : Inspection Decision} (decides : DecidesByFlags settings entry inspection)
    {reads : List Capability}
    (others : ∀ capability ∈ reads, capability = .text ∨ capability = .reactor) :
    DecidesByFlags settings entry ⟨reads ++ inspection.reads, inspection.result⟩ := by
  obtain ⟨noSuggested, noCredentials⟩ := flags_not_mem others
  have unanswered : reads.filterMap entry.flag? = [] := by
    refine List.filterMap_eq_nil_iff.mpr fun capability member => ?_
    rcases others capability member with rfl | rfl <;> rfl
  refine ⟨?_, ?_, ?_⟩
  · rw [Inspection.count, List.count_append, List.count_eq_zero_of_not_mem noCredentials,
      Nat.zero_add]
    exact decides.credentials
  · rw [Inspection.count, List.count_append, List.count_eq_zero_of_not_mem noSuggested,
      Nat.zero_add]
    exact decides.suggested
  · rw [List.filterMap_append, unanswered, List.nil_append]
    exact decides.decision

/-- **What asking for more flags can do to a decision** of flags: hide what was left alone, or
change the reason for which an entry is hidden. -/
inductive Decision.Tightens : Decision → Decision → Prop
  | same (decision : Decision) : Tightens decision decision
  | hides (reason : Option String) : Tightens .nothing (.hide reason)
  | reason (before after : Option String) : Tightens (.hide before) (.hide after)

/-- Whether settings ask for all flags that others ask for. -/
structure Settings.AsksMore (settings others : Settings) : Prop where
  credentials : others.hideContentCredentials = true → settings.hideContentCredentials = true
  suggested : others.hideSuggested = true → settings.hideSuggested = true

theorem decideByFlags_result (settings : Settings) (entry : Entry) :
    (decideByFlags settings entry).result
      = .ok (if settings.hideContentCredentials && entry.credentials then
            .hide (some credentialsReason)
          else if settings.hideSuggested && entry.suggested then .hide (some suggestedReason)
          else .nothing) := by
  obtain ⟨patterns, hideSuggested, hideCredentials, mode⟩ := settings
  obtain ⟨text, reactor, suggested, credentials⟩ := entry
  cases hideCredentials <;> cases credentials <;> cases hideSuggested <;> cases suggested <;> rfl

theorem decideByFlags_tightens {settings stricter : Settings} (more : stricter.AsksMore settings)
    {entry other : Entry} (credentials : entry.credentials = other.credentials)
    (suggested : entry.suggested = other.suggested) :
    ∃ before after, (decideByFlags settings entry).result = .ok before
      ∧ (decideByFlags stricter other).result = .ok after ∧ before.Tightens after := by
  refine ⟨_, _, decideByFlags_result settings entry, decideByFlags_result stricter other, ?_⟩
  rw [credentials, suggested]
  simp only [Bool.and_eq_true]
  by_cases first : settings.hideContentCredentials = true ∧ other.credentials = true
  · rw [if_pos first, if_pos ⟨more.credentials first.1, first.2⟩]
    exact .same _
  rw [if_neg first]
  by_cases second : settings.hideSuggested = true ∧ other.suggested = true
  · rw [if_pos second]
    split
    · exact .reason _ _
    · rw [if_pos ⟨more.suggested second.1, second.2⟩]
      exact .same _
  · rw [if_neg second]
    split
    · exact .hides _
    · split
      · exact .hides _
      · exact .same _

/-! ### Patterns before flags -/

/-- The decision of a verdict. -/
def Verdict.decision : Verdict → Decision
  | hit reason => .hide reason
  | keep reason => .keep reason
  | undecided => .nothing

section Patterns

variable {root : Pattern} {entry : Entry}

theorem decideWith_of_decisive {verdict : Verdict}
    (told : (root.evaluate entry).result = .ok verdict) (decisive : verdict.isDecisive)
    (settings : Settings) :
    decideWith root settings entry = ⟨(root.evaluate entry).reads, .ok verdict.decision⟩ := by
  rw [decideWith]
  generalize root.evaluate entry = evaluated at told ⊢
  obtain ⟨reads, result⟩ := evaluated
  cases told
  rw [Inspection.bind_ok]
  cases verdict with
  | hit reason => exact congrArg (Inspection.mk · _) (List.append_nil reads)
  | keep reason => exact congrArg (Inspection.mk · _) (List.append_nil reads)
  | undecided => cases decisive

theorem decideWith_of_undecided (told : (root.evaluate entry).result = .ok .undecided)
    (settings : Settings) :
    decideWith root settings entry
      = ⟨(root.evaluate entry).reads ++ (decideByFlags settings entry).reads,
          (decideByFlags settings entry).result⟩ := by
  rw [decideWith]
  generalize root.evaluate entry = evaluated at told ⊢
  obtain ⟨reads, result⟩ := evaluated
  cases told
  rfl

end Patterns

namespace Engine

variable {outline : Outline} {entry : Entry}

/-- An honest engine decides by the pattern of its text. -/
theorem IsHonest.decide_compiled {engine : Engine} (honest : engine.IsHonest)
    (compiled : Document.compile engine.settings.filterPatterns = .ok outline) (entry : Entry) :
    (engine.decide entry).inspection = decideWith outline.root engine.settings entry :=
  (honest.inspection_eq entry).trans (decide_new compiled entry)

/-- A compiled pattern has a verdict on every entry that can be read. -/
theorem evaluate_compiled_succeeds {text : Text} (compiled : Document.compile text = .ok outline)
    {post : Text} {name : Option Text} (readable : entry.text = .ok post)
    (reactor : entry.reactor = .ok name) : (outline.root.evaluate entry).Succeeds := by
  have values : entry = .ofValues post name entry.suggested entry.credentials := by
    rw [Entry.ofValues, ← readable, ← reactor]
  rw [Document.evaluate_of_compile compiled, Document.directives,
    ← (Outline.flat_describes _).evaluate_root, Outline.root, Pattern.evaluate, values]
  exact evaluateFirst_succeeds post name _ _ _

/-- **Patterns come before flags.** Take two engines with the same patterns, which compile, and two
entries that patterns cannot tell apart. The verdict is the same on both, and there is one if the
entries can be read.

* If it is decisive, so are both decisions, for the same reason and with the same reads, and no flag
  is read, whatever the settings are otherwise and whatever the flags of the entries are.
* If it is undecided, flags decide both times; and if the second engine asks for all flags that the
  first one asks for, and gets the same answers, it can only hide what the first leaves alone, or
  give another reason for hiding. -/
theorem decide_precedence {first second : Engine} {other : Entry}
    (honest : first.IsHonest) (honestToo : second.IsHonest)
    (compiled : Document.compile first.settings.filterPatterns = .ok outline)
    (same : second.settings.filterPatterns = first.settings.filterPatterns)
    (alike : entry.ReadsAlike other) :
    outline.root.evaluate entry = outline.root.evaluate other
      ∧ (∀ text name, entry.text = .ok text → entry.reactor = .ok name →
        (outline.root.evaluate entry).Succeeds)
      ∧ (∀ verdict, (outline.root.evaluate entry).result = .ok verdict → verdict.isDecisive →
        (first.decide entry).inspection = (second.decide other).inspection
          ∧ (first.decide entry).inspection.result = .ok verdict.decision
          ∧ .suggested ∉ (first.decide entry).inspection.reads
          ∧ .credentials ∉ (first.decide entry).inspection.reads)
      ∧ ((outline.root.evaluate entry).result = .ok .undecided →
        DecidesByFlags first.settings entry (first.decide entry).inspection
          ∧ DecidesByFlags second.settings other (second.decide other).inspection
          ∧ (second.settings.AsksMore first.settings → entry.credentials = other.credentials →
            entry.suggested = other.suggested →
            ∃ before after, (first.decide entry).inspection.result = .ok before
              ∧ (second.decide other).inspection.result = .ok after ∧ before.Tightens after)) := by
  have evaluated := Pattern.evaluate_congr alike outline.root
  have one := honest.decide_compiled compiled entry
  have two := honestToo.decide_compiled (same ▸ compiled) other
  refine ⟨evaluated, fun text name => evaluate_compiled_succeeds compiled, ?_, ?_⟩
  · intro verdict told decisive
    rw [decideWith_of_decisive told decisive] at one
    rw [decideWith_of_decisive (evaluated ▸ told) decisive, ← evaluated] at two
    rw [one, two]
    exact ⟨rfl, rfl, flags_not_mem fun _ => Pattern.mem_evaluate_reads⟩
  · intro told
    rw [decideWith_of_undecided told] at one
    rw [decideWith_of_undecided (evaluated ▸ told)] at two
    rw [one, two]
    exact ⟨(decideByFlags_decides _ _).prepend fun _ => Pattern.mem_evaluate_reads,
      (decideByFlags_decides _ _).prepend fun _ => Pattern.mem_evaluate_reads,
      fun more credentials suggested => decideByFlags_tightens more credentials suggested⟩

/-- A document with one rule, for posts with an apostrophe. -/
def apostropheRule : Text := ['/', '\'', '/']

theorem compile_apostropheRule :
    ∃ matcher, Directive.compile apostropheRule = .ok (.onText matcher)
      ∧ matcher.finds ['\u2019'] = true ∧ matcher.finds [] = false := by
  have form : Directive.Form.ofLine apostropheRule = ⟨false, false, apostropheRule⟩ := by decide
  have searches : ((Matcher.compile apostropheRule).toOption.any fun matcher =>
      matcher.finds ['\u2019'] && !matcher.finds []) = true := by decide +kernel
  cases read : Matcher.compile apostropheRule with
  | error failure =>
    rw [read] at searches
    cases searches
  | ok matcher =>
    rw [read] at searches
    obtain ⟨found, missing⟩ := Bool.and_eq_true_iff.mp searches
    rw [Bool.not_eq_true'] at missing
    refine ⟨matcher, ?_, found, missing⟩
    rw [Directive.compile_eq, form, read]
    rfl

/-- A curly apostrophe and a straight one are the same to the rule, and flags do not matter then. In
a post without text suggestions are given up as a reason for credentials, once these are asked for.
-/
theorem decide_precedence_apostropheRule :
    ((new ⟨apostropheRule, true, true, false⟩).decide
        (.ofValues ['\u2019'] none true true)).inspection
      = ((new ⟨apostropheRule, false, false, true⟩).decide
        (.ofValues ['\''] none false false)).inspection
      ∧ ∃ before after,
        ((new ⟨apostropheRule, true, false, false⟩).decide
          (.ofValues [] none true true)).inspection.result = .ok before
        ∧ ((new ⟨apostropheRule, true, true, true⟩).decide
          (.ofValues [] none true true)).inspection.result = .ok after
        ∧ before.Tightens after := by
  obtain ⟨matcher, rule, found, missing⟩ := compile_apostropheRule
  have line : Document.trimmedLines apostropheRule = [apostropheRule] := by decide
  have settled : Document.IsSettled apostropheRule := by
    rw [Document.IsSettled, line]
    exact List.forall_mem_singleton.mpr (.inl ⟨_, rule⟩)
  obtain ⟨outline, compiled, -⟩ := Document.compile_describes settled
  have verdict (entry : Entry) : outline.root.evaluate entry
      = (Directive.onText matcher).pattern.evaluate entry := by
    have only : Document.directives apostropheRule = [.onText matcher] := by
      rw [Document.directives, line, Directive.ofLines, List.filterMap_cons, rule]
      rfl
    rw [Document.evaluate_of_compile compiled, only]
    exact Inspection.firstDecisive_singleton _
  refine ⟨?_, ?_⟩
  · have alike : Entry.ReadsAlike (.ofValues ['\u2019'] none true true)
        (.ofValues ['\''] none false false) := ⟨rfl, rfl⟩
    obtain ⟨-, -, decisive, -⟩ := decide_precedence
      (new_isHonest ⟨apostropheRule, true, true, false⟩)
      (new_isHonest ⟨apostropheRule, false, false, true⟩) compiled rfl alike
    refine (decisive (.hit (some (Pattern.reason .text matcher))) ?_ rfl).1
    rw [verdict, Matcher.evaluate_onText rfl, found]
    rfl
  · have alike : Entry.ReadsAlike (.ofValues [] none true true) (.ofValues [] none true true) :=
      ⟨rfl, rfl⟩
    obtain ⟨-, -, -, flags⟩ := decide_precedence
      (new_isHonest ⟨apostropheRule, true, false, false⟩)
      (new_isHonest ⟨apostropheRule, true, true, true⟩) compiled rfl alike
    refine (flags ?_).2.2 ⟨fun _ => rfl, fun _ => rfl⟩ rfl rfl
    rw [verdict, Matcher.evaluate_onText rfl, missing]
    rfl

end Engine

end FeedFilter
