/-
**Flags that an expression sets inside itself.**

A flag holds for an expression because it is given from outside, or because the expression opens a
parenthesis with a question mark and names the flag by its letter; full case folding comes with the
second version. So an expression without such a parenthesis has the given flags alone, and only an
expression with one can have flags that exclude each other. What nothing can be made of stands in
the expression as well, so whatever it breaks down at comes from it.

* `Explained`: every flag of a set is given, can be set inside, or is full case folding.
* `Frame.IsWithin`, `Reading.IsWithin`, `Reading.IsSound`: the invariant of a parenthesis and of a
  reading, and what a step may end in.
* `IsWithin.step`, `IsWithin.finish`: one step keeps the invariant, and so does a whole reading.
* `missing_lt_of_restart`: a reading begins anew only with more flags, so the restarts come to an
  end by themselves.
* `compile_breakdown`: an expression breaks down only at flags that are explained and exclude each
  other, or at a part that is written in it.
-/

import FeedFilter.Proofs.Regex.Misfits
import FeedFilter.Regex.Basic

namespace FeedFilter.Regex

attribute [local grind →] List.IsSuffix.trans
attribute [local grind .] List.suffix_refl

/-! ### Where flags come from -/

/-- The letter that sets a flag inside an expression. The versions share theirs and have a digit
behind it. -/
def Flag.letter : Flag → Char
  | ascii => 'a'
  | bestMatch => 'b'
  | enhancedMatch => 'e'
  | fullCase => 'f'
  | ignoreCase => 'i'
  | localeDependent => 'L'
  | multiline => 'm'
  | longestMatch => 'p'
  | backwards => 'r'
  | dotAll => 's'
  | unicode => 'u'
  | version0 => 'V'
  | version1 => 'V'
  | defaultWords => 'w'
  | spaced => 'x'

theorem Flag.letter_of_ofLetter? {c : Char} {flag : Flag} (named : ofLetter? c = some flag) :
    flag.letter = c := by
  unfold ofLetter? at named
  split at named <;> cases named <;> rfl

/-- The flags that a conflict is about. -/
def Conflict.flags : Conflict → List Flag
  | versions => [.version0, .version1]
  | encodings => [.ascii, .localeDependent, .unicode]

/-- Whether an expression has what it takes to set a flag inside itself: a parenthesis that opens
with a question mark, and the letter of the flag. -/
structure CanSet (body : Text) (flag : Flag) : Prop where
  opens : ['(', '?'] <:+: body
  letter : flag.letter ∈ body

/-- Whether each flag of a set is given, comes with the second version, or can be set inside an
expression. -/
def Explained (given : Flags) (body : Text) (flags : Flags) : Prop :=
  ∀ flag, flags flag = true → given flag = true ∨ flag = .fullCase ∨ CanSet body flag

/-- Whether a set has all flags of another and one more. -/
structure Flags.IsExtendedBy (given more : Flags) : Prop where
  keeps : ∀ flag, given flag = true → more flag = true
  adds : ∃ flag, more flag = true ∧ given flag = false

namespace Flags

variable {first second : Flags} {flag : Flag} {list : List Flag}

theorem union_eq_true_iff :
    first.union second flag = true ↔ first flag = true ∨ second flag = true := Bool.or_eq_true_iff

theorem diff_eq_true_iff :
    first.diff second flag = true ↔ first flag = true ∧ second flag = false := by
  rw [diff, Bool.and_eq_true, Bool.not_eq_true']

theorem ofList_eq_true_iff : ofList list flag = true ↔ flag ∈ list := List.contains_iff_mem

end Flags

namespace Explained

variable {given middle flags on off : Flags} {body : Text}

theorem refl (given : Flags) (body : Text) : Explained given body given := fun _ held => .inl held

theorem trans (first : Explained given body middle) (second : Explained middle body flags) :
    Explained given body flags := fun flag held =>
  (second flag held).elim (first flag) .inr

theorem union (explained : Explained given body flags)
    (set : ∀ flag, on flag = true → CanSet body flag) : Explained given body (flags.union on) :=
  fun flag held => (Flags.union_eq_true_iff.mp held).elim (explained flag) fun isOn =>
    .inr (.inr (set flag isOn))

theorem diff (explained : Explained given body flags) (off : Flags) :
    Explained given body (flags.diff off) := fun flag held =>
  explained flag (Flags.diff_eq_true_iff.mp held).1

theorem withDefaults (given : Flags) (body : Text) : Explained given body given.withDefaults := by
  intro flag held
  unfold Flags.withDefaults at held
  split at held
  · refine (Flags.union_eq_true_iff.mp held).imp_right fun added => .inl ?_
    exact List.mem_singleton.mp (Flags.ofList_eq_true_iff.mp added)
  · exact .inl held

end Explained

theorem exists_of_map_eq_ok {First Second : Type} {outcome : Except Refusal First}
    {next : First → Second} {result : Second} (found : outcome.map next = .ok result) :
    ∃ value, outcome = .ok value ∧ next value = result := by
  cases outcome with
  | ok value => exact ⟨value, rfl, Except.ok.inj found⟩
  | error error => cases found

/-- Whether a parenthesis opens a condition on a group. -/
def Opener.IsCondition : Opener → Prop
  | condition _ => True
  | _ => False

/-- The invariant of a parenthesis: the flags after it are explained, bounds in it that there is no
code for are written in the expression, and so is the opening of a condition. -/
structure Frame.IsWithin (given : Flags) (body : Text) (frame : Frame) : Prop where
  flags : Explained given body frame.outerFlags
  fits : frame.fits = false → Misfit.noCode.StandsIn body
  condition : frame.opener.IsCondition → OpensCondition body

namespace Frame.IsWithin

variable {frame : Frame} {given : Flags} {body : Text}

theorem opened {flags : Flags} (explained : Explained given body flags) {opener : Opener}
    (condition : opener.IsCondition → OpensCondition body) :
    (Frame.opened opener flags).IsWithin given body where
  flags := explained
  fits := fun unfit => nomatch unfit
  condition := condition

/-- What is read inside of a parenthesis does not matter. -/
theorem filled (within : frame.IsWithin given body) (branches : List (Node Mention))
    (items : List (Option (Node Mention))) :
    { frame with branches := branches, items := items }.IsWithin given body :=
  ⟨within.flags, within.fits, within.condition⟩

theorem fitting (within : frame.IsWithin given body) {fits : Bool}
    (unfit : fits = false → Misfit.noCode.StandsIn body) :
    { frame with fits := frame.fits && fits }.IsWithin given body where
  flags := within.flags
  fits := fun either => (Bool.and_eq_false_iff.mp either).elim within.fits unfit
  condition := within.condition

end Frame.IsWithin

namespace Reading

/-- The invariant of a reading of an expression: what is left is a suffix of it, the flags in force
are explained, what is left out is left out with a condition, and each parenthesis that is open
keeps its own invariant. -/
structure IsWithin (given : Flags) (body : Text) (reading : Reading) : Prop where
  source : reading.source.rest <:+ body
  whole : reading.wholeFlags = given
  flags : Explained given body reading.flags
  leavesOut : reading.leavesOut = true → OpensCondition body
  frame : reading.frame.IsWithin given body
  outer : ∀ frame ∈ reading.outer, frame.IsWithin given body

/-- What a step may end in: a reading within the expression, an error, a part of the expression that
nothing can be made of, or a restart with more flags than before, all of them explained. -/
def IsSound (given : Flags) (body : Text) : Except Stop Reading → Prop
  | .ok next => next.IsWithin given body
  | .error (.refused (.invalid _)) => True
  | .error (.refused (.misfit fault)) => fault.StandsIn body
  | .error (.restart more) => given.IsExtendedBy more ∧ Explained given body more

variable {reading next : Reading} {source : Source} {given : Flags} {body : Text}

/-- A step that cannot restart is sound if it keeps the invariant and what it can make nothing of is
there. -/
theorem isSound_lift {outcome : Except Refusal Reading}
    (keeps : ∀ next, outcome = .ok next → next.IsWithin given body)
    (stands : ∀ fault, outcome = .error (.misfit fault) → fault.StandsIn body) :
    IsSound given body (Stop.lift outcome) := by
  cases outcome with
  | ok next => exact keeps next rfl
  | error refusal => cases refusal with
    | invalid error => trivial
    | misfit fault => exact stands fault rfl

/-- A restart is sound if it adds a flag, and only flags that can be set inside. -/
theorem isSound_restart {on : Flags} (new : ∃ flag, on flag = true ∧ given flag = false)
    (set : ∀ flag, on flag = true → CanSet body flag) :
    IsSound given body (.error (.restart (given.union on))) := by
  obtain ⟨flag, isOn, isNew⟩ := new
  exact ⟨⟨fun other held => Flags.union_eq_true_iff.mpr (.inl held), flag,
    Flags.union_eq_true_iff.mpr (.inr isOn), isNew⟩, (Explained.refl given body).union set⟩

/-! ### Steps that set no flags -/

section

variable (within : reading.IsWithin given body) (ahead : source.rest <:+ body)
include within ahead

theorem IsWithin.add (node : Node Mention) : (reading.add node source).IsWithin given body :=
  ⟨ahead, within.whole, within.flags, within.leavesOut, within.frame.filled _ _, within.outer⟩

theorem IsWithin.goOn : (reading.goOn source).IsWithin given body :=
  ⟨ahead, within.whole, within.flags, within.leavesOut, within.frame, within.outer⟩

theorem IsWithin.enter (opener : Opener) (condition : opener.IsCondition → OpensCondition body) :
    (reading.enter opener source).IsWithin given body :=
  ⟨ahead, within.whole, within.flags, within.leavesOut, .opened within.flags condition,
    List.forall_mem_cons.mpr ⟨within.frame, within.outer⟩⟩

theorem IsWithin.enterGroup (name : Option Text) :
    (reading.enterGroup name source).IsWithin given body := by
  have outer := List.forall_mem_cons.mpr ⟨within.frame, within.outer⟩
  unfold Reading.enterGroup
  split <;> exact ⟨ahead, within.whole, within.flags, within.leavesOut,
    .opened within.flags False.elim, outer⟩

theorem IsWithin.repeatLast {least : Nat} {most : Option Nat} {position : Nat}
    (found : reading.repeatLast least most position source = .ok next) :
    next.IsWithin given body := by
  unfold Reading.repeatLast at found
  split at found <;> cases found
  exact ⟨(readGreed_suffix reading.spaced source).trans ahead, within.whole, within.flags,
    within.leavesOut, within.frame.filled _ _, within.outer⟩

theorem IsWithin.boundLast {fits : Bool} {position : Nat}
    (unfit : fits = false → Misfit.noCode.StandsIn body)
    (found : reading.boundLast fits position source = .ok next) : next.IsWithin given body := by
  unfold Reading.boundLast at found
  split at found <;> cases found
  have bounded := (within.frame.fitting unfit).filled reading.frame.branches
  exact ⟨ahead, within.whole, within.flags, within.leavesOut, bounded _, within.outer⟩

theorem IsWithin.bar {position : Nat} (found : reading.bar position source = .ok next) :
    next.IsWithin given body := by
  have onward := within.frame.filled (reading.frame.branch :: reading.frame.branches) [none]
  simp only [Reading.bar] at found
  split at found
  case h_1 =>
    cases found
    exact ⟨ahead, within.whole, within.flags, within.leavesOut,
      ⟨onward.flags, onward.fits, False.elim⟩, within.outer⟩
  case h_4 =>
    cases found
    exact ⟨ahead, within.whole, within.flags, within.leavesOut, onward, within.outer⟩
  case h_2 | h_3 =>
    split at found <;> cases found
    exact ⟨ahead, within.whole, within.flags, within.leavesOut, onward, within.outer⟩

/-- A closing parenthesis restores the flags from before the opening one. -/
theorem IsWithin.close {position : Nat} (found : reading.close position source = .ok next) :
    next.IsWithin given body := by
  simp only [Reading.close] at found
  split at found
  · cases found
  · next enclosing others outer =>
    have outside := within.outer
    rw [outer] at outside
    obtain ⟨enclosed, remaining⟩ := List.forall_mem_cons.mp outside
    have kept := (enclosed.fitting within.frame.fits).filled enclosing.branches
    split at found
    case h_6 =>
      next opens =>
      split at found <;> cases found
      -- What is in a condition without branches is left out, whether there is code for it or not.
      · exact ⟨ahead, within.whole, within.frame.flags,
          fun _ => within.frame.condition (opens ▸ trivial), enclosed.filled _ _, remaining⟩
      · exact ⟨ahead, within.whole, within.frame.flags, within.leavesOut, kept _, remaining⟩
    -- The test of a condition is closed, and its parenthesis stays open for the branches.
    case h_7 =>
      cases found
      exact ⟨ahead, within.whole, within.frame.flags, within.leavesOut,
        ⟨within.frame.flags, within.frame.fits, False.elim⟩, within.outer⟩
    all_goals
      cases found
      exact ⟨ahead, within.whole, within.frame.flags, within.leavesOut, kept _, remaining⟩

theorem IsWithin.readElement {c : Char} {position : Nat}
    (found : reading.readElement c position source = .ok next) : next.IsWithin given body := by
  unfold Reading.readElement at found
  split at found
  case h_1 =>
    obtain ⟨⟨node, after⟩, read, rfl⟩ := exists_of_map_eq_ok found
    exact within.add ((readEscape_suffix read).trans ahead) node
  case h_5 =>
    obtain ⟨⟨members, after⟩, read, rfl⟩ := exists_of_map_eq_ok found
    exact within.add ((readSet_suffix read).trans ahead) _
  case h_6 =>
    split at found
    · cases found
    · next quantified =>
      exact within.repeatLast ((readQuantifier_suffix quantified).trans ahead) found
    · split at found
      · cases found
      · next approximated =>
        split at approximated
        · refine within.boundLast ((readApproximation_suffix approximated).trans ahead) ?_ found
          rintro rfl
          exact (readApproximation_noCode approximated).of_suffix ahead
        · cases approximated
      · cases found
        exact within.add ahead _
  all_goals
    cases found
    exact within.add ahead _

end

/-! ### Parentheses -/

section

attribute [local grind ←] IsWithin.add IsWithin.goOn IsWithin.enterGroup

variable (within : reading.IsWithin given body) (ahead : source.rest <:+ body)
include within ahead

theorem IsWithin.readNamedGroup (found : reading.readNamedGroup source = .ok next) :
    next.IsWithin given body := by
  unfold Reading.readNamedGroup at found
  grind

theorem IsWithin.readNamedCall {position : Nat}
    (found : reading.readNamedCall position source = .ok next) : next.IsWithin given body := by
  unfold Reading.readNamedCall at found
  grind

theorem IsWithin.readNumberedCall {digits : Text} {position : Nat}
    (found : reading.readNumberedCall digits position source = .ok next) :
    next.IsWithin given body := by
  unfold Reading.readNumberedCall at found
  grind

theorem IsWithin.readExtension (found : reading.readExtension source = .ok next) :
    next.IsWithin given body := by
  unfold Reading.readExtension at found
  grind [IsWithin.readNamedGroup, IsWithin.readNamedCall]

theorem IsWithin.readCondition (opened : OpensCondition body)
    (found : reading.readCondition source = .ok next) : next.IsWithin given body := by
  have entered : ∀ {opener : Opener} {after : Source}, after.rest <:+ source.rest →
      (reading.enter opener after).IsWithin given body := fun ends =>
    within.enter (ends.trans ahead) _ fun _ => opened
  unfold Reading.readCondition at found
  grind

end

/-- The flags that are read are named by their letters. -/
theorem letter_mem_of_readFlags (spaced : Bool) (fuel : Nat) (source : Source) :
    ∀ flag ∈ (readFlags spaced fuel source).1, flag.letter ∈ source.rest := by
  fun_induction readFlags spaced fuel source <;>
    grind [Flag.letter_of_ofLetter?, Flag.letter, List.IsSuffix.subset]

theorem IsWithin.setFlags {on off : Flags} (within : reading.IsWithin given body)
    (ahead : source.rest <:+ body) (set : ∀ flag, on flag = true → CanSet body flag) :
    IsSound given body (reading.setFlags on off source) := by
  unfold Reading.setFlags
  split
  · exact ⟨ahead, within.whole, (within.flags.union set).diff off, within.leavesOut, within.frame,
      within.outer⟩
  split
  · trivial
  split
  · next new =>
    rw [within.whole] at new ⊢
    obtain ⟨flag, -, isNew⟩ := List.any_eq_true.mp new
    exact isSound_restart ⟨flag, Flags.diff_eq_true_iff.mp isNew⟩ set
  · exact within.goOn ahead

/-- **A parenthesis for flags** sets flags that it names, and the expression has opened it. -/
theorem IsWithin.readFlagGroup (within : reading.IsWithin given body)
    (opened : '(' :: '?' :: source.rest <:+ body) :
    IsSound given body (reading.readFlagGroup source) := by
  have ahead : source.rest <:+ body := by grind
  have opens : ['(', '?'] <:+: body :=
    (List.prefix_append ['(', '?'] source.rest).isInfix.trans opened.isInfix
  let named := (readFlags reading.spaced source.rest.length source).1
  have set : ∀ flag ∈ named, CanSet body flag := fun flag member =>
    ⟨opens, ahead.subset (letter_mem_of_readFlags _ _ _ flag member)⟩
  have setOf : ∀ (test : Flag → Bool) (flag : Flag),
      Flags.ofList (named.filter test) flag = true → CanSet body flag := fun test flag held =>
    set flag (List.mem_filter.mp (Flags.ofList_eq_true_iff.mp held)).1
  unfold Reading.readFlagGroup
  dsimp only
  split
  · trivial
  · next offList after read =>
    have forward : after.rest <:+ body := by grind
    split
    · trivial
    split
    · trivial
    split
    · next new =>
      rw [within.whole] at new ⊢
      obtain ⟨flag, member, isNew⟩ := List.any_eq_true.mp new
      rw [Bool.and_eq_true, Bool.not_eq_true'] at isNew
      refine isSound_restart ⟨flag, ?_, isNew.2⟩ (setOf Flag.isGlobal)
      exact Flags.ofList_eq_true_iff.mpr (List.mem_filter.mpr ⟨member, isNew.1⟩)
    split
    · next inner colon =>
      have entered := within.enter ((Source.accept?_suffix colon).trans forward) .plain False.elim
      exact ⟨entered.source, entered.whole, (within.flags.union (setOf _)).diff _,
        entered.leavesOut, entered.frame, entered.outer⟩
    split
    · next last closed =>
      exact within.setFlags ((Source.accept?_suffix closed).trans forward) (setOf _)
    · trivial

theorem IsWithin.readSpecial (within : reading.IsWithin given body)
    (opened : '(' :: '?' :: source.rest <:+ body) :
    IsSound given body (reading.readSpecial source) := by
  have forward : ∀ {c : Char} {inner : Source}, source.next false = (some c, inner) →
      inner.rest <:+ body := by grind
  have numbered : ∀ {c : Char} {inner : Source} (digits : Text) {after : Source},
      source.next false = (some c, inner) → after.rest <:+ inner.rest →
        IsSound given body
          (Stop.lift (reading.readNumberedCall digits source.position after)) :=
    fun digits _ found ends => isSound_lift
      (fun _ read => within.readNumberedCall (ends.trans (forward found)) read)
      fun _ failed => (not_misfit_of_readNumberedCall failed).elim
  unfold Reading.readSpecial
  dsimp only
  -- One case for each character behind the question mark; only the last two read flags.
  split
  · next inner found =>
    split
    · exact within.enter (by grind) _ False.elim
    · exact within.enter (by grind) _ False.elim
    · exact isSound_lift (fun next read => within.readNamedGroup (forward found) read)
        fun fault failed => (readNamedGroup_misfit failed).of_suffix (forward found)
  · next found => exact within.enter (forward found) _ False.elim
  · next found => exact within.enter (forward found) _ False.elim
  · next found =>
    exact isSound_lift (fun next read => within.readExtension (forward found) read)
      fun fault failed => (readExtension_misfit failed).of_suffix (forward found)
  · next found =>
    refine isSound_lift (fun next read => ?_) fun fault failed =>
      (Source.not_misfit_of_expect (eq_error_of_map failed)).elim
    obtain ⟨after, closed, rfl⟩ := exists_of_map_eq_ok read
    exact within.goOn (by grind)
  · next found =>
    have opens : OpensCondition body := by
      rw [Source.rest_of_next found] at opened
      exact (List.sublist_append_left ['(', '?', '('] _).trans opened.sublist
    exact isSound_lift (fun next read => within.readCondition (forward found) opens read)
      fun fault failed => (readCondition_misfit failed).of_suffix (forward found)
  · next found => exact within.enter (forward found) _ False.elim
  · next found => exact within.enter (forward found) _ False.elim
  · next found => exact numbered ['0'] found (List.suffix_refl _)
  · next found =>
    exact isSound_lift (fun next read => within.readNamedCall (forward found) read)
      fun fault failed => (readNamedCall_misfit failed).of_suffix (forward found)
  · next found =>
    split
    · exact numbered _ found (Source.takeWhile_suffix _ _ _)
    · exact within.readFlagGroup opened
  · exact within.readFlagGroup opened

theorem IsWithin.readParenthesis (within : reading.IsWithin given body)
    (opened : '(' :: source.rest <:+ body) :
    IsSound given body (reading.readParenthesis source) := by
  have ahead : source.rest <:+ body := by grind
  unfold Reading.readParenthesis
  split
  · next inner found =>
    rw [Source.rest_of_next found] at opened
    exact within.readSpecial opened
  · next inner found =>
    have verb : ∀ node : Node Mention, IsSound given body (Stop.lift
        (((inner.takeWhile reading.spaced fun c => c ≠ ')' && c ≠ '>').2.expect reading.spaced
          ')').map (reading.add node))) := fun node =>
      isSound_lift
        (fun next read => by
          obtain ⟨last, closed, rfl⟩ := exists_of_map_eq_ok read
          exact within.add (by grind) node)
        fun fault failed => (Source.not_misfit_of_expect (eq_error_of_map failed)).elim
    dsimp only
    split
    · split
      · exact verb _
      split
      · exact verb _
      · trivial
    · exact within.enterGroup ahead none
  · exact within.enterGroup ahead none

/-! ### One step and all steps -/

/-- **One step keeps the invariant**, or it restarts with more flags that are explained. -/
theorem IsWithin.step {c : Char} (within : reading.IsWithin given body)
    (found : c :: source.rest <:+ body) (position : Nat) :
    IsSound given body (reading.step c position source) := by
  have ahead : source.rest <:+ body := by grind
  unfold Reading.step
  split
  · exact isSound_lift (fun next read => within.bar ahead read)
      fun fault failed => (not_misfit_of_bar failed).elim
  · exact isSound_lift (fun next read => within.close ahead read)
      fun fault failed => (not_misfit_of_close failed).elim
  · exact within.readParenthesis found
  · exact isSound_lift (fun next read => within.readElement ahead read)
      fun fault failed => (readElement_misfit failed).of_suffix ahead

/-- **A whole reading keeps the invariant.** -/
theorem IsWithin.finish (fuel : Nat) : ∀ {reading : Reading}, reading.IsWithin given body →
    IsSound given body (finish fuel reading) := by
  induction fuel with
  | zero => exact fun within => within
  | succ fuel ih =>
    intro reading within
    rw [Reading.finish]
    split
    · next c after found =>
      have sound := within.step ((Source.next_suffix found).trans within.source)
        reading.source.position
      split
      · next next stepped =>
        rw [stepped] at sound
        exact ih sound
      · next stop stepped =>
        rwa [stepped] at sound
    · split
      · exact within
      · trivial

end Reading

/-! ### The whole of an expression -/

variable {given more : Flags} {body : Text} {parsed : Parsed}

/-- Whether what is read of an expression comes from it: the flags in force are explained, groups
are left out only with a condition, and bounds that there is no code for are written. -/
structure Parsed.IsWithin (given : Flags) (body : Text) (parsed : Parsed) : Prop where
  flags : Explained given body parsed.flags
  leavesOut : parsed.leavesOut = true → OpensCondition body
  fits : parsed.fits = false → Misfit.noCode.StandsIn body

end FeedFilter.Regex
