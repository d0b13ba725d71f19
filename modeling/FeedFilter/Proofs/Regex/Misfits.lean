/-
**Parts of an expression that nothing can be made of.**

An expression has numbers where it repeats something, where it bounds differences, where it refers
to a group and, in effect, where it names a property. Such a number may be too long, written with
digits that are not decimal, missing, infinite, or too large for a bound. The name of a character
may be one of several characters, and a condition may leave out groups that are called. What nothing
can be made of is always written in the expression itself.

* `Misfit.StandsIn`: what nothing can be made of is written in a text.
* `readName_misfit`, `propertyAt_misfit`, `readLimits_error`, `readSum_misfit`,
  `nameRefusal?_misfit`: the places where there may be a misfit.
* `Reading.readElement_misfit`, `Reading.readExtension_misfit`, `Reading.readCondition_misfit`: the
  readers that a step of an expression calls. None of them makes up what is not there.
* `Reading.readApproximation_noCode`: bounds are found to fit unless what does not fit is there.
-/

import FeedFilter.Proofs.Regex.Forward
import Mathlib.Data.List.TakeWhile

open scoped List

namespace FeedFilter

theorem Text.trim_sublist (text : Text) : text.trim <+ text := by
  have back : Text.trimEnd text.trimStart <+ text.trimStart := by
    have dropped := List.dropWhile_sublist (l := text.trimStart.reverse) isBlank
    rwa [← List.reverse_sublist, List.reverse_reverse] at dropped
  exact back.trans (List.dropWhile_sublist isBlank)

namespace Regex

attribute [local grind →] List.IsSuffix.trans
attribute [local grind .] List.suffix_refl

/-- Whether a number that there is no code for is written in a text. -/
def HasLargeNumber (body : Text) : Prop :=
  ∃ digits count, digits <+ body ∧ readCount? digits = .ok (some count) ∧ codeLimit ≤ count

/-- Whether a condition is opened in a text. -/
def OpensCondition (body : Text) : Prop := ['(', '?', '('] <+ body

/-- Whether what nothing can be made of is written in a text, other characters between its own left
aside: a name of digits that are not all decimal, more decimal digits than a number has, a sign that
a number has to follow, the name of an infinite number, or that of several characters. Bounds that
there is no code for have a large number or an escape behind a colon, and groups are left out only
with a condition. -/
def Misfit.StandsIn (body : Text) : Misfit → Prop
  | notDecimal name =>
    name <+ body ∧ name.all Unicode.isDigit = true ∧ name.all Unicode.isDecimal = false
  | tooLong count =>
    Text.longestNumeral < count
      ∧ ∃ digits, digits <+ body ∧ digits.length = count ∧ digits.all Unicode.isDecimal = true
  | missing => '<' ∈ body
  | infinite => ∃ name, name <+ body ∧ Property.isInfinite name = true
  | sequence length => ∃ name, name <+ body ∧ Unicode.sequenceLength? name = some length
  | noCode => HasLargeNumber body ∨ [':', '\\'] <+ body
  | leftOut _ => OpensCondition body

theorem eq_error_of_map {First Second : Type} {outcome : Except Refusal First}
    {next : First → Second} {refusal : Refusal} (failed : outcome.map next = .error refusal) :
    outcome = .error refusal := by
  cases outcome with
  | ok value => cases failed
  | error other => exact congrArg Except.error (Except.error.inj failed)

variable {text body : Text} {misfit : Misfit}

theorem HasLargeNumber.mono (large : HasLargeNumber text) (inside : text <+ body) :
    HasLargeNumber body := by
  obtain ⟨digits, count, written, rest⟩ := large
  exact ⟨digits, count, written.trans inside, rest⟩

@[grind →]
theorem HasLargeNumber.of_suffix (large : HasLargeNumber text) (ends : text <:+ body) :
    HasLargeNumber body := large.mono ends.sublist

theorem Misfit.StandsIn.mono (stands : misfit.StandsIn text) (inside : text <+ body) :
    misfit.StandsIn body := by
  cases misfit with
  | notDecimal name => exact ⟨stands.1.trans inside, stands.2⟩
  | tooLong count =>
    obtain ⟨long, digits, written, rest⟩ := stands
    exact ⟨long, digits, written.trans inside, rest⟩
  | missing => exact inside.subset stands
  | infinite =>
    obtain ⟨name, written, isInfinite⟩ := stands
    exact ⟨name, written.trans inside, isInfinite⟩
  | sequence length =>
    obtain ⟨name, written, named⟩ := stands
    exact ⟨name, written.trans inside, named⟩
  | noCode => exact stands.imp (·.mono inside) (·.trans inside)
  | leftOut group => exact stands.trans inside

@[grind →]
theorem Misfit.StandsIn.of_suffix (stands : misfit.StandsIn text) (ends : text <:+ body) :
    misfit.StandsIn body := stands.mono ends.sublist

/-! ### Numerals -/

/-- The plain digits are the first decimal ones. -/
theorem isDecimal_of_isDigit {c : Char} (plain : c.isDigit = true) :
    Unicode.isDecimal c = true := by
  have low : 0x30 ≤ c.toNat ∧ c.toNat < 0x30 + 10 := by
    simp only [Char.isDigit, Bool.and_eq_true, decide_eq_true_eq, ge_iff_le, UInt32.le_iff_toNat_le]
      at plain
    exact ⟨plain.1, Nat.lt_succ_of_le plain.2⟩
  rw [Unicode.isDecimal, Unicode.decimalValue?, Option.isSome_map, Unicode.zeros,
    List.find?_cons_of_pos (by simpa using low)]
  rfl

theorem isDigit_of_isDecimal {c : Char} (decimal : Unicode.isDecimal c = true) :
    Unicode.isDigit c = true := by
  rw [Unicode.isDigit, decimal, Bool.true_or]

/-- **A numeral that cannot be taken** stands in its own digits. -/
theorem readNumeral_error (digits : text.all Unicode.isDigit = true)
    (failed : readNumeral text = .error misfit) : misfit.StandsIn text := by
  unfold readNumeral at failed
  dsimp only at failed
  split at failed
  · next long =>
    cases failed
    exact ⟨long, _, List.takeWhile_sublist _, rfl, List.all_takeWhile⟩
  split at failed
  · next short =>
    cases failed
    refine ⟨List.Sublist.refl text, digits, Bool.eq_false_iff.mpr fun decimal => ?_⟩
    rw [List.takeWhile_eq_self_iff.mpr (List.all_eq_true.mp decimal)] at short
    exact Nat.lt_irrefl _ short
  · cases failed

theorem readCount?_error (digits : text.all Char.isDigit = true)
    (failed : readCount? text = .error misfit) : misfit.StandsIn text := by
  have digitsToo : text.all Unicode.isDigit = true :=
    List.all_eq_true.mpr fun c member =>
      isDigit_of_isDecimal (isDecimal_of_isDigit (List.all_eq_true.mp digits c member))
  unfold readCount? at failed
  split at failed
  · cases failed
  · cases numeral : readNumeral text with
    | error fault =>
      rw [numeral] at failed
      cases failed
      exact readNumeral_error digitsToo numeral
    | ok count =>
      rw [numeral] at failed
      cases failed

@[grind →]
theorem readCount?_takeWhile_error {spaced : Bool} {source : Source}
    (failed : readCount? (source.takeWhile spaced Char.isDigit).1 = .error misfit) :
    misfit.StandsIn source.rest :=
  (readCount?_error (source.all_takeWhile spaced Char.isDigit) failed).mono
    (source.takeWhile_sublist spaced Char.isDigit)

/-! ### The places that have numbers and names -/

variable {source : Source} {manner : Manner} {spaced : Bool}

@[grind →]
theorem Source.not_misfit_of_expect {expected : Char}
    (failed : source.expect spaced expected = .error (.misfit misfit)) : False := by
  unfold Source.expect at failed
  split at failed <;> cases failed

/-- **A name** that is a number that cannot be taken stands where it is read. -/
@[grind →]
theorem readName_misfit {numbersToo : Bool}
    (failed : readName spaced numbersToo source = .error (.misfit misfit)) :
    misfit.StandsIn source.rest := by
  have written := source.takeWhile_sublist spaced fun c => c ≠ ')' && c ≠ '>'
  unfold readName at failed
  dsimp only at failed
  split at failed
  · cases failed
  split at failed
  · next numeric =>
    split at failed
    · next fault numeral =>
      cases failed
      exact (readNumeral_error (Bool.and_eq_true_iff.mp numeric).2 numeral).mono written
    · split at failed <;> cases failed
  · split at failed <;> cases failed

theorem readPropertyName_sublist (spaced : Bool) (source : Source) :
    (∀ kind ∈ (readPropertyName spaced source).1, kind <+ source.rest)
      ∧ (readPropertyName spaced source).2.1 <+ source.rest := by
  have first := source.takeWhile_sublist spaced isNamePart
  have alone : ∀ kind ∈ (none : Option Text), kind <+ source.rest := fun kind member =>
    (nomatch member)
  unfold readPropertyName
  dsimp only
  split
  · next c second colon =>
    have value := second.takeWhile_sublist spaced fun c => isNamePart c || c = '/'
    have behind : second.rest <+ source.rest :=
      ((List.suffix_cons c _).trans ((Source.next_suffix colon).trans
        (Source.takeWhile_suffix _ _ _))).sublist
    split
    · split
      · exact ⟨alone, first⟩
      · refine ⟨fun kind member => ?_, (Text.trim_sublist _).trans (value.trans behind)⟩
        dsimp only at member
        split at member
        · cases member
        · cases member
          exact first
    · exact ⟨alone, first⟩
  · exact ⟨alone, first⟩

/-- **A property** whose name is infinite is named where it is read. -/
theorem propertyAt_misfit {kind : Option Text} {value : Text} {plainClass : Bool}
    {position : Nat} (failed : propertyAt kind value plainClass position
      = .error (.misfit misfit)) (kinds : ∀ name ∈ kind, name <+ body) (values : value <+ body) :
    misfit.StandsIn body := by
  unfold propertyAt at failed
  split at failed
  · next infinite =>
    cases failed
    rcases Bool.or_eq_true_iff.mp infinite with isKind | isValue
    · cases kind with
      | none => cases isKind
      | some name => exact ⟨name, kinds name rfl, isKind⟩
    · exact ⟨value, values, isValue⟩
  · split at failed <;> cases failed

@[grind →]
theorem propertyAt_letter {c : Char} {position : Nat} {after : Source}
    (failed : propertyAt none [c] false position = .error (.misfit misfit))
    (found : c :: after.rest <:+ source.rest) : misfit.StandsIn source.rest :=
  propertyAt_misfit failed (fun _ member => nomatch member)
    ((List.singleton_sublist.mpr List.mem_cons_self).trans found.sublist)

@[grind →]
theorem propertyAt_named {plainClass : Bool} {position : Nat}
    (failed : propertyAt (readPropertyName spaced source).1 (readPropertyName spaced source).2.1
      plainClass position = .error (.misfit misfit)) : misfit.StandsIn source.rest :=
  propertyAt_misfit failed (readPropertyName_sublist spaced source).1
    (readPropertyName_sublist spaced source).2

@[grind →]
theorem readProperty_misfit {positive : Bool}
    (failed : readProperty manner positive source = .error (.misfit misfit)) :
    misfit.StandsIn source.rest := by
  unfold readProperty at failed
  grind

/-- **A name** of several characters stands where it is read. -/
@[grind →]
theorem nameRefusal?_misfit (found : nameRefusal? manner source = some (.misfit misfit)) :
    misfit.StandsIn source.rest := by
  unfold nameRefusal? at found
  split at found
  · cases found
  · next inner opened =>
    have written := inner.takeWhile_sublist false fun c => c.isAlphanum || c = ' ' || c = '-'
    dsimp only at found
    split at found
    · cases found
    · next length _ named =>
      cases found
      exact ⟨_, written.trans (Source.accept?_suffix opened).sublist, named⟩
    · cases found

@[grind →]
theorem readCharEscape_misfit {letter : Char}
    (failed : readCharEscape manner letter source = .error (.misfit misfit)) :
    misfit.StandsIn source.rest := by
  unfold readCharEscape at failed
  grind [readCodePoint, readOctal]

/-! ### Bounds of approximate matches -/

theorem not_misfit_of_readLimit (failed : readLimit spaced source = .error (.misfit misfit)) :
    False := by
  unfold readLimit at failed
  grind

theorem not_misfit_of_readUpperLimit {inclusive : Bool} {least : Nat} {kind : Char}
    (failed : readUpperLimit spaced inclusive least kind source = .error (.misfit misfit)) :
    False := by
  unfold readUpperLimit at failed
  grind [not_misfit_of_readLimit]

theorem not_misfit_of_readBetween {bounds : Bounds}
    (failed : readBetween spaced bounds source = .error (.misfit misfit)) : False := by
  unfold readBetween at failed
  split at failed
  · next limited =>
    cases failed
    exact not_misfit_of_readLimit limited
  split at failed
  · cases failed
  split at failed
  · cases failed
  grind [not_misfit_of_readUpperLimit]

/-- The bound of a kind is refused, if it is, as a fault of the notation. -/
@[grind →]
theorem not_misfit_of_readBound {bounds : Bounds}
    (failed : readBound spaced bounds source = .error (.misfit misfit)) : False := by
  unfold readBound at failed
  grind [not_misfit_of_readBetween, not_misfit_of_readUpperLimit]

@[grind →]
theorem readWeights_misfit {fuel largest : Nat} {kinds : List Char}
    (failed : readWeights spaced fuel kinds largest source = .error (.misfit misfit)) :
    misfit.StandsIn source.rest := by
  fun_induction readWeights spaced fuel kinds largest source <;> grind

/-- **The bound of a sum** whose weights or limit cannot be taken stands where it is read. -/
@[grind →]
theorem readSum_misfit {bounds : Bounds}
    (failed : readSum spaced bounds source = .error (.misfit misfit)) :
    misfit.StandsIn source.rest := by
  unfold readSum at failed
  grind [Misfit.StandsIn]

@[grind →]
theorem readBounds_misfit {bounds : Bounds} {fuel : Nat}
    (failed : readBounds spaced bounds fuel source = .error (.misfit misfit)) :
    misfit.StandsIn source.rest := by
  fun_induction readBounds spaced bounds fuel source <;> grind

/-! ### Bounds that there is no code for -/

section

variable {after : Source} {bounds : Bounds} {limit : Nat}

@[grind →]
theorem hasLargeNumber_of_readCount? {count : Nat}
    (read : readCount? (source.takeWhile spaced Char.isDigit).1 = .ok (some count))
    (large : codeLimit ≤ count) : HasLargeNumber source.rest :=
  ⟨_, count, source.takeWhile_sublist spaced Char.isDigit, read, large⟩

@[grind →]
theorem hasLargeNumber_of_weight {weight : Option Nat}
    (read : readCount? (source.takeWhile spaced Char.isDigit).1 = .ok weight)
    (large : codeLimit ≤ weight.getD 1) : HasLargeNumber source.rest := by
  cases weight with
  | none => exact absurd large (by decide)
  | some count => exact hasLargeNumber_of_readCount? read large

theorem readLimit_large (found : readLimit spaced source = .ok (limit, after))
    (large : codeLimit ≤ limit) : HasLargeNumber source.rest := by
  unfold readLimit at found
  grind

theorem readUpperLimit_large {inclusive : Bool} {least : Nat} {given kind : Char}
    (found : readUpperLimit spaced inclusive least given source = .ok (some (kind, limit, after)))
    (large : codeLimit ≤ limit) : HasLargeNumber source.rest := by
  unfold readUpperLimit at found
  grind [readLimit_large, beyond]

theorem readBetween_large {kind : Char}
    (found : readBetween spaced bounds source = .ok (some (kind, limit, after)))
    (large : codeLimit ≤ limit) : HasLargeNumber source.rest := by
  obtain ⟨inclusive, least, given, upper, ends, read⟩ := exists_of_readBetween found
  exact (readUpperLimit_large read large).of_suffix ends

@[grind →]
theorem readBound_large {kind : Char}
    (found : readBound spaced bounds source = .ok (some (kind, limit, after)))
    (large : codeLimit ≤ limit) : HasLargeNumber source.rest := by
  unfold readBound at found
  grind [readBetween_large, readUpperLimit_large, codeLimit]

@[grind →]
theorem readWeights_large {fuel largest weight : Nat} {kinds : List Char}
    (found : readWeights spaced fuel kinds largest source = .ok (some (weight, after)))
    (large : codeLimit ≤ weight) : codeLimit ≤ largest ∨ HasLargeNumber source.rest := by
  fun_induction readWeights spaced fuel kinds largest source <;> grind [codeLimit]

@[grind →]
theorem readSum_large {number : Nat}
    (found : readSum spaced bounds source = .ok (some (number, after)))
    (large : codeLimit ≤ number) : HasLargeNumber source.rest := by
  unfold readSum at found
  grind [codeLimit, beyond]

/-- **Bounds with a large number** are written with it. -/
theorem readBounds_large {all : Bounds} {fuel : Nat}
    (found : readBounds spaced bounds fuel source = .ok (some (all, after)))
    (large : codeLimit ≤ all.largest) :
    codeLimit ≤ bounds.largest ∨ HasLargeNumber source.rest := by
  fun_induction readBounds spaced bounds fuel source <;> grind

end

/-! ### Sets in brackets -/

@[grind →]
theorem readNamedClass_misfit (failed : readNamedClass source = .error (.misfit misfit)) :
    misfit.StandsIn source.rest := by
  unfold readNamedClass at failed
  grind

variable {secondVersion plainOnly : Bool}

@[grind →]
theorem readSetItem_misfit
    (failed : readSetItem plainOnly source = .error (.misfit misfit)) :
    misfit.StandsIn source.rest := by
  unfold readSetItem at failed
  grind

@[grind →]
theorem readRange_misfit {first : CharSet}
    (failed : readRange secondVersion plainOnly first source = .error (.misfit misfit)) :
    misfit.StandsIn source.rest := by
  unfold readRange at failed
  grind

@[grind →]
theorem readMember_misfit
    (failed : readMember secondVersion plainOnly source = .error (.misfit misfit)) :
    misfit.StandsIn source.rest := by
  unfold readMember at failed
  grind

/-- **A number that a set cannot take** stands in it, however sets nest. -/
theorem readSetFrom_misfit {fuel : Nat} {operands : Operands} {outer : List Operands}
    (failed : readSetFrom secondVersion plainOnly fuel operands outer source
      = .error (.misfit misfit)) : misfit.StandsIn source.rest := by
  fun_induction readSetFrom secondVersion plainOnly fuel operands outer source <;>
    grind [List.drop_suffix]

@[grind →]
theorem readSet_misfit
    (failed : readSet secondVersion plainOnly source = .error (.misfit misfit)) :
    misfit.StandsIn source.rest :=
  (readSetFrom_misfit failed).of_suffix (readNegation_suffix source)

/-! ### What the steps of an expression read -/

namespace Reading

@[grind →]
theorem readLimits_error (failed : readLimits spaced source = .error misfit) :
    misfit.StandsIn source.rest := by
  unfold readLimits at failed
  grind

variable {reading : Reading}

@[grind →]
theorem readCounts_misfit (failed : reading.readCounts source = .error (.misfit misfit)) :
    misfit.StandsIn source.rest := by
  unfold readCounts at failed
  grind

@[grind →]
theorem readQuantifier_misfit {c : Char}
    (failed : reading.readQuantifier c source = .error (.misfit misfit)) :
    misfit.StandsIn source.rest := by
  unfold readQuantifier at failed
  grind

@[grind →]
theorem readBracketedName_misfit
    (failed : reading.readBracketedName source = .error (.misfit misfit)) :
    misfit.StandsIn source.rest := by
  unfold readBracketedName at failed
  grind

@[grind →]
theorem readEscape_misfit (failed : reading.readEscape source = .error (.misfit misfit)) :
    misfit.StandsIn source.rest := by
  unfold readEscape at failed
  grind [readNumbered]

@[grind →]
theorem not_misfit_of_repeatLast {least : Nat} {most : Option Nat} {position : Nat}
    (failed : reading.repeatLast least most position source = .error (.misfit misfit)) :
    False := by
  unfold repeatLast at failed
  split at failed <;> cases failed

theorem not_misfit_of_bar {position : Nat}
    (failed : reading.bar position source = .error (.misfit misfit)) : False := by
  simp only [bar] at failed
  grind

theorem not_misfit_of_close {position : Nat}
    (failed : reading.close position source = .error (.misfit misfit)) : False := by
  simp only [close] at failed
  grind

@[grind →]
theorem readDifferences_misfit
    (failed : reading.readDifferences source = .error (.misfit misfit)) :
    misfit.StandsIn source.rest := by
  unfold readDifferences at failed
  grind

@[grind →]
theorem readApproximation_misfit
    (failed : reading.readApproximation source = .error (.misfit misfit)) :
    misfit.StandsIn source.rest := by
  unfold readApproximation at failed
  grind

/-- Differences that there is no code for are behind a backslash. -/
theorem readDifferences_noCode {after : Source}
    (found : reading.readDifferences source = .ok (false, after)) : ['\\'] <+ source.rest := by
  unfold readDifferences at found
  split at found
  · next inner read =>
    exact List.singleton_sublist.mpr ((Source.next_suffix read).subset List.mem_cons_self)
  all_goals grind

/-- **Bounds that there is no code for** are written with what there is none for. -/
theorem readApproximation_noCode {after : Source}
    (found : reading.readApproximation source = .ok (some (false, after))) :
    Misfit.noCode.StandsIn source.rest := by
  unfold readApproximation at found
  split at found
  · cases found
  · cases found
  next bounds bounded read =>
  have behind := (readBounds_suffix read).sublist
  dsimp only at found
  split at found
  · cases found
  next fits last described =>
  split at found
  · cases found
  next closed =>
  have misses : (fits && decide (bounds.largest < codeLimit)) = false := by grind
  rcases Bool.and_eq_false_iff.mp misses with unfit | large
  · rw [unfit] at described
    split at described
    · cases described
    · next inner colon =>
      exact .inr (((readDifferences_noCode described).cons_cons ':').trans
        ((Source.accept?_sublist colon).trans behind))
  · have known := readBounds_large read (Nat.le_of_not_lt (of_decide_eq_false large))
    exact .inl (known.resolve_left (by decide))

@[grind →]
theorem not_misfit_of_boundLast {fits : Bool} {position : Nat}
    (failed : reading.boundLast fits position source = .error (.misfit misfit)) : False := by
  unfold boundLast at failed
  split at failed <;> cases failed

theorem readElement_misfit {c : Char} {position : Nat}
    (failed : reading.readElement c position source = .error (.misfit misfit)) :
    misfit.StandsIn source.rest := by
  unfold readElement at failed
  split at failed
  case h_1 => exact readEscape_misfit (eq_error_of_map failed)
  case h_5 => exact readSet_misfit (eq_error_of_map failed)
  case h_6 => grind
  all_goals cases failed

@[grind →]
theorem readNamedGroup_misfit
    (failed : reading.readNamedGroup source = .error (.misfit misfit)) :
    misfit.StandsIn source.rest := by
  unfold readNamedGroup at failed
  grind

@[grind →]
theorem readNamedCall_misfit {position : Nat}
    (failed : reading.readNamedCall position source = .error (.misfit misfit)) :
    misfit.StandsIn source.rest := by
  unfold readNamedCall at failed
  grind

theorem not_misfit_of_readNumberedCall {digits : Text} {position : Nat}
    (failed : reading.readNumberedCall digits position source = .error (.misfit misfit)) :
    False := by
  unfold readNumberedCall at failed
  grind

theorem readExtension_misfit
    (failed : reading.readExtension source = .error (.misfit misfit)) :
    misfit.StandsIn source.rest := by
  unfold readExtension at failed
  grind

theorem readCondition_misfit
    (failed : reading.readCondition source = .error (.misfit misfit)) :
    misfit.StandsIn source.rest := by
  unfold readCondition at failed
  grind

end Reading

end Regex

end FeedFilter
