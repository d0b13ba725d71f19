/-
**Whole numbers that are too long.**

A text may be written correctly and still not be read, because a whole number in it has too many
digits. Reading never goes back, so what it leaves is an end of the text it began with, and it
stops at such a number only where the digits stand.

* `HasRun`: a text has too many digits in a row.
* `Explains`: what a reading leaves and why it stops.
* `readValue_explains`: every reading of a value is of this kind.
* `hasRun_of_read`: a text that is given up for a number has the digits of this number in a row.
-/

import FeedFilter.Json.Reader
import Mathlib.Data.List.Infix
import Mathlib.Data.List.TakeWhile

namespace FeedFilter.Json

/-- So many digits in a row, more than a whole number may have. -/
def HasRun (text : Text) (count : Nat) : Prop :=
  Text.longestNumeral < count ∧ ∃ run, run <:+: text ∧ run.length = count ∧ ∀ c ∈ run, c.isDigit

/-- A reading leaves an end of a text; if it stops at a number that is too long, the text has its
digits. -/
def Explains {Value : Type} (text : Text) : Except JsonError (Value × Rest) → Prop
  | .ok (_, rest) => rest.text <:+ text
  | .error error => ∀ digits, error.fault = .numeralTooLong digits → HasRun text digits

namespace Explains

variable {Value : Type} {text part : Text} {reading : Except JsonError (Value × Rest)}

theorem of_suffix (shorter : part <:+ text) (explains : Explains part reading) :
    Explains text reading := by
  cases reading with
  | ok result => exact List.IsSuffix.trans explains shorter
  | error error =>
    intro digits long
    obtain ⟨many, run, inside, length, allDigits⟩ := explains digits long
    exact ⟨many, run, inside.trans shorter.isInfix, length, allDigits⟩

theorem map {Other : Type} (explains : Explains text reading) (change : Value → Other) :
    Explains text (reading.map fun result => (change result.1, result.2)) := by
  cases reading with
  | ok result => exact explains
  | error error => exact explains

theorem fail {fault : JsonFault} (other : ∀ digits, fault ≠ .numeralTooLong digits)
    (position : Nat) :
    Explains text (.error ⟨fault, position⟩ : Except JsonError (Value × Rest)) :=
  fun digits long => absurd long (other digits)

end Explains

/-! ### Texts and numbers -/

theorem drop_suffix (rest : Rest) (count : Nat) : (rest.drop count).text <:+ rest.text :=
  List.drop_suffix count rest.text

theorem skip_suffix (rest : Rest) : rest.skip.text <:+ rest.text := drop_suffix rest _

theorem readCodeUnit_explains (rest : Rest) : Explains rest.text (readCodeUnit rest) := by
  rw [readCodeUnit]
  split
  · exact .fail (by simp) _
  split
  · exact .fail (by simp) _
  dsimp only
  split
  · split
    · split
      · exact .fail (by simp) _
      · split
        · exact (drop_suffix _ 6).trans (drop_suffix rest 4)
        · exact drop_suffix rest 4
    · exact drop_suffix rest 4
  · exact drop_suffix rest 4

theorem readText_explains (start fuel : Nat) (rest : Rest) :
    Explains rest.text (readText start fuel rest) := by
  induction fuel generalizing rest with
  | zero => exact .fail (by simp) _
  | succ fuel ih =>
    rw [readText]
    split
    · exact .fail (by simp) _
    · exact drop_suffix rest 1
    · exact .fail (by simp) _
    · have unit := (readCodeUnit_explains (rest.drop 2)).of_suffix (drop_suffix rest 2)
      split
      · next stopped => rwa [stopped] at unit
      · next c after read =>
        rw [read] at unit
        exact ((ih after).of_suffix unit).map (c :: ·)
    · split
      · exact .fail (by simp) _
      · next c _ => exact ((ih _).of_suffix (drop_suffix rest 2)).map (c :: ·)
    · split
      · exact .fail (by simp) _
      · exact ((ih _).of_suffix (drop_suffix rest 1)).map (List.cons _)

/-- The digits at the front of a text. -/
theorem wholeDigits_spec (text : Text) :
    wholeDigits text <+: text ∧ ∀ c ∈ wholeDigits text, c.isDigit := by
  rw [wholeDigits.eq_def]
  split
  · exact ⟨List.prefix_append ['0'] _, by simp⟩
  · exact ⟨List.takeWhile_prefix _, fun c member => List.mem_takeWhile_imp member⟩

theorem readNumber_explains (rest : Rest) : Explains rest.text (readNumber rest) := by
  have unsigned (negative : Bool) :
      (if negative then rest.drop 1 else rest).text <:+ rest.text := by
    cases negative
    · exact List.suffix_rfl
    · exact drop_suffix rest 1
  have shorter := unsigned (rest.text.head? == some '-')
  rw [readNumber]
  dsimp only
  generalize (if (rest.text.head? == some '-') = true then rest.drop 1 else rest) = number at *
  have behind := (drop_suffix number (wholeDigits number.text).length).trans shorter
  split
  · exact .fail (by simp) _
  split
  · refine (drop_suffix _ _).trans ?_
    split
    · exact behind
    · exact (drop_suffix _ _).trans behind
  · split
    · split
      · next long =>
        intro digits same
        cases same
        obtain ⟨front, allDigits⟩ := wholeDigits_spec number.text
        exact ⟨long, _, front.isInfix.trans shorter.isInfix, rfl, allDigits⟩
      · exact behind
    · exact (drop_suffix _ _).trans behind

theorem readPlain_explains (rest : Rest) : Explains rest.text (readPlain rest) := by
  rw [readPlain]
  split
  · exact drop_suffix rest _
  · exact readNumber_explains rest

/-! ### Values -/

theorem readValue_step {fuel : Nat} (items : ∀ rest, Explains rest.text (readItems fuel rest))
    (fields : ∀ done rest, Explains rest.text (readFields fuel done rest)) (rest : Rest) :
    Explains rest.text (readValue (fuel + 1) rest) := by
  have inner : (rest.drop 1).skip.text <:+ rest.text :=
    (skip_suffix _).trans (drop_suffix rest 1)
  rw [readValue]
  split
  · exact ((readText_explains _ _ _).of_suffix (drop_suffix rest 1)).map Json.string
  · dsimp only
    split
    · exact (drop_suffix _ 1).trans inner
    · exact ((items _).of_suffix inner).map Json.list
  · dsimp only
    split
    · exact (drop_suffix _ 1).trans inner
    · exact ((fields [] _).of_suffix inner).map Json.object
  · exact readPlain_explains rest

theorem readItems_step {fuel : Nat} (values : ∀ rest, Explains rest.text (readValue fuel rest))
    (items : ∀ rest, Explains rest.text (readItems fuel rest)) (rest : Rest) :
    Explains rest.text (readItems (fuel + 1) rest) := by
  have value := values rest
  rw [readItems]
  split
  · next stopped => rwa [stopped] at value
  · next item after read =>
    rw [read] at value
    have behind : after.skip.text <:+ rest.text := (skip_suffix after).trans value
    dsimp only
    split
    · exact (drop_suffix _ 1).trans behind
    · have further : (after.skip.drop 1).skip.text <:+ rest.text :=
        ((skip_suffix _).trans (drop_suffix _ 1)).trans behind
      exact ((items _).of_suffix further).map (List.cons item)
    · exact .fail (by simp) _

theorem readFields_step {fuel : Nat} (values : ∀ rest, Explains rest.text (readValue fuel rest))
    (fields : ∀ done rest, Explains rest.text (readFields fuel done rest))
    (done : List (Text × Json)) (rest : Rest) :
    Explains rest.text (readFields (fuel + 1) done rest) := by
  rw [readFields]
  split
  · have name := (readText_explains rest.position rest.text.length (rest.drop 1)).of_suffix
      (drop_suffix rest 1)
    split
    · next stopped => rwa [stopped] at name
    · next key colon read =>
      rw [read] at name
      dsimp only
      split
      · have back : (colon.skip.drop 1).skip.text <:+ rest.text :=
          (((skip_suffix _).trans (drop_suffix _ 1)).trans (skip_suffix colon)).trans name
        have value := (values (colon.skip.drop 1).skip).of_suffix back
        split
        · next stopped => rwa [stopped] at value
        · next item after read =>
          rw [read] at value
          have behind : after.skip.text <:+ rest.text := (skip_suffix after).trans value
          split
          · exact (drop_suffix _ 1).trans behind
          · have further : (after.skip.drop 1).skip.text <:+ rest.text :=
              ((skip_suffix _).trans (drop_suffix _ 1)).trans behind
            exact (fields _ _).of_suffix further
          · exact .fail (by simp) _
      · exact .fail (by simp) _
  · exact .fail (by simp) _

/-- **What is left after a value is an end of the text**, and the same holds of items and fields. -/
theorem readValue_explains (fuel : Nat) :
    (∀ rest, Explains rest.text (readValue fuel rest))
      ∧ (∀ rest, Explains rest.text (readItems fuel rest))
      ∧ ∀ done rest, Explains rest.text (readFields fuel done rest) := by
  -- Values, items and fields are read by each other, so that one induction carries all three.
  induction fuel with
  | zero => exact ⟨fun _ => .fail (by simp) _, fun _ => .fail (by simp) _,
      fun _ _ => .fail (by simp) _⟩
  | succ fuel ih =>
    obtain ⟨values, items, fields⟩ := ih
    exact ⟨readValue_step items fields, readItems_step values items, readFields_step values fields⟩

/-- **A text that is given up for a number has the digits of this number in a row.** -/
theorem hasRun_of_read {text : Text} {digits position : Nat}
    (long : read text = .error ⟨.numeralTooLong digits, position⟩) : HasRun text digits := by
  have value := ((readValue_explains (text.length + 1)).1 (Rest.skip ⟨text, 0⟩)).of_suffix
    (skip_suffix ⟨text, 0⟩)
  rw [read] at long
  split at long
  · cases long
  · split at long
    · next stopped =>
      rw [stopped] at value
      cases long
      exact value digits rfl
    · dsimp only at long
      split at long
      · cases long
      · cases long

end FeedFilter.Json
