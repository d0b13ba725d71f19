/-
**What a line is read as.**

A line is a directive or is refused as none, unless the reading of its expression breaks down. Only
an expression between slashes can do so: a word always compiles.

* `Directive.IsSettled`: a line that is a directive or is refused.
* `literal?_eq_some_iff`: what is read as an expression between slashes.
* `compile_of_word`, `compile_of_flags`: the two ways to read the rest of a line.
* `Matcher.IsExpression`, `Matcher.AreFlags`: the expressions, and the letters that they may have.
* `Matcher.flagsIn`: what letters say; `Matcher.compile_of_areFlags`: nothing else of them counts.
* `isSettled_of_word`: a word settles.
-/

import FeedFilter.Directive
import FeedFilter.Proofs.LiteralWord.Expression

namespace FeedFilter

/-- Only the members of a list of flags count for an expression. -/
theorem Regex.compile_congr {first second : List Regex.Flag}
    (same : ∀ flag, flag ∈ first ↔ flag ∈ second) (body : Text) :
    Regex.compile first body = Regex.compile second body := by
  have sets : Flags.ofList first = Flags.ofList second := by
    funext flag
    unfold Flags.ofList
    rw [List.contains_eq_mem, List.contains_eq_mem, decide_eq_decide]
    exact same flag
  unfold Regex.compile
  rw [sets]

/-! ### Expressions between slashes -/

namespace Matcher

/-- The last slash of a text has no slash after it. -/
theorem splitAtLastSlash?_eq_some_iff {text front back : Text} :
    splitAtLastSlash? text = some (front, back) ↔ text = front ++ '/' :: back ∧ '/' ∉ back := by
  simp only [splitAtLastSlash?]
  constructor
  · intro found
    split at found
    · cases found
    · next slash before cut =>
      have isSlash : slash = '/' := by
        have stops := List.head?_dropWhile_not (fun c => decide (c ≠ '/')) text.reverse
        rw [cut] at stops
        simpa using stops
      have whole := List.takeWhile_append_dropWhile
        (p := fun c => decide (c ≠ '/')) (l := text.reverse)
      rw [cut, isSlash] at whole
      have free := List.all_eq_true.mp
        (List.all_takeWhile (p := fun c => decide (c ≠ '/')) (l := text.reverse))
      cases found
      refine ⟨?_, fun member => of_decide_eq_true (free '/' (List.mem_reverse.mp member)) rfl⟩
      have turned := congrArg List.reverse whole
      rw [List.reverse_append, List.reverse_cons, List.append_assoc, List.singleton_append,
        List.reverse_reverse] at turned
      exact turned.symm
  · rintro ⟨rfl, free⟩
    have passed : ∀ c ∈ back.reverse, decide (c ≠ '/') = true := fun c member =>
      decide_eq_true fun equal => free (equal ▸ List.mem_reverse.mp member)
    have turned : (front ++ '/' :: back).reverse = back.reverse ++ '/' :: front.reverse := by
      rw [List.reverse_append, List.reverse_cons, List.append_assoc, List.singleton_append]
    rw [turned, List.dropWhile_append_of_pos passed, List.takeWhile_append_of_pos passed]
    simp

theorem slash_not_mem {letters : Text} (lower : letters.all isFlagLetter = true) : '/' ∉ letters :=
  fun member => absurd (List.all_eq_true.mp lower '/' member) (by decide)

/-- **What is read as an expression**: a body between slashes, with letters behind it. -/
theorem literal?_eq_some_iff {text body letters : Text} :
    literal? text = some (body, letters)
      ↔ text = '/' :: (body ++ '/' :: letters) ∧ body ≠ [] ∧ '\n' ∉ body
        ∧ letters.all isFlagLetter = true := by
  constructor
  · intro found
    unfold literal? at found
    split at found
    · next rest =>
      split at found
      · next front back cut =>
        split at found
        · next allowed =>
          cases found
          rw [Bool.and_eq_true, Bool.and_eq_true, Bool.not_eq_true', Bool.not_eq_true',
            List.isEmpty_eq_false_iff, List.contains_eq_mem, decide_eq_false_iff_not] at allowed
          obtain ⟨⟨filled, oneLine⟩, lower⟩ := allowed
          exact ⟨congrArg _ (splitAtLastSlash?_eq_some_iff.mp cut).1, filled, oneLine, lower⟩
        · cases found
      · cases found
    · cases found
  · rintro ⟨rfl, filled, oneLine, lower⟩
    have cut := splitAtLastSlash?_eq_some_iff.mpr
      ⟨(rfl : body ++ '/' :: letters = body ++ '/' :: letters), slash_not_mem lower⟩
    simp only [literal?, cut]
    rw [if_pos]
    rw [Bool.and_eq_true, Bool.and_eq_true, Bool.not_eq_true', Bool.not_eq_true',
      List.isEmpty_eq_false_iff, List.contains_eq_mem, decide_eq_false_iff_not]
    exact ⟨⟨filled, oneLine⟩, lower⟩

/-- Whether a letter stands twice. -/
theorem hasRepeat_eq_false_iff {letters : Text} : hasRepeat letters = false ↔ letters.Nodup := by
  induction letters with
  | nil => exact iff_of_true rfl List.nodup_nil
  | cons letter rest ih =>
    rw [hasRepeat, Bool.or_eq_false_iff, ih, List.nodup_cons, List.contains_eq_mem,
      decide_eq_false_iff_not]

/-- An expression is read with the flags of its letters. -/
theorem compile_of_flags {text body letters : Text} {flags : List Regex.Flag}
    (found : literal? text = some (body, letters)) (known : flagsOfLetters letters = .ok flags) :
    compile text = ofRegex text (Regex.compile flags body) := by
  simp only [compile, found, known]

/-- An expression with letters that are no flags is refused. -/
theorem compile_of_letters {text body letters : Text} {error : DirectiveError}
    (found : literal? text = some (body, letters))
    (refused : flagsOfLetters letters = .error error) :
    compile text = .error (.invalid error) := by
  simp only [compile, found, refused]

/-- A word is read as itself. -/
theorem compile_of_word {text : Text} (plain : literal? text = none) (filled : text ≠ []) :
    ∃ regex, LiteralWord.regex text = .ok regex ∧ compile text = .ok ⟨text, regex⟩ := by
  refine ⟨_, LiteralWord.regex_eq text, ?_⟩
  unfold compile
  rw [plain]
  simp only [List.isEmpty_iff, if_neg filled]
  rw [LiteralWord.regex_eq, ofRegex]

/-! ### Letters behind an expression -/

/-- Whether a text is an expression: a body between slashes that is not empty and has no line feed
in it, and lower-case letters behind the last slash. -/
structure IsExpression (text body letters : Text) : Prop where
  written : text = '/' :: (body ++ '/' :: letters)
  filled : body ≠ []
  oneLine : '\n' ∉ body
  lower : ∀ letter ∈ letters, 'a' ≤ letter ∧ letter ≤ 'z'

theorem isExpression_iff_literal? {text body letters : Text} :
    IsExpression text body letters ↔ literal? text = some (body, letters) := by
  rw [literal?_eq_some_iff, List.all_eq_true]
  simp only [isFlagLetter, Bool.and_eq_true, decide_eq_true_eq]
  constructor
  · rintro ⟨written, filled, oneLine, lower⟩
    exact ⟨written, filled, oneLine, lower⟩
  · rintro ⟨written, filled, oneLine, lower⟩
    exact ⟨written, filled, oneLine, lower⟩

/-- The letters that may stand behind an expression. -/
def knownLetters : Text := "imsuvgyd".toList

/-- Whether letters may stand behind an expression together. -/
structure AreFlags (letters : Text) : Prop where
  distinct : letters.Nodup
  known : ∀ letter ∈ letters, letter ∈ knownLetters
  exclusive : ¬ ('u' ∈ letters ∧ 'v' ∈ letters)

/-- The letters that change what an expression finds. -/
def meanings : List (Char × Regex.Flag) :=
  [('i', .ignoreCase), ('m', .multiline), ('s', .dotAll), ('v', .version1)]

/-- The flags that letters set: those of the letters with a meaning that are among them. -/
def flagsIn (letters : Text) : List Regex.Flag :=
  (meanings.filter fun meaning => letters.contains meaning.1).map Prod.snd

theorem flagsIn_congr {letters others : Text}
    (same : ∀ letter ∈ meanings.map Prod.fst, letter ∈ letters ↔ letter ∈ others) :
    flagsIn letters = flagsIn others := by
  unfold flagsIn
  congr 1
  refine List.filter_congr fun meaning member => ?_
  rw [List.contains_eq_mem, List.contains_eq_mem, decide_eq_decide]
  exact same meaning.1 (List.mem_map_of_mem member)

theorem flagOfLetter?_join_iff {letter : Char} {flag : Regex.Flag} :
    (flagOfLetter? letter).join = some flag ↔ (letter, flag) ∈ meanings := by
  constructor
  · intro sets
    unfold flagOfLetter? at sets
    split at sets <;> cases sets <;> decide
  · intro member
    simp only [meanings, List.mem_cons, Prod.mk.injEq, List.not_mem_nil, or_false] at member
    rcases member with ⟨rfl, rfl⟩ | ⟨rfl, rfl⟩ | ⟨rfl, rfl⟩ | ⟨rfl, rfl⟩ <;> rfl

theorem flagOfLetter?_isNone_iff {letter : Char} :
    (flagOfLetter? letter).isNone = true ↔ letter ∉ knownLetters := by
  constructor
  · intro none member
    have all : (knownLetters.all fun letter => !(flagOfLetter? letter).isNone) = true := by decide
    have some := List.all_eq_true.mp all letter member
    rw [none] at some
    cases some
  · intro unknown
    unfold flagOfLetter?
    split
    all_goals first | rfl | exact absurd (by decide) unknown

theorem mem_flagsIn {letters : Text} {flag : Regex.Flag} :
    flag ∈ letters.filterMap (fun letter => (flagOfLetter? letter).join)
      ↔ flag ∈ flagsIn letters := by
  unfold flagsIn
  simp only [List.mem_filterMap, flagOfLetter?_join_iff, List.mem_map, List.mem_filter,
    List.contains_eq_mem, decide_eq_true_eq]
  constructor
  · rintro ⟨letter, member, meaning⟩
    exact ⟨(letter, flag), ⟨meaning, member⟩, rfl⟩
  · rintro ⟨⟨letter, _⟩, ⟨meaning, member⟩, rfl⟩
    exact ⟨letter, member, meaning⟩

/-- **The letters that are accepted.** -/
theorem flagsOfLetters_eq_ok_iff {letters : Text} {flags : List Regex.Flag} :
    flagsOfLetters letters = .ok flags
      ↔ AreFlags letters
        ∧ flags = letters.filterMap fun letter => (flagOfLetter? letter).join := by
  unfold flagsOfLetters
  constructor
  · intro known
    split at known
    · cases known
    next single =>
    split at known
    · cases known
    next apart =>
    split at known
    · cases known
    next all =>
    cases known
    refine ⟨⟨hasRepeat_eq_false_iff.mp (Bool.not_eq_true _ ▸ single), fun letter member => ?_, ?_⟩,
      rfl⟩
    · have meant := List.find?_eq_none.mp all letter member
      rwa [flagOfLetter?_isNone_iff, Decidable.not_not] at meant
    · simpa [List.contains_eq_mem] using apart
  · rintro ⟨⟨distinct, known, exclusive⟩, rfl⟩
    have single : hasRepeat letters = false := hasRepeat_eq_false_iff.mpr distinct
    have apart : (letters.contains 'u' && letters.contains 'v') = false := by
      rw [← Bool.not_eq_true, Bool.and_eq_true, List.contains_iff_mem, List.contains_iff_mem]
      exact exclusive
    have all : letters.find? (fun letter => (flagOfLetter? letter).isNone) = none :=
      List.find?_eq_none.mpr fun letter member none =>
        flagOfLetter?_isNone_iff.mp none (known letter member)
    simp only [single, apart, all, Bool.false_eq_true, if_false]

/-- **An expression is read by the flags of its letters**, and by nothing else of them. -/
theorem compile_of_areFlags {text body letters : Text} (shape : IsExpression text body letters)
    (areFlags : AreFlags letters) :
    compile text = ofRegex text (Regex.compile (flagsIn letters) body) := by
  rw [compile_of_flags (isExpression_iff_literal?.mp shape)
    (flagsOfLetters_eq_ok_iff.mpr ⟨areFlags, rfl⟩), Regex.compile_congr fun _ => mem_flagsIn]

/-- Other letters are refused. -/
theorem compile_of_not_areFlags {text body letters : Text} (shape : IsExpression text body letters)
    (others : ¬ AreFlags letters) : ∃ error, compile text = .error (.invalid error) := by
  cases known : flagsOfLetters letters with
  | error error => exact ⟨error, compile_of_letters (isExpression_iff_literal?.mp shape) known⟩
  | ok flags => exact absurd (flagsOfLetters_eq_ok_iff.mp known).1 others

end Matcher

/-! ### Lines that settle -/

namespace Directive

/-- A line that begins with a slash has no mark in front. -/
theorem Form.ofLine_of_slash (rest : Text) :
    Form.ofLine ('/' :: rest) = ⟨false, false, '/' :: rest⟩ := rfl

/-- A line without a mark in front is its own rest. -/
theorem Form.ofLine_of_unmarked {line : Text} (noKeep : afterKeep? line = none)
    (noReactor : afterReactor? line = none) : Form.ofLine line = ⟨false, false, line⟩ := by
  simp only [Form.ofLine, noKeep, Option.getD_none, noReactor, Option.isSome_none]

/-- A line is what its marks make of its rest. -/
theorem compile_eq (line : Text) :
    compile line = (Matcher.compile (Form.ofLine line).rest).map fun matcher =>
      ⟨(Form.ofLine line).keeps, (Form.ofLine line).byReactor, matcher⟩ := by
  unfold compile
  dsimp only
  cases Matcher.compile (Form.ofLine line).rest <;> rfl

/-- An unmarked line is a rule on the text of a post. -/
theorem compile_of_unmarked {line : Text} (unmarked : Form.ofLine line = ⟨false, false, line⟩) :
    compile line = (Matcher.compile line).map fun matcher => ⟨false, false, matcher⟩ := by
  rw [compile_eq, unmarked]

/-- The rest of a line is what its marks leave of it. -/
theorem Form.rest_suffix (line : Text) : (ofLine line).rest <:+ line := by
  have unmarked : (afterKeep? line).getD line <:+ line := by
    unfold afterKeep?
    split
    · exact List.suffix_cons _ _
    · exact List.suffix_refl line
  refine List.IsSuffix.trans ?_ unmarked
  show (afterReactor? _).getD _ <:+ (afterKeep? line).getD line
  generalize (afterKeep? line).getD line = front
  unfold afterReactor?
  split
  · split
    · next c rest dropped =>
      have behind : c :: rest <:+ front := dropped ▸ List.drop_suffix reactorMark.length front
      split
      · exact (List.dropWhile_suffix isSpace).trans ((List.suffix_cons c rest).trans behind)
      · exact List.suffix_refl front
    · exact List.suffix_refl front
  · exact List.suffix_refl front

/-- Whether a line either is a directive or is refused as none. -/
def IsSettled (line : Text) : Prop :=
  (∃ directive, compile line = .ok directive) ∨ ∃ error, compile line = .error (.invalid error)

/-- A line settles when its rest does. -/
theorem isSettled_of_matcher {line : Text}
    (unbroken : ∀ breakdown,
      Matcher.compile (Form.ofLine line).rest ≠ .error (.breakdown breakdown)) :
    IsSettled line := by
  cases outcome : Matcher.compile (Form.ofLine line).rest with
  | ok matcher => exact .inl ⟨_, by rw [compile, outcome]⟩
  | error failure => cases failure with
    | invalid error => exact .inr ⟨error, by rw [compile, outcome]⟩
    | breakdown breakdown => exact absurd outcome (unbroken breakdown)

/-- **A line without an expression between slashes settles.** -/
theorem isSettled_of_word {line : Text} (plain : Matcher.literal? (Form.ofLine line).rest = none) :
    IsSettled line := by
  refine isSettled_of_matcher fun breakdown failed => ?_
  by_cases filled : (Form.ofLine line).rest = []
  · rw [Matcher.compile, plain, filled] at failed
    cases failed
  · obtain ⟨regex, -, compiled⟩ := Matcher.compile_of_word plain filled
    rw [compiled] at failed
    cases failed

end Directive

end FeedFilter
