/-
**One item of the first release.**

The first release had words, and expressions between slashes. It read an item as an expression only
if all of it is one, on a single line and with flags that it knew; any other item was a word,
whatever it looks like. The directive an item is migrated to is read as the item was.

* `IsExpression`, `Reads`, `IsRejected`: how the first release read an item.
* `written`: the directive of an item before it is escaped.
* `written_clean`: escaping, joining and trimming do that directive no harm.
* `compile_written`: the directive of an item is read as the item was.
-/

import FeedFilter.Migration
import FeedFilter.Proofs.Comment.OnePass
import FeedFilter.Proofs.Directive.Reading
import FeedFilter.Proofs.Text.Lines

namespace FeedFilter.Migration

/-! ### How the first release read an item -/

/-- The letters that the first release knew behind an expression. -/
def firstLetters : List Char := ['g', 'i', 'm', 'u', 'y']

/-- An item that the first release read as an expression. -/
structure IsExpression (item body letters : Text) : Prop where
  oneLine : item.lines = [item]
  written : item = '/' :: (body ++ '/' :: letters)
  filled : body ≠ []
  known : ∀ letter ∈ letters, letter ∈ firstLetters

/-- The flags that letters set; of the known ones only two change a search. -/
def firstFlags (letters : Text) : List Regex.Flag :=
  (if 'i' ∈ letters then [.ignoreCase] else []) ++ if 'm' ∈ letters then [.multiline] else []

/-- What the first release looked for: the body of an expression with its flags, or a word. An
expression that cannot be read, or has a letter twice, looked for nothing. -/
inductive Reads (item : Text) : Regex → Prop
  | expression {body letters : Text} {regex : Regex} (isExpression : IsExpression item body letters)
    (distinct : letters.Nodup) (compiled : Regex.compile (firstFlags letters) body = .ok regex) :
    Reads item regex
  | word {regex : Regex} (isWord : ∀ body letters, ¬ IsExpression item body letters)
    (compiled : LiteralWord.regex item = .ok regex) : Reads item regex

/-- Whether an item matches a text. -/
def Matches (item text : Text) : Prop := ∃ regex, Reads item regex ∧ regex.isFoundIn text = true

/-- Whether an item is an expression that looks for nothing. -/
def IsRejected (item : Text) : Prop :=
  ∃ body letters, IsExpression item body letters
    ∧ (letters.Nodup → ∃ error, Regex.compile (firstFlags letters) body = .error (.invalid error))

/-! ### Expressions and their flags -/

/-- An item that is an expression is still read as one. -/
theorem IsExpression.isRead {item body letters : Text} (shape : IsExpression item body letters) :
    Matcher.IsExpression item body letters where
  written := shape.written
  filled := shape.filled
  oneLine feed := by
    have inside : '\n' ∈ item := by
      rw [shape.written]
      exact List.mem_cons_of_mem _ (List.mem_append_left _ feed)
    exact absurd ((Text.lines_eq_singleton_iff.mp shape.oneLine).2 _ inside) (by decide)
  lower letter member := by
    have lower : firstLetters.all (fun letter => decide ('a' ≤ letter ∧ letter ≤ 'z')) = true := by
      decide
    exact of_decide_eq_true (List.all_eq_true.mp lower letter (shape.known letter member))

theorem IsExpression.literal? {item body letters : Text} (shape : IsExpression item body letters) :
    Matcher.literal? item = some (body, letters) :=
  Matcher.isExpression_iff_literal?.mp shape.isRead

/-- An item is read as an expression in one way at most. -/
theorem IsExpression.unique {item body letters other others : Text}
    (first : IsExpression item body letters) (second : IsExpression item other others) :
    other = body ∧ others = letters := by
  have same := first.literal?.symm.trans second.literal?
  rw [Option.some.injEq, Prod.mk.injEq] at same
  exact ⟨same.1.symm, same.2.symm⟩

theorem isExpression_iff (item : Text) :
    (isSingleLine item && isExpression item) = true
      ↔ ∃ body letters, IsExpression item body letters := by
  rw [Bool.and_eq_true, isSingleLine, beq_iff_eq, isExpression]
  constructor
  · rintro ⟨oneLine, shape⟩
    split at shape
    · next body letters found =>
      obtain ⟨written, filled, -, -⟩ := Matcher.literal?_eq_some_iff.mp found
      refine ⟨body, letters, oneLine, written, filled, fun letter member => ?_⟩
      have known := List.all_eq_true.mp shape letter member
      rwa [List.contains_eq_mem, decide_eq_true_eq] at known
    · cases shape
  · rintro ⟨body, letters, shape⟩
    refine ⟨shape.oneLine, ?_⟩
    rw [shape.literal?]
    refine List.all_eq_true.mpr fun letter member => ?_
    rw [List.contains_eq_mem, decide_eq_true_eq]
    exact shape.known letter member

/-- The letters of the first release may still stand behind an expression, each once. -/
theorem IsExpression.areFlags {item body letters : Text} (shape : IsExpression item body letters)
    (distinct : letters.Nodup) : Matcher.AreFlags letters where
  distinct := distinct
  known letter member := by
    have known : firstLetters ⊆ Matcher.knownLetters := by decide
    exact known (shape.known letter member)
  exclusive both := absurd (shape.known 'v' both.2) (by decide)

/-- They set the same flags as in the first release. -/
theorem IsExpression.flagsIn {item body letters : Text} (shape : IsExpression item body letters) :
    Matcher.flagsIn letters = firstFlags letters := by
  have noS : 's' ∉ letters := fun member => absurd (shape.known 's' member) (by decide)
  have noV : 'v' ∉ letters := fun member => absurd (shape.known 'v' member) (by decide)
  unfold Matcher.flagsIn Matcher.meanings firstFlags
  by_cases ignoring : 'i' ∈ letters <;> by_cases multiline : 'm' ∈ letters <;>
    simp [ignoring, multiline, noS, noV]

/-- An item that is an expression is compiled as in the first release. -/
theorem compile_expression {item body letters : Text} (shape : IsExpression item body letters)
    (distinct : letters.Nodup) :
    Matcher.compile item = Matcher.ofRegex item (Regex.compile (firstFlags letters) body) := by
  rw [Matcher.compile_of_areFlags shape.isRead (shape.areFlags distinct), shape.flagsIn]

/-- A letter that stands twice spoils an expression. -/
theorem compile_repeated {item body letters : Text} (shape : IsExpression item body letters)
    (repeated : ¬ letters.Nodup) :
    Matcher.compile item = .error (.invalid (.repeatedFlag letters)) := by
  have double : Matcher.hasRepeat letters = true := by
    rw [← Bool.not_eq_false, Matcher.hasRepeat_eq_false_iff]
    exact repeated
  refine Matcher.compile_of_letters shape.literal? ?_
  rw [Matcher.flagsOfLetters, if_pos double]

/-! ### The directive of an item -/

/-- The directive of an item before its semicolons are escaped. -/
def written (item : Text) : Text :=
  if isSingleLine item && isExpression item || isPlainWord item then item else wordDirective item

theorem directive_eq (item : Text) : directive item = Comment.escape (written item) := by
  unfold directive written
  cases isSingleLine item && isExpression item with
  | true => rfl
  | false => cases isPlainWord item <;> rfl

/-- The three ways to write an item: expressions and plain words as they are, and other words as
expressions. -/
theorem written_cases (item : Text) :
    (∃ body letters, IsExpression item body letters ∧ written item = item)
      ∨ (∀ body letters, ¬ IsExpression item body letters)
        ∧ (isPlainWord item = true ∧ written item = item ∨ written item = wordDirective item) := by
  unfold written
  by_cases shape : (isSingleLine item && isExpression item) = true
  · obtain ⟨body, letters, isExpression⟩ := (isExpression_iff item).mp shape
    rw [shape, Bool.true_or, if_pos rfl]
    exact .inl ⟨body, letters, isExpression, rfl⟩
  · right
    refine ⟨fun body letters other =>
      shape ((isExpression_iff item).mpr ⟨body, letters, other⟩), ?_⟩
    rw [Bool.not_eq_true] at shape
    rw [shape, Bool.false_or]
    cases isPlainWord item with
    | true => exact .inl ⟨rfl, if_pos rfl⟩
    | false => exact .inr (if_neg Bool.false_ne_true)

/-- What a plain word is. -/
theorem isPlainWord_iff (item : Text) :
    isPlainWord item = true
      ↔ item.lines = [item] ∧ item = item.trim ∧ Directive.afterKeep? item = none
        ∧ Directive.afterReactor? item = none ∧ Matcher.literal? item = none := by
  simp only [isPlainWord, isSingleLine, Bool.and_eq_true, beq_iff_eq, Option.isNone_iff_eq_none,
    and_assoc]

/-- A line between a slash and a visible character, with no break between them. -/
theorem clean_of_slash {inside back : Text} (oneLine : Text.IsOneLine inside)
    (visible : ∀ c ∈ '/' :: back, Text.isBlank c = false) (others : Text.IsOneLine back) :
    Text.IsClean ('/' :: (inside ++ '/' :: back)) := by
  have whole : '/' :: (inside ++ '/' :: back) = ('/' :: inside) ++ '/' :: back := rfl
  refine ⟨List.cons_ne_nil _ _, ?_, Text.trim_eq_self (fun c first => ?_) fun c last => ?_⟩
  · rw [Text.isOneLine_cons]
    refine ⟨by decide, fun c member => ?_⟩
    rcases List.mem_append.mp member with front | rest
    · exact oneLine c front
    · exact Text.isOneLine_cons.mpr ⟨by decide, others⟩ c rest
  · rw [List.head?_cons, Option.some.injEq] at first
    rw [← first]
    decide
  · rw [whole, List.getLast?_append, List.getLast?_eq_some_getLast (List.cons_ne_nil _ _),
      Option.some_or, Option.some.injEq] at last
    exact visible c (last ▸ List.getLast_mem _)

theorem IsExpression.clean {item body letters : Text} (shape : IsExpression item body letters) :
    Text.IsClean item := by
  have oneLine := (Text.lines_eq_singleton_iff.mp shape.oneLine).2
  have visible : ('/' :: firstLetters).all (fun c => !Text.isBlank c) = true := by decide
  rw [shape.written] at oneLine ⊢
  refine clean_of_slash (fun c inside => oneLine c ?_)
    (fun c inside => Bool.not_eq_true' _ ▸ List.all_eq_true.mp visible c ?_)
    fun c inside => oneLine c ?_
  · exact List.mem_cons_of_mem _ (List.mem_append_left _ inside)
  · rcases List.mem_cons.mp inside with rfl | member
    · exact List.mem_cons_self
    · exact List.mem_cons_of_mem _ (shape.known c member)
  · exact List.mem_cons_of_mem _ (List.mem_append_right _ (List.mem_cons_of_mem _ inside))

theorem wordDirective_eq (item : Text) :
    wordDirective item = '/' :: (LiteralWord.expression item ++ '/' :: ['i']) := rfl

/-- **The directive of an item survives escaping, joining and trimming.** -/
theorem written_clean {item : Text} (filled : item ≠ []) : Text.IsClean (written item) := by
  rcases written_cases item with ⟨body, letters, shape, same⟩ | ⟨-, ⟨plain, same⟩ | same⟩
  · rw [same]
    exact shape.clean
  · obtain ⟨single, trimmed, -, -, -⟩ := (isPlainWord_iff item).mp plain
    rw [same]
    exact ⟨filled, (Text.lines_eq_singleton_iff.mp single).2, trimmed.symm⟩
  · rw [same, wordDirective_eq]
    refine clean_of_slash (LiteralWord.expression_oneLine item) ?_ ?_
    · rw [List.forall_mem_cons, List.forall_mem_singleton]
      exact ⟨by decide, by decide⟩
    · exact Text.isOneLine_cons.mpr ⟨by decide, Text.isOneLine_nil⟩

/-! ### The directive of an item is read as the item was -/

theorem expression_ne_nil {item : Text} (filled : item ≠ []) :
    LiteralWord.expression item ≠ [] := by
  unfold LiteralWord.expression
  cases item with
  | nil => exact absurd rfl filled
  | cons c rest =>
    have character : LiteralWord.escapeChar c ≠ [] := by
      unfold LiteralWord.escapeChar
      split
      · exact List.cons_ne_nil _ _
      · split
        · exact List.cons_ne_nil _ _
        · exact List.cons_ne_nil _ _
    rw [List.flatMap_cons]
    simp [character]

theorem literal?_wordDirective {item : Text} (filled : item ≠ []) :
    Matcher.literal? (wordDirective item) = some (LiteralWord.expression item, ['i']) := by
  refine Matcher.literal?_eq_some_iff.mpr
    ⟨wordDirective_eq item, expression_ne_nil filled, fun feed => ?_, by decide⟩
  exact absurd (LiteralWord.expression_oneLine item _ feed) (by decide)

/-- A word is compiled to what it looked for, in either form. -/
theorem compile_word {item : Text} (filled : item ≠ [])
    (form : isPlainWord item = true ∧ written item = item ∨ written item = wordDirective item) :
    ∃ regex, LiteralWord.regex item = .ok regex
      ∧ Directive.compile (written item) = .ok ⟨false, false, ⟨written item, regex⟩⟩ := by
  rcases form with ⟨plain, same⟩ | same
  · obtain ⟨-, -, noKeep, noReactor, noLiteral⟩ := (isPlainWord_iff item).mp plain
    obtain ⟨regex, found, compiled⟩ := Matcher.compile_of_word noLiteral filled
    refine ⟨regex, found, ?_⟩
    rw [same, Directive.compile_of_unmarked (Directive.Form.ofLine_of_unmarked noKeep noReactor),
      compiled]
    rfl
  · refine ⟨_, LiteralWord.regex_eq item, ?_⟩
    have flags : Matcher.flagsOfLetters ['i'] = .ok [.ignoreCase] := rfl
    have regex : Regex.compile [.ignoreCase] (LiteralWord.expression item) = _ :=
      LiteralWord.regex_eq item
    have compiled := Matcher.compile_of_flags (literal?_wordDirective filled) flags
    rw [regex] at compiled
    have unmarked :
        Directive.Form.ofLine (wordDirective item) = ⟨false, false, wordDirective item⟩ :=
      Directive.Form.ofLine_of_slash _
    rw [same, Directive.compile_of_unmarked unmarked, compiled]
    rfl

/-- **The directive of an item is read as the item was**: as a rule on the text of a post, looking
for what the item looked for, or as no directive where the item was rejected. -/
theorem compile_written {item : Text} (filled : item ≠ [])
    (unbroken : ∀ body letters, IsExpression item body letters → letters.Nodup →
      ∀ breakdown, Regex.compile (firstFlags letters) body ≠ .error (.breakdown breakdown)) :
    (∃ regex, Reads item regex
        ∧ Directive.compile (written item) = .ok ⟨false, false, ⟨written item, regex⟩⟩)
      ∨ IsRejected item ∧ written item = item
        ∧ ∃ error, Directive.compile (written item) = .error (.invalid error) := by
  rcases written_cases item with ⟨body, letters, shape, same⟩ | ⟨isWord, form⟩
  · have unmarked : Directive.Form.ofLine item = ⟨false, false, item⟩ := by
      rw [shape.written]
      exact Directive.Form.ofLine_of_slash _
    rw [same, Directive.compile_of_unmarked unmarked]
    by_cases distinct : letters.Nodup
    · rw [compile_expression shape distinct]
      cases outcome : Regex.compile (firstFlags letters) body with
      | ok regex => exact .inl ⟨regex, .expression shape distinct outcome, rfl⟩
      | error failure => cases failure with
        | invalid error =>
          exact .inr ⟨⟨body, letters, shape, fun _ => ⟨error, outcome⟩⟩, rfl, _, rfl⟩
        | breakdown breakdown =>
          exact absurd outcome (unbroken body letters shape distinct breakdown)
    · rw [compile_repeated shape distinct]
      exact .inr ⟨⟨body, letters, shape, fun single => absurd single distinct⟩, rfl, _, rfl⟩
  · obtain ⟨regex, found, compiled⟩ := compile_word filled form
    exact .inl ⟨regex, .word isWord found, compiled⟩

/-- What an item looks for is settled by the item. -/
theorem Reads.unique {item : Text} {first second : Regex} (one : Reads item first)
    (other : Reads item second) : second = first := by
  cases one with
  | expression shape distinct compiled => cases other with
    | expression again _ outcome =>
      obtain ⟨rfl, rfl⟩ := shape.unique again
      rw [compiled] at outcome
      exact (Except.ok.inj outcome).symm
    | word isWord _ => exact absurd shape (isWord _ _)
  | word isWord compiled => cases other with
    | expression shape _ _ => exact absurd shape (isWord _ _)
    | word _ outcome =>
      rw [compiled] at outcome
      exact (Except.ok.inj outcome).symm

/-- A rejected item looks for nothing. -/
theorem IsRejected.not_reads {item : Text} (rejected : IsRejected item) (regex : Regex) :
    ¬ Reads item regex := by
  obtain ⟨body, letters, shape, invalid⟩ := rejected
  intro reads
  cases reads with
  | expression again distinct compiled =>
    obtain ⟨rfl, rfl⟩ := shape.unique again
    obtain ⟨error, failed⟩ := invalid distinct
    rw [compiled] at failed
    cases failed
  | word isWord _ => exact isWord _ _ shape

end FeedFilter.Migration
