/-
**The grammar of directives.**

A line has one form: the first `!` and the mark of a reactor with all blanks behind it are taken
off, and the rest is read as it stands, so a second mark of either kind belongs to the rest. A rest
in the shape `/body/letters` is an expression and nothing else; every other rest is a word.

* `Form.Marks`: the form of a line, without saying how it is found; `marks_iff`: each line has just
  one.
* `Matcher.compile_expression_iff`, `compile_word_iff`, `compile_fails`: what the rest of a line is
  read as.
* `compile_grammar`: the lines that are directives, and what these look for.
-/

import FeedFilter.Pattern
import FeedFilter.Proofs.Directive.Reading

namespace FeedFilter

/-! ### The form of a line -/

namespace Directive

/-- Whether a line is kept, and what comes after the mark for that. -/
inductive Keeps : Text → Bool → Text → Prop
  | marked (rest : Text) : Keeps ('!' :: rest) true rest
  | bare {line : Text} (other : ∀ rest, line ≠ '!' :: rest) : Keeps line false line

/-- Whether a text looks at who reacted, and what comes after the mark for that. All blanks behind
the mark go with it, and there has to be one. -/
inductive Reacts : Text → Bool → Text → Prop
  | marked {blanks rest : Text} (filled : blanks ≠ []) (blank : ∀ c ∈ blanks, isSpace c = true)
    (all : ∀ c ∈ rest.head?, isSpace c = false) : Reacts (reactorMark ++ (blanks ++ rest)) true rest
  | bare {text : Text} (other : ∀ c rest, text = reactorMark ++ c :: rest → isSpace c = false) :
    Reacts text false text

/-- Whether a form is that of a line. -/
def Form.Marks (form : Form) (line : Text) : Prop :=
  ∃ unmarked, Keeps line form.keeps unmarked ∧ Reacts unmarked form.byReactor form.rest

theorem keeps_iff {line unmarked : Text} {keeps : Bool} :
    Keeps line keeps unmarked
      ↔ keeps = (afterKeep? line).isSome ∧ unmarked = (afterKeep? line).getD line := by
  constructor
  · rintro (rest | other)
    · exact ⟨rfl, rfl⟩
    · have plain : afterKeep? line = none := by
        unfold afterKeep?
        split
        · next rest => exact absurd rfl (other rest)
        · rfl
      rw [plain]
      exact ⟨rfl, rfl⟩
  · rintro ⟨rfl, rfl⟩
    unfold afterKeep?
    split
    · next rest => exact .marked rest
    · next other => exact .bare fun rest same => other rest same

/-- What comes after the mark of a reactor and all blanks behind it. -/
theorem afterReactor?_eq_some_iff {text rest : Text} :
    afterReactor? text = some rest
      ↔ ∃ blanks, text = reactorMark ++ (blanks ++ rest) ∧ blanks ≠ []
        ∧ (∀ c ∈ blanks, isSpace c = true) ∧ ∀ c ∈ rest.head?, isSpace c = false := by
  unfold afterReactor?
  constructor
  · intro found
    split at found
    · next starts =>
      obtain ⟨behind, rfl⟩ := List.isPrefixOf_iff_prefix.mp starts
      rw [List.drop_left] at found
      split at found
      · next c after =>
        split at found
        · next blank =>
          cases found
          refine ⟨c :: after.takeWhile isSpace, ?_, List.cons_ne_nil _ _, ?_, ?_⟩
          · rw [List.cons_append, List.takeWhile_append_dropWhile]
          · exact List.forall_mem_cons.mpr
              ⟨blank, fun other member => List.all_eq_true.mp (List.all_takeWhile) other member⟩
          · intro other first
            have stops := List.head?_dropWhile_not isSpace after
            rw [Option.mem_def.mp first] at stops
            simpa using stops
        · cases found
      · cases found
    · cases found
  · rintro ⟨blanks, rfl, filled, blank, all⟩
    obtain ⟨c, others, rfl⟩ := List.exists_cons_of_ne_nil filled
    obtain ⟨first, rest_blank⟩ := List.forall_mem_cons.mp blank
    have starts : Text.startsWith (reactorMark ++ (c :: others ++ rest)) reactorMark = true :=
      List.isPrefixOf_iff_prefix.mpr (List.prefix_append _ _)
    have stops : rest.dropWhile isSpace = rest := by
      cases rest with
      | nil => rfl
      | cons other _ => exact List.dropWhile_cons_of_neg (by simp [all other rfl])
    rw [if_pos starts, List.drop_left, List.cons_append]
    simp only [first, if_true]
    rw [List.dropWhile_append_of_pos rest_blank, stops]

theorem afterReactor?_eq_none_iff {text : Text} :
    afterReactor? text = none
      ↔ ∀ c rest, text = reactorMark ++ c :: rest → isSpace c = false := by
  unfold afterReactor?
  constructor
  · rintro none c rest rfl
    have starts : Text.startsWith (reactorMark ++ c :: rest) reactorMark = true :=
      List.isPrefixOf_iff_prefix.mpr (List.prefix_append _ _)
    rw [if_pos starts, List.drop_left] at none
    cases blank : isSpace c with
    | false => rfl
    | true => simp [blank] at none
  · intro other
    split
    · next starts =>
      obtain ⟨behind, rfl⟩ := List.isPrefixOf_iff_prefix.mp starts
      rw [List.drop_left]
      cases behind with
      | nil => rfl
      | cons c rest => simp [other c rest rfl]
    · rfl

theorem reacts_iff {text rest : Text} {byReactor : Bool} :
    Reacts text byReactor rest
      ↔ byReactor = (afterReactor? text).isSome ∧ rest = (afterReactor? text).getD text := by
  constructor
  · rintro (⟨filled, blank, all⟩ | other)
    · rw [afterReactor?_eq_some_iff.mpr ⟨_, rfl, filled, blank, all⟩]
      exact ⟨rfl, rfl⟩
    · rw [afterReactor?_eq_none_iff.mpr other]
      exact ⟨rfl, rfl⟩
  · rintro ⟨rfl, rfl⟩
    cases found : afterReactor? text with
    | none => exact .bare (afterReactor?_eq_none_iff.mp found)
    | some rest =>
      obtain ⟨blanks, rfl, filled, blank, all⟩ := afterReactor?_eq_some_iff.mp found
      exact .marked filled blank all

/-- **A line has just one form**, the one that is found. -/
theorem marks_iff {form : Form} {line : Text} : form.Marks line ↔ form = Form.ofLine line := by
  unfold Form.Marks
  constructor
  · rintro ⟨unmarked, keeps, reacts⟩
    obtain ⟨kept, rfl⟩ := keeps_iff.mp keeps
    obtain ⟨reacted, left⟩ := reacts_iff.mp reacts
    obtain ⟨keeps, byReactor, rest⟩ := form
    dsimp only at kept reacted left
    rw [kept, reacted, left]
    rfl
  · rintro rfl
    exact ⟨_, keeps_iff.mpr ⟨rfl, rfl⟩, reacts_iff.mpr ⟨rfl, rfl⟩⟩

end Directive

namespace Matcher

/-! ### What the rest of a line is read as -/

theorem ofRegex_eq_ok_iff {source : Text} {outcome : Except Regex.Failure Regex}
    {matcher : Matcher} :
    ofRegex source outcome = .ok matcher
      ↔ outcome = .ok matcher.regex ∧ matcher.source = source := by
  obtain ⟨own, regex⟩ := matcher
  cases outcome with
  | ok found =>
    rw [ofRegex, Except.ok.injEq, Except.ok.injEq, Matcher.mk.injEq, and_comm,
      eq_comm (a := source)]
  | error failure =>
    constructor
    · intro made
      cases failure <;> cases made
    · rintro ⟨same, -⟩
      cases same

/-- The rest of a line that is an expression. -/
theorem compile_expression_iff {text body letters : Text} {matcher : Matcher}
    (shape : IsExpression text body letters) :
    compile text = .ok matcher ↔ AreFlags letters
      ∧ Regex.compile (flagsIn letters) body = .ok matcher.regex ∧ matcher.source = text := by
  by_cases areFlags : AreFlags letters
  · rw [compile_of_areFlags shape areFlags, ofRegex_eq_ok_iff]
    exact (and_iff_right areFlags).symm
  · obtain ⟨error, refused⟩ := compile_of_not_areFlags shape areFlags
    rw [refused]
    exact iff_of_false nofun fun all => areFlags all.1

/-- The rest of a line that is no expression. -/
theorem compile_word_iff {text : Text} {matcher : Matcher}
    (plain : ∀ body letters, ¬ IsExpression text body letters) :
    compile text = .ok matcher
      ↔ text ≠ [] ∧ LiteralWord.regex text = .ok matcher.regex ∧ matcher.source = text := by
  have none : literal? text = none := by
    cases found : literal? text with
    | none => rfl
    | some parts => exact absurd (isExpression_iff_literal?.mpr found) (plain parts.1 parts.2)
  unfold compile
  rw [none]
  by_cases filled : text = []
  · rw [filled]
    exact iff_of_false nofun fun all => all.1 rfl
  · simp only [List.isEmpty_iff, if_neg filled]
    rw [ofRegex_eq_ok_iff]
    exact (and_iff_right filled).symm

/-- A matcher keeps what it was written as. -/
theorem source_of_compile {text : Text} {matcher : Matcher}
    (compiled : compile text = .ok matcher) : matcher.source = text := by
  by_cases shaped : ∃ body letters, IsExpression text body letters
  · obtain ⟨body, letters, shape⟩ := shaped
    exact ((compile_expression_iff shape).mp compiled).2.2
  · have plain : ∀ body letters, ¬ IsExpression text body letters :=
      fun body letters shape => shaped ⟨body, letters, shape⟩
    exact ((compile_word_iff plain).mp compiled).2.2

/-- **What is no matcher is refused, or stopped by the flags inside an expression.** -/
theorem compile_fails {text : Text} {failure : DirectiveFailure}
    (failed : compile text = .error failure) :
    (∃ error, failure = .invalid error)
      ∨ ∃ body letters breakdown, IsExpression text body letters ∧ AreFlags letters
        ∧ Regex.compile (flagsIn letters) body = .error (.breakdown breakdown)
        ∧ failure = .breakdown breakdown := by
  cases failure with
  | invalid error => exact .inl ⟨error, rfl⟩
  | breakdown breakdown =>
    right
    cases found : literal? text with
    | none =>
      by_cases filled : text = []
      · rw [filled] at failed
        cases failed
      · obtain ⟨regex, -, compiled⟩ := compile_of_word found filled
        rw [compiled] at failed
        cases failed
    | some parts =>
      have shape : IsExpression text parts.1 parts.2 := isExpression_iff_literal?.mpr found
      by_cases areFlags : AreFlags parts.2
      · rw [compile_of_areFlags shape areFlags] at failed
        refine ⟨parts.1, parts.2, breakdown, shape, areFlags, ?_, rfl⟩
        rcases outcome : Regex.compile (flagsIn parts.2) parts.1 with (error | other) | regex
        · rw [outcome] at failed
          cases failed
        · rw [outcome] at failed
          cases failed
          rfl
        · rw [outcome] at failed
          cases failed
      · obtain ⟨error, refused⟩ := compile_of_not_areFlags shape areFlags
        rw [refused] at failed
        cases failed

end Matcher

/-! ### The lines that are directives -/

namespace Directive

/-- The pattern of a line with a form, as far as the form decides it. -/
def Form.node (form : Form) (regex : Regex) : Pattern :=
  let rule := Pattern.rule (if form.byReactor then .reactor else .text) ⟨form.rest, regex⟩
  if form.keeps then .keep rule else rule

theorem compile_eq_ok_iff {line : Text} {directive : Directive} :
    compile line = .ok directive
      ↔ directive.keeps = (Form.ofLine line).keeps
        ∧ directive.byReactor = (Form.ofLine line).byReactor
        ∧ Matcher.compile (Form.ofLine line).rest = .ok directive.matcher := by
  obtain ⟨keeps, byReactor, matcher⟩ := directive
  rw [compile_eq]
  cases Matcher.compile (Form.ofLine line).rest with
  | error failure => exact iff_of_false nofun fun all => nomatch all.2.2
  | ok found =>
    rw [Except.map, Except.ok.injEq, Directive.mk.injEq, Except.ok.injEq, eq_comm (b := keeps),
      eq_comm (b := byReactor)]

theorem exists_compile_iff {line : Text} :
    (∃ directive, compile line = .ok directive)
      ↔ ∃ matcher, Matcher.compile (Form.ofLine line).rest = .ok matcher := by
  simp only [compile_eq_ok_iff]
  constructor
  · rintro ⟨directive, -, -, compiled⟩
    exact ⟨directive.matcher, compiled⟩
  · rintro ⟨matcher, compiled⟩
    exact ⟨⟨_, _, matcher⟩, rfl, rfl, compiled⟩

/-- The expressions of lines with the same body depend on the meaning of their letters alone. -/
theorem compile_regex_congr {line other body letters others : Text}
    (shape : Matcher.IsExpression (Form.ofLine line).rest body letters)
    (twin : Matcher.IsExpression (Form.ofLine other).rest body others)
    (areFlags : Matcher.AreFlags letters) (areTwin : Matcher.AreFlags others)
    (same : ∀ letter ∈ Matcher.meanings.map Prod.fst, letter ∈ letters ↔ letter ∈ others) :
    (compile line).map (fun directive => directive.matcher.regex)
      = (compile other).map fun directive => directive.matcher.regex := by
  rw [compile_eq, compile_eq, Matcher.compile_of_areFlags shape areFlags,
    Matcher.compile_of_areFlags twin areTwin, Matcher.flagsIn_congr same]
  rcases Regex.compile (Matcher.flagsIn others) body with (error | breakdown) | regex <;> rfl

/-- **The lines that are directives.** A line has just one form. When it is a directive, its pattern
is a rule on the subject that the form tells, kept if the form says so, for the rest of the line.

* If the rest is an expression, the line is a directive just where the letters may stand there
  together and the body can be read with the flags that they set; its expression is that one, so
  lines with the same body whose letters have the same meaning have the same outcome.
* If the rest is no expression, the line is a directive just where the rest is not empty, and looks
  for the rest as a word.
* A line that is no directive is refused as none, except where the reading of an expression breaks
  down. -/
theorem compile_grammar (line : Text) :
    ∃ form : Form, form.Marks line ∧ (∀ other : Form, other.Marks line → other = form)
      ∧ (∀ directive, compile line = .ok directive →
        directive.matcher.source = form.rest
          ∧ directive.pattern = form.node directive.matcher.regex)
      ∧ (∀ body letters, Matcher.IsExpression form.rest body letters →
        ((∃ directive, compile line = .ok directive) ↔ Matcher.AreFlags letters
            ∧ ∃ regex, Regex.compile (Matcher.flagsIn letters) body = .ok regex)
          ∧ (∀ directive, compile line = .ok directive →
            Regex.compile (Matcher.flagsIn letters) body = .ok directive.matcher.regex)
          ∧ ∀ (other others : Text) (twin : Form), twin.Marks other →
            Matcher.IsExpression twin.rest body others →
            Matcher.AreFlags letters → Matcher.AreFlags others →
            (∀ letter ∈ ['i', 'm', 's', 'v'], letter ∈ letters ↔ letter ∈ others) →
            (compile line).map (fun directive => directive.matcher.regex)
              = (compile other).map fun directive => directive.matcher.regex)
      ∧ ((∀ body letters, ¬ Matcher.IsExpression form.rest body letters) →
        ((∃ directive, compile line = .ok directive) ↔ form.rest ≠ [])
          ∧ ∀ directive, compile line = .ok directive →
            LiteralWord.regex form.rest = .ok directive.matcher.regex)
      ∧ ∀ failure, compile line = .error failure → (∃ error, failure = .invalid error)
        ∨ ∃ body letters breakdown, Matcher.IsExpression form.rest body letters
          ∧ Matcher.AreFlags letters
          ∧ Regex.compile (Matcher.flagsIn letters) body = .error (.breakdown breakdown)
          ∧ failure = .breakdown breakdown := by
  refine ⟨Form.ofLine line, marks_iff.mpr rfl, fun other marks => marks_iff.mp marks,
    ?_, ?_, ?_, ?_⟩
  · intro directive compiled
    obtain ⟨keeps, byReactor, matcher⟩ := compile_eq_ok_iff.mp compiled
    have source := Matcher.source_of_compile matcher
    refine ⟨source, ?_⟩
    unfold pattern Form.node
    rw [keeps, byReactor, ← source]
  · intro body letters shape
    refine ⟨?_, fun directive compiled => ?_, ?_⟩
    · simp only [exists_compile_iff, Matcher.compile_expression_iff shape]
      constructor
      · rintro ⟨matcher, areFlags, compiled, -⟩
        exact ⟨areFlags, matcher.regex, compiled⟩
      · rintro ⟨areFlags, regex, compiled⟩
        exact ⟨⟨_, regex⟩, areFlags, compiled, rfl⟩
    · obtain ⟨-, -, matcher⟩ := compile_eq_ok_iff.mp compiled
      exact ((Matcher.compile_expression_iff shape).mp matcher).2.1
    · intro other others twin marks second areFlags areTwin same
      rw [marks_iff.mp marks] at second
      exact compile_regex_congr shape second areFlags areTwin same
  · intro plain
    refine ⟨?_, fun directive compiled => ?_⟩
    · simp only [exists_compile_iff, Matcher.compile_word_iff plain]
      constructor
      · rintro ⟨matcher, filled, -⟩
        exact filled
      · intro filled
        exact ⟨⟨_, _⟩, filled, LiteralWord.regex_eq _, rfl⟩
    · obtain ⟨-, -, matcher⟩ := compile_eq_ok_iff.mp compiled
      exact ((Matcher.compile_word_iff plain).mp matcher).2.1
  · intro failure failed
    rw [compile_eq] at failed
    cases outcome : Matcher.compile (Form.ofLine line).rest with
    | ok matcher =>
      rw [outcome] at failed
      cases failed
    | error own =>
      rw [outcome] at failed
      cases failed
      exact Matcher.compile_fails outcome

/-- A kept expression with a slash inside. -/
def keptSlash : Text := "!/a/d/gi".toList

theorem compile_grammar_keptSlash :
    ∃ form : Form, form.Marks keptSlash ∧ form = ⟨true, false, "/a/d/gi".toList⟩
      ∧ ∃ directive, compile keptSlash = .ok directive
        ∧ directive.pattern = .keep (.rule .text ⟨"/a/d/gi".toList, directive.matcher.regex⟩)
        ∧ Regex.compile [.ignoreCase] "a/d".toList = .ok directive.matcher.regex
        ∧ (compile "/a/d/id".toList).map (fun other => other.matcher.regex)
          = .ok directive.matcher.regex := by
  obtain ⟨form, marks, -, node, expressions, -, -⟩ := compile_grammar keptSlash
  have found : form = ⟨true, false, "/a/d/gi".toList⟩ :=
    (marks_iff.mp marks).trans (by decide +kernel)
  have shape : Matcher.IsExpression form.rest "a/d".toList "gi".toList := by
    rw [found]
    exact Matcher.isExpression_iff_literal?.mpr rfl
  have twin : Matcher.IsExpression "/a/d/id".toList "a/d".toList "id".toList :=
    Matcher.isExpression_iff_literal?.mpr rfl
  have given : Matcher.flagsOfLetters "gi".toList = .ok [.ignoreCase] := rfl
  have others : Matcher.flagsOfLetters "id".toList = .ok [.ignoreCase] := rfl
  have areFlags := (Matcher.flagsOfLetters_eq_ok_iff.mp given).1
  have areTwin := (Matcher.flagsOfLetters_eq_ok_iff.mp others).1
  have alike : ['i', 'm', 's', 'v'].all (fun letter =>
      decide (letter ∈ "gi".toList ↔ letter ∈ "id".toList)) = true := by decide
  have read : ∃ regex, Regex.compile [.ignoreCase] "a/d".toList = .ok regex := by
    have reads : (Regex.compile [.ignoreCase] "a/d".toList).isOk = true := by decide +kernel
    cases outcome : Regex.compile [.ignoreCase] "a/d".toList with
    | ok regex => exact ⟨regex, rfl⟩
    | error failure =>
      rw [outcome] at reads
      cases reads
  obtain ⟨compiles, own, congr⟩ := expressions _ _ shape
  obtain ⟨directive, compiled⟩ := compiles.mpr ⟨areFlags, read⟩
  have same := congr "/a/d/id".toList "id".toList ⟨false, false, "/a/d/id".toList⟩
    (marks_iff.mpr rfl) twin areFlags areTwin fun letter member =>
      of_decide_eq_true (List.all_eq_true.mp alike letter member)
  rw [compiled] at same
  obtain ⟨-, pattern⟩ := node directive compiled
  rw [found] at pattern
  exact ⟨form, marks, found, directive, compiled, pattern, own directive compiled, same.symm⟩

end Directive

end FeedFilter
