/-
**Comments read from the left.**

Comments are found by positions: where the leading regular expression ends, where the comment starts
and which backslashes protect a semicolon. In one pass from the left this is simple. The leading
expression stays as it is, and of the rest a protected semicolon stands for itself and the first
other one ends the line.

* `lead`: the length of the leading expression of a line.
* `unguard`, `guarded`: the rest of a line read and written in one pass.
* `strip_eq`, `escape_eq`: what stripping and escaping do to a line.
* `closingSlash?_escape`: escaping leaves the leading expression alone.
* `strip_escape_append`: an escaped line with more behind it is read back.
* `start_escape`: no comment starts in an escaped line.
* `strip_undoes_escape`: stripping undoes escaping.
-/

import FeedFilter.Comment
import FeedFilter.Proofs.Text.Lines

namespace FeedFilter.Comment

/-- The length of the leading regular expression of a line, with its closing slash. -/
def lead (line : Text) : Nat := (closingSlash? line).elim 0 (· + 1)

/-- Reads the part of a line after its leading expression. -/
def unguard : Text → Text
  | [] => []
  | '\\' :: ';' :: rest => ';' :: unguard rest
  | ';' :: _ => []
  | c :: rest => c :: unguard rest

/-- Writes the part of a line after its leading expression. -/
def guarded (text : Text) : Text := text.flatMap fun c => if c = ';' then ['\\', ';'] else [c]

/-! ### The leading expression -/

/-- The first slash without a backslash in front, and what stands before it. -/
theorem unprotectedSlash?_eq_some_iff {previous : Char} {text : Text} {place : Nat} :
    unprotectedSlash? previous text = some place
      ↔ ∃ body rest, text = body ++ '/' :: rest ∧ body.length = place
        ∧ unprotectedSlash? previous body = none ∧ body.getLastD previous ≠ '\\' := by
  induction text generalizing previous place with
  | nil =>
    refine iff_of_false (fun found => nomatch found) ?_
    rintro ⟨body, rest, empty, -⟩
    exact absurd empty.symm (List.append_ne_nil_of_right_ne_nil body (List.cons_ne_nil _ _))
  | cons c text ih =>
    rw [unprotectedSlash?]
    constructor
    · intro found
      split at found
      · next closes =>
        simp only [Bool.and_eq_true, decide_eq_true_eq, ne_eq] at closes
        cases found
        exact ⟨[], text, congrArg (· :: text) closes.1, rfl, rfl, closes.2⟩
      · next goesOn =>
        obtain ⟨rest, here, rfl⟩ := Option.map_eq_some_iff.mp found
        obtain ⟨body, after, rfl, rfl, free, last⟩ := ih.mp here
        refine ⟨c :: body, after, rfl, rfl, ?_, ?_⟩
        · rw [unprotectedSlash?, if_neg goesOn, free]
          rfl
        · rwa [List.getLastD_cons]
    · rintro ⟨body, rest, equal, rfl, free, last⟩
      cases body with
      | nil =>
        obtain ⟨rfl, rfl⟩ := List.cons.inj equal
        rw [if_pos]
        · rfl
        · exact Bool.and_eq_true_iff.mpr ⟨rfl, decide_eq_true last⟩
      | cons first body =>
        obtain ⟨rfl, rfl⟩ := List.cons.inj equal
        rw [unprotectedSlash?] at free
        split at free
        · cases free
        · next goesOn =>
          rw [List.getLastD_cons] at last
          rw [if_neg goesOn, ih.mpr ⟨body, rest, rfl, rfl, Option.map_eq_none_iff.mp free, last⟩]
          rfl

theorem drop_indent (line : Text) : line.drop line.indent = line.dropWhile Text.isBlank := by
  have whole := List.takeWhile_append_dropWhile (p := Text.isBlank) (l := line)
  calc line.drop line.indent
      = (line.takeWhile Text.isBlank ++ line.dropWhile Text.isBlank).drop
          (line.takeWhile Text.isBlank).length := by rw [whole]; rfl
    _ = line.dropWhile Text.isBlank := List.drop_left

theorem blanks_append {blanks : Text} (blank : ∀ c ∈ blanks, Text.isBlank c = true) (rest : Text) :
    (blanks ++ '/' :: rest).dropWhile Text.isBlank = '/' :: rest
      ∧ (blanks ++ '/' :: rest).indent = blanks.length := by
  have stops : Text.isBlank '/' = false := by decide
  refine ⟨?_, ?_⟩
  · rw [List.dropWhile_append_of_pos blank, List.dropWhile_cons_of_neg (Bool.not_eq_true _ ▸ stops)]
  · rw [Text.indent, List.takeWhile_append_of_pos blank,
      List.takeWhile_cons_of_neg (Bool.not_eq_true _ ▸ stops), List.append_nil]

/-- **The leading expression of a line** stands behind blanks, from one slash to the next one that
has no backslash in front. -/
theorem closingSlash?_eq_some_iff {line : Text} {place : Nat} :
    closingSlash? line = some place
      ↔ ∃ blanks body rest, line = blanks ++ '/' :: (body ++ '/' :: rest)
        ∧ (∀ c ∈ blanks, Text.isBlank c = true) ∧ blanks.length + 1 + body.length = place
        ∧ unprotectedSlash? '/' body = none ∧ body.getLastD '/' ≠ '\\' := by
  unfold closingSlash?
  rw [drop_indent]
  constructor
  · intro found
    split at found
    · next inside cut =>
      obtain ⟨within, here, rfl⟩ := Option.map_eq_some_iff.mp found
      obtain ⟨body, rest, rfl, rfl, free, last⟩ := unprotectedSlash?_eq_some_iff.mp here
      refine ⟨line.takeWhile Text.isBlank, body, rest, ?_,
        List.all_eq_true.mp List.all_takeWhile, ?_, free, last⟩
      · rw [← cut, List.takeWhile_append_dropWhile]
      · rw [Text.indent]
        omega
    · cases found
  · rintro ⟨blanks, body, rest, rfl, blank, rfl, free, last⟩
    obtain ⟨dropped, indent⟩ := blanks_append blank (body ++ '/' :: rest)
    rw [dropped, indent]
    simp only
    rw [unprotectedSlash?_eq_some_iff.mpr ⟨body, rest, rfl, rfl, free, last⟩, Option.map_some]
    congr 1
    omega

/-- What stands after the leading expression has no effect on where that ends. -/
theorem closingSlash?_take_append {line : Text} {place : Nat}
    (found : closingSlash? line = some place) (more : Text) :
    closingSlash? (line.take (place + 1) ++ more) = some place := by
  obtain ⟨blanks, body, rest, rfl, blank, rfl, free, last⟩ := closingSlash?_eq_some_iff.mp found
  refine closingSlash?_eq_some_iff.mpr ⟨blanks, body, more, ?_, blank, rfl, free, last⟩
  have front : (blanks ++ '/' :: (body ++ '/' :: rest)).take (blanks.length + 1 + body.length + 1)
      = blanks ++ '/' :: (body ++ ['/']) := by
    have whole : blanks ++ '/' :: (body ++ '/' :: rest)
        = (blanks ++ '/' :: (body ++ ['/'])) ++ rest := by simp
    rw [whole]
    refine List.take_left' ?_
    simp
    omega
  rw [front]
  simp

/-- The leading expression ends with its slash. -/
theorem getElem?_closingSlash {text : Text} {place : Nat}
    (found : closingSlash? text = some place) :
    text[place]? = some '/' := by
  obtain ⟨blanks, body, rest, rfl, -, rfl, -, -⟩ := closingSlash?_eq_some_iff.mp found
  have whole : blanks ++ '/' :: (body ++ '/' :: rest) = (blanks ++ '/' :: body) ++ '/' :: rest := by
    simp
  rw [whole, List.getElem?_append_right (by simp; omega)]
  have here : blanks.length + 1 + body.length - (blanks ++ '/' :: body).length = 0 := by
    simp
    omega
  rw [here]
  rfl

theorem closing_all_iff (line : Text) (position : Nat) :
    (closingSlash? line).all (· < position) = true ↔ lead line ≤ position := by
  unfold lead
  cases closingSlash? line with
  | none => exact iff_of_true rfl (Nat.zero_le _)
  | some place => exact decide_eq_true_iff

theorem lead_le_length (line : Text) : lead line ≤ line.length := by
  unfold lead
  cases found : closingSlash? line with
  | none => exact Nat.zero_le _
  | some place => exact (List.getElem?_eq_some_iff.mp (getElem?_closingSlash found)).1

theorem length_take_lead (line : Text) : (line.take (lead line)).length = lead line :=
  List.length_take_of_le (lead_le_length line)

/-- The leading expression does not end with a backslash. -/
theorem getLast?_take_lead (line : Text) : (line.take (lead line)).getLast? ≠ some '\\' := by
  unfold lead
  cases found : closingSlash? line with
  | none => exact fun equal => nomatch equal
  | some place =>
    have slash := getElem?_closingSlash found
    rw [Option.elim_some, List.take_add_one, slash, Option.toList_some, List.getLast?_concat]
    decide

/-! ### Escaping in one pass -/

theorem guarded_cons (c : Char) (rest : Text) :
    guarded (c :: rest) = (if c = ';' then ['\\', ';'] else [c]) ++ guarded rest :=
  List.flatMap_cons

theorem flatMap_zipIdx (border : Nat) (text : Text) (offset : Nat) :
    ((text.zipIdx offset).flatMap fun entry =>
        if entry.1 = ';' ∧ border ≤ entry.2 then ['\\', entry.1] else [entry.1])
      = text.take (border - offset) ++ guarded (text.drop (border - offset)) := by
  induction text generalizing offset with
  | nil => rw [List.take_nil, List.drop_nil]; rfl
  | cons c rest ih =>
    rw [List.zipIdx_cons, List.flatMap_cons, ih]
    by_cases passed : border ≤ offset
    · have here : border - offset = 0 := by omega
      have onwards : border - (offset + 1) = 0 := by omega
      rw [here, onwards, List.take_zero, List.take_zero, List.drop_zero, List.drop_zero,
        List.nil_append, List.nil_append, guarded_cons]
      by_cases semicolon : c = ';'
      · rw [if_pos ⟨semicolon, passed⟩, if_pos semicolon, semicolon]
      · rw [if_neg fun both => semicolon both.1, if_neg semicolon]
    · have here : border - offset = (border - (offset + 1)) + 1 := by omega
      rw [here, if_neg fun both => passed both.2, List.take_succ_cons, List.drop_succ_cons]
      rfl

/-- **Escaping** writes the leading expression as it is and guards the semicolons after it. -/
theorem escape_eq (text : Text) :
    escape text = text.take (lead text) ++ guarded (text.drop (lead text)) := by
  have pass := flatMap_zipIdx (lead text) text 0
  rw [Nat.sub_zero] at pass
  rw [← pass, escape, List.flatMap_def, List.flatMap_def]
  refine congrArg List.flatten (List.map_congr_left fun entry member => ?_)
  obtain ⟨c, position⟩ := entry
  have here : text[position]? = some c := by
    rw [List.mem_zipIdx_iff_getElem?] at member
    exact member
  simp only [isSemicolon, here, Bool.and_eq_true, beq_iff_eq, Option.some.injEq, closing_all_iff]

/-! ### Stripping in one pass -/

theorem startsAt_iff (text : Text) (position : Nat) :
    startsAt (closingSlash? text) text position = true
      ↔ text[position]? = some ';' ∧ lead text ≤ position
        ∧ (position = 0 ∨ text[position - 1]? ≠ some '\\') := by
  simp only [startsAt, isSemicolon, isProtected, Bool.and_eq_true, beq_iff_eq, closing_all_iff,
    Bool.not_eq_true', Bool.and_eq_false_iff, decide_eq_false_iff_not, beq_eq_false_iff_ne,
    and_assoc, Nat.not_lt, Nat.le_zero, ne_eq]

theorem isProtector_iff (text : Text) (position : Nat) :
    isProtector (closingSlash? text) text position = true
      ↔ text[position]? = some '\\' ∧ text[position + 1]? = some ';'
        ∧ lead text ≤ position + 1 := by
  simp only [isProtector, isSemicolon, Bool.and_eq_true, beq_iff_eq, closing_all_iff]

/-- The start of a comment is the first place where one may start. -/
theorem start_spec (line : Text) :
    (∀ position < start line, startsAt (closingSlash? line) line position = false)
      ∧ (start line = line.length ∨ startsAt (closingSlash? line) line (start line) = true) := by
  unfold start
  cases found : (List.range line.length).find? (startsAt (closingSlash? line) line) with
  | none =>
    rw [List.find?_range_eq_none] at found
    exact ⟨fun position inside => by simpa using found position inside, .inl rfl⟩
  | some place =>
    rw [List.find?_range_eq_some] at found
    exact ⟨fun position before => by simpa using found.2.2 position before, .inr found.1⟩

theorem lead_le_start (line : Text) : lead line ≤ start line := by
  rcases (start_spec line).2 with ends | starts
  · rw [ends]
    exact lead_le_length line
  · exact ((startsAt_iff line _).mp starts).2.1

/-- What stripping keeps of a stretch of a line that starts at a position. -/
def kept (line : Text) (position : Nat) (stretch : Text) : Text :=
  ((stretch.zipIdx position).filter fun entry =>
    !isProtector (closingSlash? line) line entry.2).map Prod.fst

theorem kept_cons (line : Text) (position : Nat) (c : Char) (rest : Text) :
    kept line position (c :: rest)
      = if isProtector (closingSlash? line) line position then kept line (position + 1) rest
        else c :: kept line (position + 1) rest := by
  rw [kept, List.zipIdx_cons, List.filter_cons]
  cases isProtector (closingSlash? line) line position <;> rfl

theorem kept_append (line : Text) (position : Nat) (first second : Text) :
    kept line position (first ++ second)
      = kept line position first ++ kept line (position + first.length) second := by
  rw [kept, List.zipIdx_append, List.filter_append, List.map_append]
  rfl

/-- A stretch without a protecting backslash is kept as it is. -/
theorem kept_eq_self {line : Text} {position : Nat} {stretch : Text}
    (free : ∀ offset < stretch.length,
      isProtector (closingSlash? line) line (position + offset) = false) :
    kept line position stretch = stretch := by
  induction stretch generalizing position with
  | nil => rfl
  | cons c rest ih =>
    have here := free 0 (Nat.zero_lt_succ _)
    rw [Nat.add_zero] at here
    rw [kept_cons, here, if_neg Bool.false_ne_true, ih]
    intro offset inside
    have there := free (offset + 1) (Nat.succ_lt_succ inside)
    rwa [Nat.add_comm offset 1, ← Nat.add_assoc] at there

theorem getElem?_length (front rest : Text) (c : Char) :
    (front ++ c :: rest)[front.length]? = some c := by
  rw [List.getElem?_append_right (Nat.le_refl _), Nat.sub_self, List.getElem?_cons_zero]

/-- Where a comment may start: at a semicolon that follows no backslash. -/
theorem startsAt_length_iff {front rest : Text} {c : Char}
    (passed : lead (front ++ c :: rest) ≤ front.length) :
    startsAt (closingSlash? (front ++ c :: rest)) (front ++ c :: rest) front.length = true
      ↔ c = ';' ∧ front.getLast? ≠ some '\\' := by
  rw [startsAt_iff, getElem?_length, Option.some.injEq, List.getLast?_eq_getElem?]
  rcases front.length.eq_zero_or_pos with empty | filled
  · rw [List.length_eq_zero_iff] at empty
    subst empty
    simp only [List.nil_append, List.length_nil] at passed
    simp [passed]
  · rw [List.getElem?_append_left (by omega : front.length - 1 < front.length)]
    simp only [passed, true_and, Nat.ne_of_gt filled, false_or]

/-- Which backslash protects: one that a semicolon follows. -/
theorem isProtector_length_iff {front rest : Text} {c : Char}
    (passed : lead (front ++ c :: rest) ≤ front.length) :
    isProtector (closingSlash? (front ++ c :: rest)) (front ++ c :: rest) front.length = true
      ↔ c = '\\' ∧ rest.head? = some ';' := by
  have after : (front ++ c :: rest)[front.length + 1]? = rest.head? := by
    rw [List.getElem?_append_right (Nat.le_add_right _ 1), Nat.add_sub_cancel_left,
      List.getElem?_cons_succ, List.head?_eq_getElem?]
  rw [isProtector_iff, getElem?_length, after, Option.some.injEq]
  simp only [Nat.le_succ_of_le passed, and_true]

/-- A comment starts later than at a place where it may not start. -/
theorem length_lt_start {front rest : Text} {c : Char}
    (reached : front.length ≤ start (front ++ c :: rest))
    (goesOn : ¬ startsAt (closingSlash? (front ++ c :: rest)) (front ++ c :: rest) front.length) :
    front.length < start (front ++ c :: rest) := by
  refine Nat.lt_of_le_of_ne reached fun equal => ?_
  rcases (start_spec (front ++ c :: rest)).2 with ends | starts
  · rw [ends, List.length_append, List.length_cons] at equal
    omega
  · rw [← equal] at starts
    exact goesOn starts

/-- One character of the pass that starts no comment. -/
theorem kept_take_cons {front rest : Text} {c : Char}
    (passed : lead (front ++ c :: rest) ≤ front.length)
    (later : front.length < start (front ++ c :: rest)) :
    kept (front ++ c :: rest) front.length
        ((c :: rest).take (start (front ++ c :: rest) - front.length))
      = (if c = '\\' ∧ rest.head? = some ';' then [] else [c])
        ++ kept (front ++ [c] ++ rest) (front ++ [c]).length
          (rest.take (start (front ++ [c] ++ rest) - (front ++ [c]).length)) := by
  have onwards : start (front ++ c :: rest) - front.length
      = (start (front ++ c :: rest) - (front.length + 1)) + 1 := by omega
  rw [← List.append_cons, List.length_append, List.length_singleton, onwards, List.take_succ_cons,
    kept_cons]
  by_cases protects : c = '\\' ∧ rest.head? = some ';'
  · rw [if_pos protects, if_pos ((isProtector_length_iff passed).mpr protects)]
    rfl
  · rw [if_neg protects, if_neg fun found => protects ((isProtector_length_iff passed).mp found)]
    rfl

/-- The pass stays behind the leading expression and before the start of the comment. -/
theorem passed_cons {front rest : Text} {c : Char}
    (passed : lead (front ++ c :: rest) ≤ front.length) :
    lead (front ++ [c] ++ rest) ≤ (front ++ [c]).length := by
  rw [← List.append_cons, List.length_append]
  exact Nat.le_add_right_of_le passed

theorem reached_cons {front rest : Text} {c : Char}
    (later : front.length < start (front ++ c :: rest)) :
    (front ++ [c]).length ≤ start (front ++ [c] ++ rest) := by
  rw [← List.append_cons, List.length_append]
  exact later

/-- **Stripping the part after the leading expression is one pass over it.** The pass is at the end
of `front`; a semicolon that comes next is not protected. -/
theorem kept_take_eq_unguard (front tail : Text) (passed : lead (front ++ tail) ≤ front.length)
    (reached : front.length ≤ start (front ++ tail))
    (bare : tail.head? = some ';' → front.getLast? ≠ some '\\') :
    kept (front ++ tail) front.length (tail.take (start (front ++ tail) - front.length))
      = unguard tail := by
  -- The induction follows the pass, and `front` grows by what the pass has read.
  induction tail using unguard.induct generalizing front with
  | case1 => rw [List.take_nil]; rfl
  | case2 rest ih =>
    have later := length_lt_start reached fun starts =>
      absurd ((startsAt_length_iff passed).mp starts).1 (by decide)
    have passedNext := passed_cons passed
    -- The backslash is dropped, and the semicolon behind it starts no comment.
    have laterNext := length_lt_start (reached_cons later) fun starts =>
      ((startsAt_length_iff passedNext).mp starts).2 List.getLast?_concat
    rw [kept_take_cons passed later, kept_take_cons passedNext laterNext,
      ih _ (passed_cons passedNext) (reached_cons laterNext) ?_, unguard, if_pos ⟨rfl, rfl⟩, if_neg]
    · rfl
    · exact fun both => absurd both.1 (by decide)
    · rw [List.getLast?_concat]
      exact fun _ => by decide
  | case3 rest =>
    -- Nothing is left of the line from a bare semicolon on.
    have starts := (startsAt_length_iff passed).mpr ⟨rfl, bare rfl⟩
    have here : start (front ++ ';' :: rest) = front.length := by
      refine Nat.le_antisymm (Nat.not_lt.mp fun later => ?_) reached
      rw [(start_spec _).1 _ later] at starts
      cases starts
    rw [here, Nat.sub_self, List.take_zero]
    rfl
  | case4 c rest notGuarded notSemicolon ih =>
    have later := length_lt_start reached fun starts =>
      notSemicolon ((startsAt_length_iff passed).mp starts).1
    have unprotecting : ¬ (c = '\\' ∧ rest.head? = some ';') := by
      rintro ⟨backslash, semicolon⟩
      obtain ⟨after, rfl⟩ := List.head?_eq_some_iff.mp semicolon
      exact notGuarded after backslash rfl
    rw [kept_take_cons passed later, if_neg unprotecting, ih _ (passed_cons passed)
      (reached_cons later) ?_, unguard]
    · rfl
    · exact notGuarded
    · exact notSemicolon
    · rw [List.getLast?_concat]
      exact fun semicolon backslash => unprotecting ⟨Option.some.inj backslash, semicolon⟩

/-- No backslash of the leading expression protects a semicolon. -/
theorem isProtector_of_lt_lead {line : Text} {position : Nat} (inside : position < lead line) :
    isProtector (closingSlash? line) line position = false := by
  rw [← Bool.not_eq_true, isProtector_iff]
  rintro ⟨backslash, -, passed⟩
  unfold lead at inside passed
  cases found : closingSlash? line with
  | none =>
    rw [found] at inside
    exact absurd inside (Nat.not_lt_zero _)
  | some place =>
    rw [found, Option.elim_some] at inside passed
    have last : position = place := by omega
    rw [last, getElem?_closingSlash found] at backslash
    cases backslash

/-- **Stripping** leaves the leading expression as it is and reads what comes after it. -/
theorem strip_eq (line : Text) :
    strip line = line.take (lead line) ++ unguard (line.drop (lead line)) := by
  have cut : line.take (start line)
      = line.take (lead line) ++ (line.drop (lead line)).take (start line - lead line) := by
    obtain ⟨more, ends⟩ := Nat.exists_eq_add_of_le (lead_le_start line)
    rw [ends, Nat.add_sub_cancel_left, List.take_add]
  have front : kept line 0 (line.take (lead line)) = line.take (lead line) := by
    refine kept_eq_self fun offset inside => ?_
    rw [length_take_lead] at inside
    rw [Nat.zero_add]
    exact isProtector_of_lt_lead inside
  have back := kept_take_eq_unguard (line.take (lead line)) (line.drop (lead line))
  rw [List.take_append_drop, length_take_lead] at back
  have whole : strip line = kept line 0 (line.take (start line)) := rfl
  rw [whole, cut, kept_append, front, length_take_lead, Nat.zero_add,
    back (Nat.le_refl _) (lead_le_start line) fun _ => getLast?_take_lead line]

example :
    strip ['/', ';', '/', '\\', ';', 'a', ';', 'b'] = ['/', ';', '/', ';', 'a'] := by decide

/-! ### Escaped lines read back -/

theorem head?_guarded_ne (text : Text) : (guarded text).head? ≠ some ';' := by
  cases text with
  | nil => exact fun equal => nomatch equal
  | cons c rest =>
    rw [guarded_cons]
    split
    · show some '\\' ≠ some ';'
      decide
    · next other => exact fun equal => other (Option.some.inj equal)

/-- What is guarded is read back, whatever comes behind it but a bare semicolon. -/
theorem unguard_guarded_append (text more : Text) (bare : more.head? ≠ some ';') :
    unguard (guarded text ++ more) = text ++ unguard more := by
  induction text with
  | nil => rfl
  | cons c rest ih =>
    rw [guarded_cons, List.append_assoc]
    by_cases semicolon : c = ';'
    · rw [if_pos semicolon, semicolon]
      show unguard ('\\' :: ';' :: (guarded rest ++ more)) = _
      rw [unguard, ih]
      rfl
    · rw [if_neg semicolon]
      show unguard (c :: (guarded rest ++ more)) = _
      rw [unguard, ih]
      · rfl
      · intro after _ equal
        have first : (guarded rest ++ more).head? = some ';' := by rw [equal, List.head?_cons]
        rw [List.head?_append] at first
        cases filled : (guarded rest).head? with
        | none =>
          rw [filled] at first
          exact bare first
        | some d =>
          rw [filled] at first
          exact head?_guarded_ne rest (filled.trans first)
      · exact semicolon

theorem dropWhile_guarded (text : Text) :
    (guarded text).dropWhile Text.isBlank = guarded (text.dropWhile Text.isBlank) := by
  induction text with
  | nil => rfl
  | cons c rest ih =>
    rw [guarded_cons]
    by_cases semicolon : c = ';'
    · rw [semicolon, List.dropWhile_cons_of_neg (by decide), guarded_cons]
      exact List.dropWhile_cons_of_neg (by decide)
    · rw [if_neg semicolon, List.singleton_append]
      by_cases blank : Text.isBlank c = true
      · rw [List.dropWhile_cons_of_pos blank, List.dropWhile_cons_of_pos blank, ih]
      · rw [List.dropWhile_cons_of_neg blank, List.dropWhile_cons_of_neg blank, guarded_cons,
          if_neg semicolon, List.singleton_append]

/-- Guarding semicolons moves no backslash in front of a slash. -/
theorem unprotectedSlash?_guarded (previous : Char) (text : Text) :
    unprotectedSlash? previous (guarded text) = none ↔ unprotectedSlash? previous text = none := by
  induction text generalizing previous with
  | nil => exact Iff.rfl
  | cons c rest ih =>
    rw [guarded_cons]
    by_cases semicolon : c = ';'
    · subst semicolon
      show unprotectedSlash? previous ('\\' :: ';' :: guarded rest) = none ↔ _
      rw [unprotectedSlash?, if_neg (by simp), unprotectedSlash?, if_neg (by simp),
        Option.map_eq_none_iff, Option.map_eq_none_iff, unprotectedSlash?, if_neg (by simp),
        Option.map_eq_none_iff]
      exact ih ';'
    · rw [if_neg semicolon, List.singleton_append, unprotectedSlash?, unprotectedSlash?]
      split
      · exact Iff.rfl
      · rw [Option.map_eq_none_iff, Option.map_eq_none_iff]
        exact ih c

theorem closingSlash?_guarded {line : Text} (opened : closingSlash? line = none) :
    closingSlash? (guarded line) = none := by
  unfold closingSlash? at opened ⊢
  rw [drop_indent] at opened ⊢
  rw [dropWhile_guarded]
  revert opened
  cases line.dropWhile Text.isBlank with
  | nil => exact fun _ => rfl
  | cons c rest =>
    rw [guarded_cons]
    by_cases slash : c = '/'
    · subst slash
      show Option.map _ (unprotectedSlash? '/' rest) = none
        → Option.map _ (unprotectedSlash? '/' (guarded rest)) = none
      rw [Option.map_eq_none_iff, Option.map_eq_none_iff, unprotectedSlash?_guarded]
      exact id
    · intro _
      split
      · next inside equal =>
        split at equal
        · cases equal
        · exact absurd (List.cons.inj equal).1 slash
      · rfl

/-- **Escaping leaves the leading expression alone.** -/
theorem closingSlash?_escape (line : Text) : closingSlash? (escape line) = closingSlash? line := by
  rw [escape_eq]
  cases found : closingSlash? line with
  | none =>
    rw [lead, found]
    exact closingSlash?_guarded found
  | some place =>
    rw [lead, found, Option.elim_some]
    exact closingSlash?_take_append found _

/-- **An escaped line is read back**, with what stands behind it read by itself, unless that changes
where the leading expression ends. -/
theorem strip_escape_append {line more : Text} (bare : more.head? ≠ some ';')
    (same : closingSlash? (escape line ++ more) = closingSlash? line) :
    strip (escape line ++ more) = line ++ unguard more := by
  have border : lead (escape line ++ more) = lead line := by
    unfold lead
    rw [same]
  have cut : escape line ++ more
      = line.take (lead line) ++ (guarded (line.drop (lead line)) ++ more) := by
    rw [escape_eq, List.append_assoc]
  rw [strip_eq, border, cut, List.take_left' (length_take_lead line),
    List.drop_left' (length_take_lead line),
    unguard_guarded_append _ _ bare, ← List.append_assoc, List.take_append_drop]

/-- In front of every guarded semicolon stands a backslash. -/
theorem guarded_protects {text : Text} {position : Nat}
    (here : (guarded text)[position]? = some ';') :
    ∃ before, position = before + 1 ∧ (guarded text)[before]? = some '\\' := by
  induction text generalizing position with
  | nil => cases here
  | cons c rest ih =>
    rw [guarded_cons] at here ⊢
    by_cases semicolon : c = ';'
    · rw [if_pos semicolon] at here ⊢
      match position, here with
      | 0, here => exact absurd (Option.some.inj here) (by decide)
      | 1, _ => exact ⟨0, rfl, rfl⟩
      | later + 2, here =>
        obtain ⟨before, rfl, backslash⟩ := ih here
        exact ⟨before + 2, rfl, backslash⟩
    · rw [if_neg semicolon] at here ⊢
      match position, here with
      | 0, here => exact absurd (Option.some.inj here) semicolon
      | later + 1, here =>
        obtain ⟨before, rfl, backslash⟩ := ih here
        exact ⟨before + 1, rfl, backslash⟩

/-- Guarding adds one backslash for every semicolon. -/
theorem length_guarded (text : Text) :
    (guarded text).length = text.length + text.count ';' := by
  induction text with
  | nil => rfl
  | cons c rest ih =>
    rw [guarded_cons, List.length_append, ih, List.length_cons]
    by_cases semicolon : c = ';'
    · rw [if_pos semicolon, semicolon, List.count_cons_self]
      show 2 + (rest.length + rest.count ';') = _
      omega
    · rw [if_neg semicolon, List.count_cons_of_ne semicolon]
      show 1 + (rest.length + rest.count ';') = _
      omega

/-- **No comment starts in an escaped line.** -/
theorem start_escape (line : Text) : start (escape line) = (escape line).length := by
  rcases (start_spec (escape line)).2 with ends | starts
  · exact ends
  -- A comment would start at a semicolon after the leading expression; all of these are guarded.
  obtain ⟨semicolon, passed, bare⟩ := (startsAt_iff _ _).mp starts
  have border : lead (escape line) = (line.take (lead line)).length := by
    rw [length_take_lead, lead, closingSlash?_escape]
    rfl
  obtain ⟨offset, place⟩ := Nat.exists_eq_add_of_le (border ▸ passed)
  rw [place, escape_eq, List.getElem?_append_right (Nat.le_add_right _ _),
    Nat.add_sub_cancel_left] at semicolon
  obtain ⟨before, rfl, backslash⟩ := guarded_protects semicolon
  refine (bare.resolve_left (by omega) ?_).elim
  have previous : start (escape line) - 1 = (line.take (lead line)).length + before := by omega
  rw [previous, escape_eq, List.getElem?_append_right (Nat.le_add_right _ _),
    Nat.add_sub_cancel_left]
  exact backslash

/-- An escaped line is read back. -/
theorem strip_escape (line : Text) : strip (escape line) = line := by
  have undone : strip (escape line ++ []) = line ++ unguard [] :=
    strip_escape_append (fun equal => nomatch equal) (by rw [List.append_nil, closingSlash?_escape])
  rwa [List.append_nil, unguard, List.append_nil] at undone

/-- Escaping adds nothing but backslashes. -/
theorem mem_of_mem_escape {line : Text} {c : Char} (member : c ∈ escape line) :
    c ∈ line ∨ c = '\\' := by
  rw [escape_eq, List.mem_append] at member
  rcases member with front | back
  · exact .inl (List.mem_of_mem_take front)
  · obtain ⟨d, inside, written⟩ := List.mem_flatMap.mp back
    have here : d ∈ line := List.mem_of_mem_drop inside
    split at written
    · next semicolon =>
      rw [List.mem_cons, List.mem_singleton, ← semicolon] at written
      rcases written with rfl | rfl
      · exact .inr rfl
      · exact .inl here
    · rw [List.mem_singleton] at written
      exact .inl (written ▸ here)

/-- An escaped line is one line still. -/
theorem isOneLine_escape {line : Text} (oneLine : line.IsOneLine) : (escape line).IsOneLine := by
  intro c member
  rcases mem_of_mem_escape member with own | rfl
  · exact oneLine c own
  · decide

/-- Escaping leaves nothing out. -/
theorem escape_ne_nil {line : Text} (filled : line ≠ []) : escape line ≠ [] := by
  intro empty
  have stripped := strip_escape line
  rw [empty] at stripped
  exact filled stripped.symm

/-- **Escaping is undone by stripping.** An escaped line has the same leading expression and no
comment; it is longer by one backslash for each semicolon after that expression, and these
backslashes are what stripping takes away. -/
theorem strip_undoes_escape (line : Text) :
    strip (escape line) = line
      ∧ closingSlash? (escape line) = closingSlash? line
      ∧ start (escape line) = (escape line).length
      ∧ (escape line).length = line.length + (line.drop (lead line)).count ';' := by
  refine ⟨strip_escape line, closingSlash?_escape line, start_escape line, ?_⟩
  have whole : line.length = (line.take (lead line)).length + (line.drop (lead line)).length := by
    rw [← List.length_append, List.take_append_drop]
  rw [escape_eq, List.length_append, length_guarded, whole, Nat.add_assoc]

end FeedFilter.Comment
