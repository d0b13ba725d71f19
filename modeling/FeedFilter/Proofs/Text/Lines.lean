/-
**The lines of a text, and what trimming leaves.**

* `IsOneLine`: a text without a break.
* `lines_eq_singleton_iff`: the texts that are a single line.
* `lines_join`: lines that are joined with line feeds come back.
* `exists_lines_join`: of any lines that are joined only an empty last one may be lost.
* `exists_lines_append_feed`: the lines of two texts with a line feed between them.
* `trim_eq_self`: a text with no blank at either end is left as it is.
* `IsClean`: a line that escaping, joining and trimming do no harm.
* `trim_padded`: blanks around such a line are trimmed away.
-/

import FeedFilter.Text.Basic

namespace FeedFilter.Text

/-- Whether a text has no break in it. -/
def IsOneLine (text : Text) : Prop := ∀ c ∈ text, isLineBreak c = false

theorem isOneLine_nil : IsOneLine [] := fun _ inside => absurd inside List.not_mem_nil

theorem isOneLine_cons {c : Char} {rest : Text} :
    IsOneLine (c :: rest) ↔ isLineBreak c = false ∧ IsOneLine rest := by
  unfold IsOneLine
  rw [List.forall_mem_cons]

instance decidableIsOneLine (text : Text) : Decidable (IsOneLine text) :=
  decidable_of_iff (text.all fun c => !isLineBreak c) (by
    simp only [IsOneLine, List.all_eq_true, Bool.not_eq_true'])

/-! ### Lines -/

/-- No line has a break in it. -/
theorem isOneLine_of_mem_lines {text line : Text} (member : line ∈ lines text) :
    IsOneLine line := by
  induction text using lines.induct generalizing line with
  | case1 => cases member
  | case2 rest ih =>
    rw [lines, List.mem_cons] at member
    rcases member with rfl | later
    · exact isOneLine_nil
    · exact ih later
  | case3 c rest other isBreak ih =>
    rw [lines, if_pos isBreak, List.mem_cons] at member
    · rcases member with rfl | later
      · exact isOneLine_nil
      · exact ih later
    · exact other
  | case4 c rest other ordinary ih =>
    rw [Bool.not_eq_true] at ordinary
    rw [lines_cons rest ordinary] at member
    revert ih member
    cases lines rest with
    | nil =>
      intro _ member
      rw [consLine, List.mem_singleton] at member
      rw [member]
      exact isOneLine_cons.mpr ⟨ordinary, isOneLine_nil⟩
    | cons first others =>
      intro ih member
      rw [consLine, List.mem_cons] at member
      rcases member with rfl | later
      · exact isOneLine_cons.mpr ⟨ordinary, ih List.mem_cons_self⟩
      · exact ih (List.mem_cons_of_mem _ later)

theorem lines_append_feed {line : Text} (oneLine : IsOneLine line) (rest : Text) :
    lines (line ++ '\n' :: rest) = line :: lines rest := by
  induction line with
  | nil =>
    rw [List.nil_append, lines, if_pos (by decide)]
    exact fun _ equal => nomatch equal
  | cons c line ih =>
    obtain ⟨ordinary, others⟩ := isOneLine_cons.mp oneLine
    rw [List.cons_append, lines_cons _ ordinary, ih others]
    rfl

theorem lines_of_isOneLine {line : Text} (oneLine : IsOneLine line) (filled : line ≠ []) :
    lines line = [line] := by
  induction line with
  | nil => exact absurd rfl filled
  | cons c line ih =>
    obtain ⟨ordinary, others⟩ := isOneLine_cons.mp oneLine
    rw [lines_cons _ ordinary]
    by_cases last : line = []
    · rw [last]
      rfl
    · rw [ih others last]
      rfl

/-- The texts that are a single line. -/
theorem lines_eq_singleton_iff {text : Text} :
    lines text = [text] ↔ text ≠ [] ∧ IsOneLine text := by
  constructor
  · intro single
    refine ⟨fun empty => ?_, isOneLine_of_mem_lines (single ▸ List.mem_singleton_self text)⟩
    rw [empty] at single
    cases single
  · rintro ⟨filled, oneLine⟩
    exact lines_of_isOneLine oneLine filled

/-- **Lines that are joined come back**, where each of them has something in it and no break. -/
theorem lines_join {texts : List Text} (each : ∀ text ∈ texts, text ≠ [] ∧ IsOneLine text) :
    lines (join ['\n'] texts) = texts := by
  induction texts with
  | nil => rfl
  | cons first rest ih =>
    obtain ⟨filled, oneLine⟩ := each first List.mem_cons_self
    have others := ih fun text member => each text (List.mem_cons_of_mem _ member)
    cases rest with
    | nil => exact lines_of_isOneLine oneLine filled
    | cons second rest =>
      rw [join, List.append_assoc, List.singleton_append, lines_append_feed oneLine, others]
      exact List.cons_ne_nil second rest

/-- **Of lines that are joined only an empty last one is lost.** -/
theorem exists_lines_join {texts : List Text} (each : ∀ text ∈ texts, IsOneLine text) :
    ∃ lost, lines (join ['\n'] texts) ++ lost = texts ∧ ∀ text ∈ lost, text = [] := by
  induction texts with
  | nil => exact ⟨[], rfl, fun _ member => absurd member List.not_mem_nil⟩
  | cons first rest ih =>
    have oneLine := each first List.mem_cons_self
    obtain ⟨lost, others, empty⟩ := ih fun text member => each text (List.mem_cons_of_mem _ member)
    cases rest with
    | nil =>
      by_cases filled : first = []
      · exact ⟨[[]], by rw [filled]; rfl, fun text member => List.mem_singleton.mp member⟩
      · refine ⟨[], ?_, fun _ member => absurd member List.not_mem_nil⟩
        rw [List.append_nil]
        exact lines_of_isOneLine oneLine filled
    | cons second rest =>
      refine ⟨lost, ?_, empty⟩
      rw [join, List.append_assoc, List.singleton_append, lines_append_feed oneLine,
        List.cons_append, others]
      exact List.cons_ne_nil second rest

/-- A text with something in it has lines. -/
theorem lines_ne_nil {text : Text} (filled : text ≠ []) : lines text ≠ [] := by
  cases text using lines.fun_cases with
  | case1 => exact absurd rfl filled
  | case2 rest => exact List.cons_ne_nil _ _
  | case3 c rest other isBreak =>
    rw [lines, if_pos isBreak]
    · exact List.cons_ne_nil _ _
    · exact other
  | case4 c rest other ordinary =>
    rw [lines_cons rest (Bool.not_eq_true _ ▸ ordinary)]
    cases lines rest <;> exact List.cons_ne_nil _ _

theorem consLine_append (c : Char) {first : List Text} (filled : first ≠ [])
    (second : List Text) : consLine c (first ++ second) = consLine c first ++ second := by
  cases first with
  | nil => exact absurd rfl filled
  | cons line rest => rfl

/-- **Texts with a line feed between them keep their lines**; between these there is an empty line
at most. -/
theorem exists_lines_append_feed (first second : Text) :
    ∃ gap, lines (first ++ '\n' :: second) = lines first ++ (gap ++ lines second)
      ∧ ∀ line ∈ gap, line = [] := by
  have nothing : ∀ line ∈ ([] : List Text), line = [] :=
    fun _ member => absurd member List.not_mem_nil
  induction first using lines.induct with
  | case1 =>
    exact ⟨[[]], lines_append_feed isOneLine_nil second,
      fun _ member => List.mem_singleton.mp member⟩
  | case2 rest ih =>
    obtain ⟨gap, split, empty⟩ := ih
    refine ⟨gap, ?_, empty⟩
    rw [List.cons_append, List.cons_append, lines, split, lines]
    rfl
  | case3 c rest other isBreak ih =>
    -- A carriage return at the very end makes one break with the line feed.
    by_cases merges : c = '\r' ∧ rest = []
    · obtain ⟨rfl, rfl⟩ := merges
      exact ⟨[], rfl, nothing⟩
    · obtain ⟨gap, split, empty⟩ := ih
      refine ⟨gap, ?_, empty⟩
      rw [lines, if_pos isBreak, List.cons_append, lines, if_pos isBreak, split]
      · rfl
      · intro more isReturn feeds
        cases rest with
        | nil => exact merges ⟨isReturn, rfl⟩
        | cons next rest =>
          rw [List.cons_append, List.cons.injEq] at feeds
          exact other rest isReturn (by rw [feeds.1])
      · exact other
  | case4 c rest other ordinary ih =>
    rw [Bool.not_eq_true] at ordinary
    by_cases last : rest = []
    · subst last
      have alone : IsOneLine [c] := isOneLine_cons.mpr ⟨ordinary, isOneLine_nil⟩
      refine ⟨[], ?_, nothing⟩
      rw [lines_append_feed alone, lines_of_isOneLine alone (List.cons_ne_nil c [])]
      rfl
    · obtain ⟨gap, split, empty⟩ := ih
      refine ⟨gap, ?_, empty⟩
      rw [List.cons_append, lines_cons _ ordinary, split, lines_cons _ ordinary,
        consLine_append c (lines_ne_nil last)]

/-! ### Trimming -/

theorem trimStart_eq_self {text : Text} (front : ∀ c, text.head? = some c → isBlank c = false) :
    text.trimStart = text := by
  cases text with
  | nil => rfl
  | cons c rest =>
    refine List.dropWhile_cons_of_neg ?_
    rw [front c rfl]
    exact Bool.false_ne_true

theorem trimEnd_eq_self {text : Text} (back : ∀ c, text.getLast? = some c → isBlank c = false) :
    text.trimEnd = text := by
  have turned : trimStart text.reverse = text.reverse := trimStart_eq_self fun c last => back c (by
    rwa [List.head?_reverse] at last)
  unfold trimEnd
  unfold trimStart at turned
  rw [turned, List.reverse_reverse]

/-- A text with no blank at either end is left as it is. -/
theorem trim_eq_self {text : Text} (front : ∀ c, text.head? = some c → isBlank c = false)
    (back : ∀ c, text.getLast? = some c → isBlank c = false) : text.trim = text := by
  rw [trim, trimStart_eq_self front, trimEnd_eq_self back]

/-- Whether a text holds nothing but blanks. -/
def AllBlank (text : Text) : Prop := ∀ c ∈ text, isBlank c = true

instance decidableAllBlank (text : Text) : Decidable (AllBlank text) :=
  decidable_of_iff (text.all isBlank) List.all_eq_true

theorem allBlank_nil : AllBlank [] := fun _ inside => absurd inside List.not_mem_nil

theorem allBlank_replicate (count : Nat) : AllBlank (List.replicate count ' ') := by
  intro c inside
  rw [List.eq_of_mem_replicate inside]
  decide

theorem AllBlank.trimStart_append {blanks : Text} (blank : AllBlank blanks) (text : Text) :
    trimStart (blanks ++ text) = text.trimStart := List.dropWhile_append_of_pos blank

theorem AllBlank.trimEnd_append {blanks : Text} (blank : AllBlank blanks) (text : Text) :
    trimEnd (text ++ blanks) = text.trimEnd := by
  have turned : AllBlank blanks.reverse := fun c inside => blank c (List.mem_reverse.mp inside)
  rw [trimEnd, trimEnd, List.reverse_append, List.dropWhile_append_of_pos turned]

/-- Blanks in front of a text are trimmed away. -/
theorem AllBlank.trim_append {blanks : Text} (blank : AllBlank blanks) (text : Text) :
    trim (blanks ++ text) = text.trim := by
  rw [trim, trim, blank.trimStart_append]

theorem AllBlank.trim {blanks : Text} (blank : AllBlank blanks) : blanks.trim = [] := by
  have trimmed := blank.trim_append []
  rwa [List.append_nil] at trimmed

/-- Blanks after a text are trimmed away. -/
theorem AllBlank.append_trim {blanks : Text} (blank : AllBlank blanks) (text : Text) :
    Text.trim (text ++ blanks) = text.trim := by
  rw [Text.trim, Text.trim, trimStart, trimStart, List.dropWhile_append]
  split
  · next nothing =>
    have none : trimStart text = [] := List.isEmpty_iff.mp nothing
    rw [← trimStart, ← trimStart, none]
    exact blank.trim
  · exact blank.trimEnd_append _

theorem allBlank_takeWhile (text : Text) : AllBlank (text.takeWhile isBlank) :=
  List.all_eq_true.mp List.all_takeWhile

/-- A text is what is left of it when it is trimmed, with blanks around it. -/
theorem exists_trim_eq (text : Text) :
    ∃ front back, AllBlank front ∧ AllBlank back ∧ text = front ++ (text.trim ++ back) := by
  have back := allBlank_takeWhile text.trimStart.reverse
  have turned := congrArg List.reverse
    (List.takeWhile_append_dropWhile (p := isBlank) (l := text.trimStart.reverse))
  rw [List.reverse_append, List.reverse_reverse] at turned
  refine ⟨text.takeWhile isBlank, (text.trimStart.reverse.takeWhile isBlank).reverse,
    allBlank_takeWhile text, fun c inside => back c (List.mem_reverse.mp inside), ?_⟩
  rw [trim, trimEnd, turned, trimStart, List.takeWhile_append_dropWhile]

theorem AllBlank.indent_append {blanks : Text} (blank : AllBlank blanks) (text : Text) :
    indent (blanks ++ text) = blanks.length + text.indent := by
  rw [indent, List.takeWhile_append_of_pos blank, List.length_append, indent]

/-! ### Clean lines -/

/-- A line that escaping, joining and trimming do no harm. -/
structure IsClean (line : Text) : Prop where
  filled : line ≠ []
  oneLine : IsOneLine line
  trimmed : line.trim = line

instance decidableIsClean (line : Text) : Decidable (IsClean line) :=
  decidable_of_iff (line ≠ [] ∧ IsOneLine line ∧ line.trim = line)
    ⟨fun ⟨filled, oneLine, trimmed⟩ => ⟨filled, oneLine, trimmed⟩,
      fun clean => ⟨clean.filled, clean.oneLine, clean.trimmed⟩⟩

/-- Trimming leaves nothing in front that it would take away. -/
theorem IsClean.trimStart {line : Text} (clean : IsClean line) : line.trimStart = line := by
  have shorter : line.trimStart.trimEnd.length ≤ line.trimStart.length := by
    rw [trimEnd, List.length_reverse, ← @List.length_reverse _ line.trimStart]
    exact (List.dropWhile_sublist _).length_le
  refine (List.dropWhile_sublist isBlank).eq_of_length_le ?_
  calc line.length = line.trim.length := by rw [clean.trimmed]
    _ ≤ line.trimStart.length := shorter

theorem IsClean.trimEnd {line : Text} (clean : IsClean line) : line.trimEnd = line := by
  have trimmed := clean.trimmed
  rwa [trim, clean.trimStart] at trimmed

/-- A clean line begins with a character that is no blank. -/
theorem IsClean.exists_cons {line : Text} (clean : IsClean line) :
    ∃ c rest, line = c :: rest ∧ isBlank c = false := by
  obtain ⟨c, rest, rfl⟩ := List.exists_cons_of_ne_nil clean.filled
  refine ⟨c, rest, rfl, Bool.not_eq_true _ ▸ fun blank => ?_⟩
  have shorter := (List.dropWhile_sublist (l := rest) isBlank).length_le
  have same := congrArg List.length clean.trimStart
  rw [Text.trimStart, List.dropWhile_cons_of_pos blank, List.length_cons] at same
  omega

theorem IsClean.indent_append {line : Text} (clean : IsClean line) (more : Text) :
    indent (line ++ more) = 0 := by
  obtain ⟨c, rest, rfl, visible⟩ := clean.exists_cons
  rw [indent, List.cons_append, List.takeWhile_cons_of_neg (Bool.not_eq_true _ ▸ visible),
    List.length_nil]

/-- **Blanks around a clean line are trimmed away**, and those in front are its indentation. -/
theorem IsClean.trim_padded {line front back : Text} (clean : IsClean line)
    (blank : AllBlank front) (others : AllBlank back) :
    trim (front ++ (line ++ back)) = line ∧ indent (front ++ (line ++ back)) = front.length := by
  obtain ⟨c, rest, equal, visible⟩ := clean.exists_cons
  have started : Text.trimStart (line ++ back) = line ++ back := by
    refine trimStart_eq_self fun first here => ?_
    rw [equal, List.cons_append, List.head?_cons, Option.some.injEq] at here
    rwa [← here]
  refine ⟨?_, ?_⟩
  · rw [blank.trim_append, trim, started, others.trimEnd_append, clean.trimEnd]
  · rw [blank.indent_append, clean.indent_append, Nat.add_zero]

end FeedFilter.Text
