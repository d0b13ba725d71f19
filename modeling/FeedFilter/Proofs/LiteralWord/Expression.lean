/-
**The expression of a literal word.**

Each character of a word is written so that it is read back as one character, whatever it is, and
the edges of the word as places. So the expression of a word always compiles, to the row of its
characters between its edges, and it stays on one line.

* `readsAs_escapeChar`: an escaped character is read back as that character.
* `expression_oneLine`: the expression has no line break in it.
* `regex_eq`: the expression that a word compiles to.
-/

import FeedFilter.LiteralWord
import FeedFilter.Proofs.Regex.Atom
import FeedFilter.Proofs.Regex.Reading

namespace FeedFilter.LiteralWord

open Regex

/-- The flags of the expression of a word. -/
def flags : Flags := .ofList [.ignoreCase]

/-! ### Characters that mean something -/

theorem special_eq : special =
    ['#', '$', '&', '(', ')', '*', '+', '-', '.', '?', '[', '\\', ']', '^', '\x7b', '|', '\x7d',
      '~'] := rfl

/-- A character that means nothing in an expression is none of those that do. -/
theorem ne_of_not_special {c d : Char} (ordinary : c ∉ special) (means : d ∈ special) : c ≠ d :=
  fun equal => ordinary (equal ▸ means)

theorem casing_eq {reading : Reading} (own : reading.flags = flags)
    (whole : reading.wholeFlags = flags) : reading.casing = .simple := by
  rw [Reading.casing, own, whole]
  rfl

theorem manner_eq {reading : Reading} (own : reading.flags = flags) :
    reading.manner = ⟨false, false⟩ := by
  rw [Reading.manner, Reading.spaced, own]
  rfl

/-- A character that means nothing stands for itself. -/
theorem readsAs_ordinary {c : Char} (ordinary : c ∉ special) :
    ReadsAs flags [c] (.char c.toNat .simple) := by
  refine ⟨c, [], rfl, fun reading own whole rest position => ?_⟩
  have ne : ∀ d ∈ special, c ≠ d := fun d => ne_of_not_special ordinary
  rw [special_eq] at ne
  simp only [List.mem_cons, List.not_mem_nil, or_false, forall_eq_or_imp, forall_eq] at ne
  have quantifier : reading.readQuantifier c ⟨rest, position + 1⟩ = .ok none := by
    rw [Reading.readQuantifier.eq_def]
    split <;> simp_all
  rw [List.nil_append, Reading.step.eq_def]
  split
  · simp_all
  · simp_all
  · simp_all
  · rw [Reading.readElement.eq_def]
    split
    · simp_all
    · simp_all
    · simp_all
    · simp_all
    · simp_all
    · rw [quantifier, casing_eq own whole]
      simp [ne]

theorem anchorNamed?_eq_none (reading : Reading) {c : Char} (noLetter : c.isAlpha = false) :
    reading.anchorNamed? c = none := by
  rw [Reading.anchorNamed?.eq_def]
  split
  case h_10 => rfl
  all_goals exact absurd noLetter (by decide)

theorem codePointDigits?_eq_none {c : Char} (noLetter : c.isAlpha = false) :
    codePointDigits? c = none := by
  rw [codePointDigits?.eq_def]
  split
  case h_4 => rfl
  all_goals exact absurd noLetter (by decide)

theorem ne_of_noLetter {c d : Char} (noLetter : c.isAlpha = false) (letter : d.isAlpha = true) :
    c ≠ d := by
  rintro rfl
  rw [noLetter] at letter
  exact Bool.false_ne_true letter

theorem readCharEscape_eq {c : Char} (noLetter : c.isAlpha = false) (noDigit : c.isDigit = false)
    (manner : Manner) (source : Source) :
    readCharEscape manner c source = .ok (.char c.toNat true, source) := by
  have ne : ∀ d : Char, d.isAlpha = true → c ≠ d := fun d => ne_of_noLetter noLetter
  rw [readCharEscape, codePointDigits?_eq_none noLetter]
  simp [ne 'N' rfl, ne 'p' rfl, ne 'P' rfl, noLetter, noDigit]

/-- A character behind a backslash, neither letter nor digit, stands for itself. -/
theorem readsAs_escaped {c : Char} (noLetter : c.isAlpha = false) (noDigit : c.isDigit = false) :
    ReadsAs flags ['\\', c] (.char c.toNat .simple) := by
  refine ⟨'\\', [c], rfl, fun reading own whole rest position => ?_⟩
  have ne : ∀ d : Char, d.isAlpha = true → c ≠ d := fun d => ne_of_noLetter noLetter
  have escape : reading.readEscape ⟨c :: rest, position + 1⟩
      = .ok (.char c.toNat .simple, ⟨rest, position + 1 + 1⟩) := by
    rw [Reading.readEscape]
    simp [ne 'g' rfl, ne 'L' rfl, ne 'R' rfl, ne 'X' rfl, noDigit,
      anchorNamed?_eq_none reading noLetter, readCharEscape_eq noLetter noDigit, Reading.setNode,
      casing_eq own whole]
  rw [List.singleton_append, Reading.step, Reading.readElement, escape]
  · rfl
  all_goals decide

/-- A line break that is written by number stands for itself. -/
theorem readsAs_numbered {c : Char} (isBreak : c ∈ Text.lineBreaks) :
    ReadsAs flags ('\\' :: 'u' :: Text.hexadecimal 4 c.toNat) (.char c.toNat .simple) := by
  refine ⟨'\\', 'u' :: Text.hexadecimal 4 c.toNat, rfl, fun reading own whole rest position => ?_⟩
  have digits : readCodePoint reading.manner 'u' 4
      ⟨Text.hexadecimal 4 c.toNat ++ rest, position + 2⟩ = .ok (c.toNat, ⟨rest, position + 6⟩) := by
    rw [manner_eq own]
    simp only [Text.lineBreaks, List.mem_cons, List.not_mem_nil, or_false] at isBreak
    rcases isBreak with rfl | rfl | rfl | rfl | rfl | rfl | rfl | rfl | rfl | rfl <;> rfl
  have length : (Text.hexadecimal 4 c.toNat).length = 4 := by
    simp only [Text.lineBreaks, List.mem_cons, List.not_mem_nil, or_false] at isBreak
    rcases isBreak with rfl | rfl | rfl | rfl | rfl | rfl | rfl | rfl | rfl | rfl <;> rfl
  have escape : reading.readEscape ⟨'u' :: Text.hexadecimal 4 c.toNat ++ rest, position + 1⟩
      = .ok (.char c.toNat .simple, ⟨rest, position + 6⟩) := by
    rw [List.cons_append, Reading.readEscape]
    simp only [readCharEscape, codePointDigits?, digits]
    simp [Reading.anchorNamed?, Reading.setNode, casing_eq own whole]
  rw [Reading.step, Reading.readElement, escape]
  · rw [List.length_cons, List.length_cons, length]
    rfl
  all_goals decide

/-! ### The characters of a word -/

theorem noLetter_of_special {c : Char} (means : c ∈ special) :
    c.isAlpha = false ∧ c.isDigit = false := by
  have each : special.all (fun c => !c.isAlpha && !c.isDigit) = true := by
    rw [special_eq]
    decide
  have own := List.all_eq_true.mp each c means
  rwa [Bool.and_eq_true, Bool.not_eq_true', Bool.not_eq_true'] at own

theorem noLetter_of_isBlank {c : Char} (blank : Text.isBlank c = true) :
    c.isAlpha = false ∧ c.isDigit = false := by
  simp only [Text.isBlank, Text.blankRanges, List.any_cons, List.any_nil, Bool.or_eq_true,
    Bool.and_eq_true, decide_eq_true_eq, Bool.or_false] at blank
  rw [Bool.eq_false_iff, Bool.eq_false_iff]
  constructor
  · intro letter
    change (decide (c.val ≥ 65 ∧ c.val ≤ 90)
      || decide (c.val ≥ 97) && decide (c.val ≤ 122)) = true at letter
    simp only [Bool.or_eq_true, Bool.and_eq_true, decide_eq_true_eq, UInt32.le_iff_toNat_le,
      ge_iff_le] at letter
    change (65 ≤ c.toNat ∧ c.toNat ≤ 90) ∨ (97 ≤ c.toNat ∧ c.toNat ≤ 122) at letter
    omega
  · intro digit
    simp only [Char.isDigit, Bool.and_eq_true, decide_eq_true_eq, UInt32.le_iff_toNat_le,
      ge_iff_le] at digit
    change 48 ≤ c.toNat ∧ c.toNat ≤ 57 at digit
    omega

/-- **An escaped character is read back as that character.** -/
theorem readsAs_escapeChar (c : Char) : ReadsAs flags (escapeChar c) (.char c.toNat .simple) := by
  unfold escapeChar
  split
  · next isBreak => exact readsAs_numbered (List.contains_iff_mem.mp isBreak)
  · split
    · next marked =>
      have noLetter : c.isAlpha = false ∧ c.isDigit = false := by
        rcases Bool.or_eq_true_iff.mp marked with means | blank
        · exact noLetter_of_special (List.contains_iff_mem.mp means)
        · exact noLetter_of_isBlank blank
      exact readsAs_escaped noLetter.1 noLetter.2
    · next unmarked =>
      refine readsAs_ordinary fun means => unmarked ?_
      rw [List.contains_iff_mem.mpr means, Bool.true_or]

/-! ### The expression of a word -/

/-- The places at the edge of a word, as an expression has them. -/
def edgeNodes {Reference : Type} (c : Option Char) : List (Node Reference) :=
  if c.any fun c => Property.isWord c.toNat then [.anchor (.wordBoundary false)] else []

/-- The elements of the expression of a word: its characters between its edges. -/
def nodes {Reference : Type} (word : Text) : List (Node Reference) :=
  edgeNodes word.head? ++ word.map (fun c => .char c.toNat .simple) ++ edgeNodes word.getLast?

theorem readsAs_edge : ReadsAs flags ['\\', 'b'] (.anchor (.wordBoundary false)) := by
  refine ⟨'\\', ['b'], rfl, fun reading own whole rest position => ?_⟩
  have escape : reading.readEscape ⟨'b' :: rest, position + 1⟩
      = .ok (.anchor (.wordBoundary false), ⟨rest, position + 1 + 1⟩) := by
    rw [Reading.readEscape]
    simp [Reading.anchorNamed?, own, flags, Flags.ofList]
  rw [List.singleton_append, Reading.step, Reading.readElement, escape]
  · rfl
  all_goals decide

/-- The parts of the expression of a word with their elements. -/
def pieces (word : Text) : List (Text × Node Mention) :=
  (edgeNodes word.head?).map (['\\', 'b'], ·)
    ++ word.map (fun c => (escapeChar c, .char c.toNat .simple))
    ++ (edgeNodes word.getLast?).map (['\\', 'b'], ·)

theorem edge_eq (c : Option Char) :
    edge c
      = ((edgeNodes c).map fun node : Node Mention => (['\\', 'b'], node)).flatMap Prod.fst := by
  unfold edge edgeNodes
  split <;> rfl

theorem expression_eq (word : Text) : expression word = (pieces word).flatMap Prod.fst := by
  rw [expression, pieces, List.flatMap_append, List.flatMap_append, ← edge_eq, ← edge_eq,
    List.flatMap_map]

theorem pieces_nodes (word : Text) : (pieces word).map Prod.snd = nodes word := by
  rw [pieces, nodes, List.map_append, List.map_append, List.map_map, List.map_map, List.map_map]
  simp [Function.comp_def]

theorem edge_readsAs {c : Option Char} {piece : Text × Node Mention}
    (member : piece ∈ (edgeNodes c).map (['\\', 'b'], ·)) : ReadsAs flags piece.1 piece.2 := by
  unfold edgeNodes at member
  split at member
  · rw [List.map_singleton, List.mem_singleton] at member
    rw [member]
    exact readsAs_edge
  · exact absurd member List.not_mem_nil

theorem pieces_readsAs (word : Text) : ∀ piece ∈ pieces word, ReadsAs flags piece.1 piece.2 := by
  intro piece member
  rw [pieces, List.mem_append, List.mem_append] at member
  rcases member with (edge | inside) | edge
  · exact edge_readsAs edge
  · obtain ⟨c, _, rfl⟩ := List.mem_map.mp inside
    exact readsAs_escapeChar c
  · exact edge_readsAs edge

theorem parse_expression (word : Text) :
    parseFrom flags (expression word)
      = .ok ⟨.sequence (nodes word), flags, ⟨0, []⟩, false, true⟩ := by
  have once := parseOnce_pieces rfl (pieces_readsAs word)
  rw [← expression_eq, pieces_nodes] at once
  have noVersion : (flags .version0 && flags .version1) = false := rfl
  have defaults : flags.withDefaults = flags := rfl
  rw [parseFrom, noVersion, defaults, once]
  rfl

theorem resolveAll_edgeNodes (groups : Groups) (c : Option Char) :
    Node.resolveAll groups (edgeNodes c) = .ok (edgeNodes c) := by
  unfold edgeNodes
  split <;> rfl

theorem resolveAll_chars (groups : Groups) (word : Text) :
    Node.resolveAll groups (word.map fun c => .char c.toNat .simple)
      = .ok (word.map fun c => .char c.toNat .simple) := by
  induction word with
  | nil => rfl
  | cons c rest ih => rw [List.map_cons, Node.resolveAll, ih]; rfl

theorem resolve_nodes (groups : Groups) (word : Text) :
    Node.resolve groups (.sequence (nodes word)) = .ok (.sequence (nodes word)) := by
  have front := Node.resolveAll_append (resolveAll_edgeNodes groups word.head?)
    (resolveAll_chars groups word)
  rw [Node.resolve, nodes, Node.resolveAll_append front (resolveAll_edgeNodes groups word.getLast?)]
  rfl

theorem edgeNodes_isAtom {c : Option Char} {node : Node Nat} (member : node ∈ edgeNodes c) :
    node.IsAtom := by
  unfold edgeNodes at member
  split at member
  · rw [List.mem_singleton] at member
    rw [member]
    trivial
  · exact absurd member List.not_mem_nil

theorem nodes_isAtom (word : Text) : ∀ node ∈ (nodes word : List (Node Nat)), node.IsAtom := by
  intro node member
  rw [nodes, List.mem_append, List.mem_append] at member
  rcases member with (edge | inside) | edge
  · exact edgeNodes_isAtom edge
  · obtain ⟨c, _, rfl⟩ := List.mem_map.mp inside
    exact fun equal => nomatch equal
  · exact edgeNodes_isAtom edge

/-- **The expression of a word compiles**, to its characters between its edges. -/
theorem regex_eq (word : Text) :
    regex word = .ok ⟨expression word, shownFlags.filter flags, .sequence (nodes word)⟩ := by
  refine compile_of_parse ?_ (nodes_isAtom word)
  have encodings : [Flag.ascii, .localeDependent, .unicode].countP flags = 0 := rfl
  show parse flags (expression word) = _
  simp only [parse, parse_expression, encodings, resolve_nodes]
  rfl

/-! ### One line -/

theorem escapeChar_oneLine (c : Char) : ∀ d ∈ escapeChar c, Text.isLineBreak d = false := by
  unfold escapeChar
  split
  · next isBreak =>
    have each : (Text.lineBreaks.all fun c =>
        ('\\' :: 'u' :: Text.hexadecimal 4 c.toNat).all fun d => !Text.isLineBreak d) = true := by
      decide
    have own := List.all_eq_true.mp each c (List.contains_iff_mem.mp isBreak)
    exact fun d member => Bool.not_eq_true' _ ▸ List.all_eq_true.mp own d member
  · next ordinary =>
    have own : Text.isLineBreak c = false := Bool.eq_false_iff.mpr ordinary
    split <;> simp [own, show Text.isLineBreak '\\' = false from rfl]

theorem edge_oneLine (c : Option Char) : ∀ d ∈ edge c, Text.isLineBreak d = false := by
  unfold edge
  split
  · rw [List.forall_mem_cons, List.forall_mem_singleton]
    exact ⟨by decide, by decide⟩
  · exact fun d member => absurd member List.not_mem_nil

/-- **The expression of a word is on one line**, whatever the word. -/
theorem expression_oneLine (word : Text) : ∀ d ∈ expression word, Text.isLineBreak d = false := by
  intro d member
  rw [expression, List.mem_append, List.mem_append] at member
  rcases member with (front | inside) | back
  · exact edge_oneLine _ d front
  · obtain ⟨c, _, written⟩ := List.mem_flatMap.mp inside
    exact escapeChar_oneLine c d written
  · exact edge_oneLine _ d back

end FeedFilter.LiteralWord
