/-
**Literal words match exactly their occurrences.**

A word occurs at a place of a text where the text has its letters, whatever their case, and where
the word is not cut out of a longer one: on a side where the word has a word character, there is
the edge of a word.

* `Occurs`: a word stands at a place of a text.
* `runForward_nodes_ne_nil`: the expression of a word leads on from the places where it occurs.
* `regex_isFoundIn_iff`: a search succeeds just where there is an occurrence.
-/

import FeedFilter.Proofs.LiteralWord.Expression
import FeedFilter.Proofs.Regex.Search

namespace FeedFilter.LiteralWord

open Regex

/-- Whether a character, if there is one, has the edge of a word where it needs it. -/
def HasEdge (c : Option Char) (text : Text) (place : Nat) : Prop :=
  ∀ letter, c = some letter → Property.isWord letter.toNat = true → isWordEdge text place = true

/-- A word stands at a place of a text, whatever its case, with the edges that it needs. -/
structure Occurs (word text : Text) (place : Nat) : Prop where
  within : place + word.length ≤ text.length
  letters : ∀ offset expected found, word[offset]? = some expected →
    text[place + offset]? = some found → Unicode.alike expected.toNat found.toNat = true
  front : HasEdge word.head? text place
  back : HasEdge word.getLast? text (place + word.length)

variable (enter : Nat → Direction → Cursor → List Cursor)

theorem runForward_edgeNodes_ne_nil (c : Option Char) (rest : List (Node Nat)) {text : Text}
    {place : Nat} (within : place ≤ text.length) :
    Node.runForward enter (edgeNodes c ++ rest) [Cursor.at text place] ≠ []
      ↔ HasEdge c text place ∧ Node.runForward enter rest [Cursor.at text place] ≠ [] := by
  unfold edgeNodes HasEdge
  cases c with
  | none => simp
  | some letter =>
    by_cases isWord : Property.isWord letter.toNat = true
    · rw [Option.any_some, if_pos isWord, List.singleton_append, Node.runForward_anchor_ne_nil,
        wordBoundary_holds_at within]
      simp [isWord]
    · rw [Option.any_some, if_neg isWord, List.nil_append]
      simp [isWord]

/-- The characters of a word reach as far as the word is long. -/
theorem within_of_chars {word text : Text} {place : Nat} (start : place ≤ text.length)
    (chars : ∀ offset code, (word.map Char.toNat)[offset]? = some code →
      ∃ c, text[place + offset]? = some c ∧ Casing.simple.same code c.toNat = true) :
    place + word.length ≤ text.length := by
  rcases Nat.eq_zero_or_pos word.length with empty | positive
  · rw [empty]
    exact start
  · have last : (word.map Char.toNat)[word.length - 1]?
        = some (word.get ⟨word.length - 1, Nat.sub_one_lt_of_lt positive⟩).toNat := by
      rw [List.getElem?_map, List.getElem?_eq_getElem (Nat.sub_one_lt_of_lt positive),
        Option.map_some, List.get_eq_getElem]
    obtain ⟨c, found, _⟩ := chars _ _ last
    have inside := (List.getElem?_eq_some_iff.mp found).1
    omega

/-- The characters of a word are followed just where its letters stand. -/
theorem chars_iff_letters {word text : Text} {place : Nat}
    (within : place + word.length ≤ text.length) :
    (∀ offset code, (word.map Char.toNat)[offset]? = some code →
        ∃ c, text[place + offset]? = some c ∧ Casing.simple.same code c.toNat = true)
      ↔ ∀ offset expected found, word[offset]? = some expected →
          text[place + offset]? = some found → Unicode.alike expected.toNat found.toNat = true := by
  constructor
  · intro chars offset expected found inWord inText
    obtain ⟨c, here, same⟩ := chars offset expected.toNat (by rw [List.getElem?_map, inWord]; rfl)
    rw [here] at inText
    cases inText
    exact same
  · intro letters offset code inWord
    rw [List.getElem?_map] at inWord
    obtain ⟨expected, here, rfl⟩ := Option.map_eq_some_iff.mp inWord
    have inside : place + offset < text.length := by
      have := (List.getElem?_eq_some_iff.mp here).1
      omega
    exact ⟨text[place + offset], List.getElem?_eq_getElem inside,
      letters offset expected _ here (List.getElem?_eq_getElem inside)⟩

/-- **The expression of a word leads on from the places where the word occurs.** -/
theorem runForward_nodes_ne_nil (word : Text) {text : Text} {place : Nat}
    (start : place ≤ text.length) :
    Node.runForward enter (nodes word) [Cursor.at text place] ≠ [] ↔ Occurs word text place := by
  have codes : word.map (fun c => (.char c.toNat .simple : Node Nat))
      = (word.map Char.toNat).map (.char · .simple) := by rw [List.map_map]; rfl
  rw [nodes, List.append_assoc, runForward_edgeNodes_ne_nil enter _ _ start, codes,
    Node.runForward_chars_ne_nil, List.length_map]
  constructor
  · rintro ⟨front, chars, onwards⟩
    have within := within_of_chars start chars
    rw [← List.append_nil (edgeNodes _), runForward_edgeNodes_ne_nil enter _ _ within] at onwards
    exact ⟨within, (chars_iff_letters within).mp chars, front, onwards.1⟩
  · intro occurs
    refine ⟨occurs.front, (chars_iff_letters occurs.within).mpr occurs.letters, ?_⟩
    rw [← List.append_nil (edgeNodes _), runForward_edgeNodes_ne_nil enter _ _ occurs.within,
      Node.runForward]
    exact ⟨occurs.back, List.cons_ne_nil _ _⟩

/-- **Literal words match exactly their occurrences.** The expression of a word stays on one line
and compiles, and a search for it in a text succeeds just where the text has an occurrence of the
word. -/
theorem regex_isFoundIn_iff (word : Text) :
    (∀ c ∈ expression word, Text.isLineBreak c = false)
      ∧ ∃ found, regex word = .ok found ∧ found.source = expression word
        ∧ ∀ text, found.isFoundIn text = true ↔ ∃ place, Occurs word text place := by
  refine ⟨expression_oneLine word, _, regex_eq word, rfl, fun text => ?_⟩
  rw [Regex.isFoundIn, Node.finds_iff]
  constructor
  · rintro ⟨place, start, found⟩
    rw [Node.run] at found
    exact ⟨place, (runForward_nodes_ne_nil _ word start).mp found⟩
  · rintro ⟨place, occurs⟩
    have start : place ≤ text.length := Nat.le_trans (Nat.le_add_right _ _) occurs.within
    refine ⟨place, start, ?_⟩
    rw [Node.run]
    exact (runForward_nodes_ne_nil _ word start).mpr occurs

end FeedFilter.LiteralWord
