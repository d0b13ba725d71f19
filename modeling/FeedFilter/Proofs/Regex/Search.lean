/-
**Searching a text for a sequence of characters and places.**

A search tries every place of a text. At a place, a sequence of characters and anchors leads to one
cursor at most, so it matches where each character is the expected one and each anchor holds.

* `Cursor.at`: the cursor at a place of a text.
* `finds_iff`: a search succeeds where an expression leads anywhere from some place.
* `runForward_chars_ne_nil`: a run of characters leads on from a place where the text has them.
* `wordBoundary_holds_at`: the edge of a word in terms of the characters around a place.
-/

import FeedFilter.Regex.Match

namespace FeedFilter.Regex

/-! ### The places of a text -/

/-- The cursor at a place of a text, before any group has matched. -/
def Cursor.at (text : Text) (place : Nat) : Cursor :=
  ⟨place, (text.take place).reverse, text.drop place, []⟩

theorem Cursor.at_shift {c : Char} (before after : Text) (index skip : Nat) :
    (⟨index + 1 + skip, (after.take skip).reverse ++ c :: before, after.drop skip, []⟩ : Cursor)
      = ⟨index + (skip + 1), ((c :: after).take (skip + 1)).reverse ++ before,
          (c :: after).drop (skip + 1), []⟩ := by
  rw [List.take_succ_cons, List.drop_succ_cons, List.reverse_cons, List.append_assoc,
    List.singleton_append, Nat.add_assoc, Nat.add_comm 1 skip]

theorem Cursor.step?_at {text : Text} {place : Nat} {c : Char} (here : text[place]? = some c) :
    (Cursor.at text place).step? .forward = some (c, Cursor.at text (place + 1)) := by
  have inside : place < text.length := (List.getElem?_eq_some_iff.mp here).1
  have onwards : text.drop place = c :: text.drop (place + 1) := by
    rw [List.drop_eq_getElem_cons inside, (List.getElem?_eq_some_iff.mp here).2]
  have passed : (text.take (place + 1)).reverse = c :: (text.take place).reverse := by
    rw [List.take_add_one, here, Option.toList_some, List.reverse_append, List.reverse_singleton,
      List.singleton_append]
  rw [Cursor.at, Cursor.step?, onwards, Cursor.at, passed]

theorem Cursor.step?_at_end {text : Text} {place : Nat} (past : text[place]? = none) :
    (Cursor.at text place).step? .forward = none := by
  rw [Cursor.at, Cursor.step?, List.drop_eq_nil_of_le (List.getElem?_eq_none_iff.mp past)]

/-! ### Every place is tried -/

namespace Node

/-- A search from a cursor tries the place of that cursor and all places behind it. -/
theorem findsFrom_iff (root : Node Nat) (depth : Nat) (after : Text) :
    ∀ (before : Text) (index : Nat), root.findsFrom depth before after index = true ↔
      ∃ skip ≤ after.length, root.run (runCall root depth) .forward
        ⟨index + skip, (after.take skip).reverse ++ before, after.drop skip, []⟩ ≠ [] := by
  induction after with
  | nil =>
    intro before index
    rw [findsFrom]
    simp
  | cons c rest ih =>
    intro before index
    rw [findsFrom, Bool.or_eq_true, ih (c :: before) (index + 1)]
    constructor
    · rintro (here | ⟨skip, within, later⟩)
      · exact ⟨0, Nat.zero_le _, by simpa using here⟩
      · rw [Cursor.at_shift] at later
        exact ⟨skip + 1, Nat.succ_le_succ within, later⟩
    · rintro ⟨skip, within, found⟩
      cases skip with
      | zero => exact .inl (by simpa using found)
      | succ skip =>
        refine .inr ⟨skip, Nat.le_of_succ_le_succ within, ?_⟩
        rw [Cursor.at_shift]
        exact found

/-- **A search succeeds where the expression leads anywhere from some place of the text.** -/
theorem finds_iff (root : Node Nat) (text : Text) :
    root.finds text = true ↔ ∃ place ≤ text.length,
      root.run (runCall root (text.length + 2)) .forward (Cursor.at text place) ≠ [] := by
  rw [finds, findsFrom_iff]
  simp only [Nat.zero_add, List.append_nil, Cursor.at]

/-! ### Sequences that lead to one cursor at most -/

variable (enter : Nat → Direction → Cursor → List Cursor)

theorem runForward_nowhere (items : List (Node Nat)) : runForward enter items [] = [] := by
  cases items with
  | nil => rw [runForward]
  | cons first rest => rw [runForward]

theorem runForward_from (first : Node Nat) (rest : List (Node Nat)) (cursor : Cursor) :
    runForward enter (first :: rest) [cursor]
      = runForward enter rest (distinct (run enter first .forward cursor)) := by
  rw [runForward, List.flatMap_cons, List.flatMap_nil, List.append_nil]
  exact fun equal => nomatch equal

/-- An anchor leads on from where it holds. -/
theorem runForward_anchor_ne_nil (place : Anchor) (rest : List (Node Nat)) (cursor : Cursor) :
    runForward enter (anchor place :: rest) [cursor] ≠ []
      ↔ place.holds cursor = true ∧ runForward enter rest [cursor] ≠ [] := by
  rw [runForward_from, run]
  by_cases holds : place.holds cursor = true
  · rw [if_pos holds, distinct, and_iff_right holds]
  · rw [if_neg holds, distinct, runForward_nowhere]
    simp [holds]

/-- A character leads on from where the text has one that it stands for. -/
theorem runForward_char_ne_nil (code : Nat) (casing : Casing) (rest : List (Node Nat))
    (text : Text) (place : Nat) :
    runForward enter (char code casing :: rest) [Cursor.at text place] ≠ []
      ↔ (∃ c, text[place]? = some c ∧ casing.same code c.toNat = true)
        ∧ runForward enter rest [Cursor.at text (place + 1)] ≠ [] := by
  have nothing : runForward enter rest (distinct []) = [] := by
    rw [distinct, runForward_nowhere]
  rw [runForward_from, run]
  cases here : text[place]? with
  | none => rw [Cursor.step?_at_end here]; simp [nothing]
  | some c =>
    rw [Cursor.step?_at here]
    by_cases same : casing.same code c.toNat = true
    · simp [same, distinct]
    · simp [same, nothing]

/-- **A run of characters leads on from a place where the text has them**, to the place behind
them. -/
theorem runForward_chars_ne_nil (casing : Casing) (rest : List (Node Nat)) (text : Text)
    (codes : List Nat) :
    ∀ place, runForward enter (codes.map (char · casing) ++ rest) [Cursor.at text place] ≠ []
      ↔ (∀ offset code, codes[offset]? = some code →
            ∃ c, text[place + offset]? = some c ∧ casing.same code c.toNat = true)
        ∧ runForward enter rest [Cursor.at text (place + codes.length)] ≠ [] := by
  induction codes with
  | nil => intro place; simp
  | cons code codes ih =>
    intro place
    rw [List.map_cons, List.cons_append, runForward_char_ne_nil, ih (place + 1), ← and_assoc,
      List.length_cons, Nat.add_right_comm place 1, ← Nat.add_assoc]
    refine and_congr_left fun _ => ⟨?_, fun each => ⟨?_, ?_⟩⟩
    · rintro ⟨first, others⟩ offset expected found
      cases offset with
      | zero => rw [List.getElem?_cons_zero] at found; cases found; exact first
      | succ offset =>
        rw [List.getElem?_cons_succ] at found
        rw [← Nat.add_assoc, Nat.add_right_comm]
        exact others offset expected found
    · exact each 0 code List.getElem?_cons_zero
    · intro offset expected found
      have later := each (offset + 1) expected (by rwa [List.getElem?_cons_succ])
      rwa [← Nat.add_assoc, Nat.add_right_comm] at later

end Node

/-! ### The edge of a word -/

/-- Whether the character at a place is part of a word; outside of the text there is none. -/
def isWordAt (text : Text) (place : Nat) : Bool :=
  text[place]?.any fun c => Property.isWord c.toNat

/-- Whether exactly one of the characters around a place is part of a word. -/
def isWordEdge (text : Text) (place : Nat) : Bool :=
  (0 < place && isWordAt text (place - 1)) != isWordAt text place

theorem wordFirst_drop (text : Text) (place : Nat) :
    Anchor.wordFirst false (text.drop place) = isWordAt text place := by
  rw [isWordAt, ← List.head?_drop]
  cases text.drop place with
  | nil => rfl
  | cons c rest => simp [Anchor.wordFirst, isWordPart]

theorem wordFirst_take_reverse {text : Text} {place : Nat} (within : place ≤ text.length) :
    Anchor.wordFirst false (text.take place).reverse
      = (0 < place && isWordAt text (place - 1)) := by
  cases place with
  | zero => rfl
  | succ place =>
    have inside : place < text.length := within
    rw [List.take_succ_eq_append_getElem inside, List.reverse_append, List.reverse_singleton,
      List.singleton_append, isWordAt, Nat.add_sub_cancel, List.getElem?_eq_getElem inside]
    simp [Anchor.wordFirst, isWordPart]

/-- **The edge of a word** is a place with a word character on exactly one side. -/
theorem wordBoundary_holds_at {text : Text} {place : Nat} (within : place ≤ text.length) :
    (Anchor.wordBoundary false).holds (Cursor.at text place) = isWordEdge text place := by
  rw [Anchor.holds, Cursor.at, wordFirst_drop, wordFirst_take_reverse within, isWordEdge]

end FeedFilter.Regex
