/-
**How far a comment reaches.**

The leading expression of a line ends at the first slash behind its opening slash that has no
backslash directly before it, and what comes after it is read in one pass. A semicolon without a
backslash hides the rest of the line, which can come to light in one way only: by closing an
expression that is still open at the semicolon.

* `ClosesAt`: the places where the leading expression of a line may end.
* `closingSlash?_eq_some_iff_isLeast`: it ends at the first of them.
* `IsParted`: a line cut behind its leading expression.
* `IsOpen`: an expression that has no end yet.
* `strip_append_semicolon_iff`: whether anything behind a semicolon is read.
* `strip_onePass`: what is read of a line, and what is not.
-/

import Mathlib.Data.Nat.Find
import Mathlib.Order.Bounds.Basic
import FeedFilter.Proofs.Comment.OnePass

namespace FeedFilter.Comment

/-! ### The leading expression by its places -/

/-- Whether a text begins with a slash, its indentation left aside. -/
def Opens (text : Text) : Prop := text[text.indent]? = some '/'

/-- Whether the leading expression of a text may end at a place: a slash is there, behind the one
that opens the expression, and no backslash directly before it. -/
def ClosesAt (text : Text) (place : Nat) : Prop :=
  Opens text ∧ text.indent < place ∧ text[place]? = some '/' ∧ text[place - 1]? ≠ some '\\'

instance decidableClosesAt (text : Text) (place : Nat) : Decidable (ClosesAt text place) :=
  inferInstanceAs (Decidable (text[text.indent]? = some '/' ∧ text.indent < place
    ∧ text[place]? = some '/' ∧ text[place - 1]? ≠ some '\\'))

/-- The first of some places, counted from a place before all of them. -/
theorem isLeast_iff_exists_add {holds : Nat → Prop} {offset place : Nat}
    (late : ∀ place, holds place → offset ≤ place) :
    IsLeast {place | holds place} place
      ↔ ∃ within, IsLeast {within | holds (within + offset)} within ∧ within + offset = place := by
  constructor
  · rintro ⟨here, least⟩
    obtain ⟨within, rfl⟩ := Nat.exists_eq_add_of_le' (late place here)
    exact ⟨within, ⟨here, fun _ there => Nat.le_of_add_le_add_right (least there)⟩, rfl⟩
  · rintro ⟨within, ⟨here, least⟩, rfl⟩
    refine ⟨here, fun other there => ?_⟩
    obtain ⟨inner, rfl⟩ := Nat.exists_eq_add_of_le' (late other there)
    exact Nat.add_le_add_right (least there) offset

/-- Whether a slash without a backslash directly before it stands at a place of a text that follows
the character `previous`. -/
def IsBareSlash (previous : Char) (text : Text) (place : Nat) : Prop :=
  text[place]? = some '/' ∧ (previous :: text)[place]? ≠ some '\\'

theorem isBareSlash_succ_iff {previous c : Char} {text : Text} {place : Nat} :
    IsBareSlash previous (c :: text) (place + 1) ↔ IsBareSlash c text place := by
  rw [IsBareSlash, IsBareSlash, List.getElem?_cons_succ, List.getElem?_cons_succ]

/-- Of the bare slashes of a text the first one is found. -/
theorem unprotectedSlash?_eq_some_iff_isLeast {previous : Char} {text : Text} {place : Nat} :
    unprotectedSlash? previous text = some place
      ↔ IsLeast {place | IsBareSlash previous text place} place := by
  induction text generalizing previous place with
  | nil => exact iff_of_false (fun found => nomatch found) fun least => nomatch least.1.1
  | cons c text ih =>
    have atFront : IsBareSlash previous (c :: text) 0 ↔ c = '/' ∧ previous ≠ '\\' := by
      rw [IsBareSlash, List.getElem?_cons_zero, List.getElem?_cons_zero, Option.some.injEq, ne_eq,
        Option.some.injEq]
    rw [unprotectedSlash?]
    by_cases closes : c = '/' ∧ previous ≠ '\\'
    · have first : IsLeast {place | IsBareSlash previous (c :: text) place} 0 :=
        ⟨atFront.mpr closes, fun _ _ => Nat.zero_le _⟩
      rw [if_pos (by simpa using closes), Option.some.injEq]
      constructor
      · rintro rfl
        exact first
      · exact first.unique
    · have late : ∀ place, IsBareSlash previous (c :: text) place → 1 ≤ place := by
        intro place here
        refine Nat.one_le_iff_ne_zero.mpr ?_
        rintro rfl
        exact closes (atFront.mp here)
      rw [if_neg (by simpa using closes), Option.map_eq_some_iff, isLeast_iff_exists_add late]
      simp only [ih, isBareSlash_succ_iff]

/-- **The leading expression ends at the first place where it may end.** -/
theorem closingSlash?_eq_some_iff_isLeast {text : Text} {place : Nat} :
    closingSlash? text = some place ↔ IsLeast {place | ClosesAt text place} place := by
  by_cases opens : Opens text
  · obtain ⟨rest, cut⟩ : ∃ rest, text.drop text.indent = '/' :: rest := by
      rw [← List.head?_eq_some_iff, List.head?_drop]
      exact opens
    have behind (offset : Nat) : text[text.indent + offset]? = ('/' :: rest)[offset]? := by
      rw [← cut, List.getElem?_drop]
    have late : ∀ place, ClosesAt text place → text.indent + 1 ≤ place :=
      fun place closes => closes.2.1
    have within (offset : Nat) :
        ClosesAt text (offset + (text.indent + 1)) ↔ IsBareSlash '/' rest offset := by
      have slash : offset + (text.indent + 1) = text.indent + (offset + 1) := by omega
      have before : offset + (text.indent + 1) - 1 = text.indent + offset := by omega
      have inside : text.indent < text.indent + (offset + 1) := by omega
      rw [ClosesAt, IsBareSlash, before, slash, behind, behind, List.getElem?_cons_succ]
      simp only [opens, inside, true_and]
    rw [isLeast_iff_exists_add late, closingSlash?, cut]
    simp only [Option.map_eq_some_iff, unprotectedSlash?_eq_some_iff_isLeast, within]
  · refine iff_of_false (fun found => opens ?_) fun least => opens least.1.1
    obtain ⟨blanks, body, rest, rfl, blank, -⟩ := closingSlash?_eq_some_iff.mp found
    rw [Opens, (blanks_append blank _).2]
    exact getElem?_length _ _ _

/-- A line has no leading expression if there is no place where that may end. -/
theorem closingSlash?_eq_none_iff {line : Text} :
    closingSlash? line = none ↔ ∀ place, ¬ ClosesAt line place := by
  constructor
  · intro unclosed place closes
    have somewhere : ∃ place, ClosesAt line place := ⟨place, closes⟩
    have found := closingSlash?_eq_some_iff_isLeast.mpr
      ⟨Nat.find_spec somewhere, fun _ there => Nat.find_min' somewhere there⟩
    rw [unclosed] at found
    cases found
  · intro nowhere
    cases found : closingSlash? line with
    | none => rfl
    | some place => exact absurd (closingSlash?_eq_some_iff_isLeast.mp found).1 (nowhere place)

/-- A line cut behind its leading expression, or in front of everything if it has none. -/
inductive IsParted (line : Text) : Text → Text → Prop
  | closed {place : Nat} (first : IsLeast {place | ClosesAt line place} place) :
    IsParted line (line.take (place + 1)) (line.drop (place + 1))
  | unclosed (nowhere : ∀ place, ¬ ClosesAt line place) : IsParted line [] line

theorem isParted_lead (line : Text) :
    IsParted line (line.take (lead line)) (line.drop (lead line)) := by
  unfold lead
  cases found : closingSlash? line with
  | none => exact .unclosed (closingSlash?_eq_none_iff.mp found)
  | some place => exact .closed (closingSlash?_eq_some_iff_isLeast.mp found)

/-- A line is cut in one way. -/
theorem IsParted.eq_lead {line front rest : Text} (parted : IsParted line front rest) :
    front = line.take (lead line) ∧ rest = line.drop (lead line) := by
  unfold lead
  cases parted with
  | closed first =>
    rw [closingSlash?_eq_some_iff_isLeast.mpr first]
    exact ⟨rfl, rfl⟩
  | unclosed nowhere =>
    rw [closingSlash?_eq_none_iff.mpr nowhere]
    exact ⟨rfl, rfl⟩

/-! ### A line with a semicolon in it -/

section Semicolon

variable {shown : Text}

/-- A semicolon is neither a blank nor a slash, so up to it nothing changes. -/
theorem indent_append_semicolon (shown comment : Text) :
    (shown ++ ';' :: comment).indent = shown.indent := by
  unfold Text.indent
  induction shown with
  | nil => rfl
  | cons c shown ih =>
    rw [List.cons_append]
    by_cases blank : Text.isBlank c = true
    · rw [List.takeWhile_cons_of_pos blank, List.takeWhile_cons_of_pos blank, List.length_cons, ih,
        List.length_cons]
    · rw [List.takeWhile_cons_of_neg blank, List.takeWhile_cons_of_neg blank]

theorem indent_le_length (line : Text) : line.indent ≤ line.length :=
  (List.takeWhile_sublist _).length_le

theorem slash_append_semicolon {place : Nat} (reached : place ≤ shown.length) (comment : Text) :
    (shown ++ ';' :: comment)[place]? = some '/' ↔ shown[place]? = some '/' := by
  rcases Nat.lt_or_eq_of_le reached with inside | rfl
  · rw [List.getElem?_append_left inside]
  · rw [getElem?_length, List.getElem?_eq_none (Nat.le_refl _)]
    decide

theorem opens_append_semicolon (shown comment : Text) :
    Opens (shown ++ ';' :: comment) ↔ Opens shown := by
  rw [Opens, indent_append_semicolon]
  exact slash_append_semicolon (indent_le_length shown) comment

/-- Where the leading expression may end in front of a semicolon does not depend on what is behind
it. -/
theorem closesAt_append_semicolon {place : Nat} (reached : place ≤ shown.length)
    (comment : Text) : ClosesAt (shown ++ ';' :: comment) place ↔ ClosesAt shown place := by
  rw [ClosesAt, ClosesAt, opens_append_semicolon, indent_append_semicolon,
    slash_append_semicolon reached]
  refine and_congr_right fun _ => and_congr_right fun behind => ?_
  rw [List.getElem?_append_left (by omega)]

/-- Nothing behind a bare semicolon is read. -/
theorem unguard_append_semicolon (bare : shown.getLast? ≠ some '\\') (comment : Text) :
    unguard (shown ++ ';' :: comment) = unguard shown := by
  have tail {c : Char} {rest : Text} (last : (c :: rest).getLast? ≠ some '\\') :
      rest.getLast? ≠ some '\\' := by
    cases rest with
    | nil => exact fun equal => nomatch equal
    | cons d rest => rwa [List.getLast?_cons_cons] at last
  -- The induction follows the reading; that the text ends bare is kept as it gets shorter.
  induction shown using unguard.induct with
  | case1 => rfl
  | case2 rest ih =>
    show unguard ('\\' :: ';' :: (rest ++ ';' :: comment)) = _
    rw [unguard, ih (tail (tail bare)), unguard]
  | case3 rest => rfl
  | case4 c rest notGuarded notSemicolon ih =>
    rw [List.cons_append, unguard, ih (tail bare), unguard]
    · exact notGuarded
    · exact notSemicolon
    · -- A backslash is followed by the semicolon only if it is the last character shown.
      intro after backslash equal
      cases rest with
      | nil => exact bare (congrArg some backslash)
      | cons d rest =>
        obtain ⟨rfl, -⟩ := List.cons.inj equal
        exact notGuarded rest backslash rfl
    · exact notSemicolon

/-- Nothing behind a bare semicolon is read if the leading expression ends where it did. -/
theorem strip_append_semicolon (bare : shown.getLast? ≠ some '\\') {comment : Text}
    (same : closingSlash? (shown ++ ';' :: comment) = closingSlash? shown) :
    strip (shown ++ ';' :: comment) = strip shown := by
  have border : lead (shown ++ ';' :: comment) = lead shown := by
    unfold lead
    rw [same]
  have bareRest : (shown.drop (lead shown)).getLast? ≠ some '\\' := by
    rw [List.getLast?_drop]
    split
    · exact fun equal => nomatch equal
    · exact bare
  rw [strip_eq, strip_eq, border, List.take_append_of_le_length (lead_le_length shown),
    List.drop_append_of_le_length (lead_le_length shown), unguard_append_semicolon bareRest]

theorem length_strip_le (line : Text) : (strip line).length ≤ line.length := by
  unfold strip
  rw [List.length_map]
  refine Nat.le_trans (List.length_filter_le _ _) ?_
  rw [List.length_zipIdx]
  exact List.length_take_le' _ _

/-- The leading expression is read whole. -/
theorem lead_le_length_strip (line : Text) : lead line ≤ (strip line).length := by
  rw [strip_eq, List.length_append, length_take_lead]
  exact Nat.le_add_right _ _

/-- Whether a line begins with an expression that does not end in it. -/
def IsOpen (line : Text) : Prop := Opens line ∧ ∀ place, ¬ ClosesAt line place

/-- **Something behind a bare semicolon is read** exactly if it closes an expression that is open at
the semicolon. -/
theorem strip_append_semicolon_iff (bare : shown.getLast? ≠ some '\\') (comment : Text) :
    strip (shown ++ ';' :: comment) = strip shown
      ↔ ¬ (IsOpen shown
        ∧ ∃ place, shown.length < place ∧ ClosesAt (shown ++ ';' :: comment) place) := by
  constructor
  · rintro equal ⟨⟨-, unclosed⟩, place, -, closes⟩
    cases found : closingSlash? (shown ++ ';' :: comment) with
    | none => exact closingSlash?_eq_none_iff.mp found place closes
    | some first =>
      have here := (closingSlash?_eq_some_iff_isLeast.mp found).1
      have later : shown.length < first := Nat.not_le.mp fun reached =>
        unclosed first ((closesAt_append_semicolon reached comment).mp here)
      -- All of the expression is read, and it is longer than what stands before the semicolon.
      have whole := lead_le_length_strip (shown ++ ';' :: comment)
      rw [lead, found, Option.elim_some, equal] at whole
      have short := length_strip_le shown
      omega
  · intro unsupplied
    refine strip_append_semicolon bare ?_
    cases found : closingSlash? shown with
    | some place =>
      have moved := closingSlash?_take_append found (shown.drop (place + 1) ++ ';' :: comment)
      rwa [← List.append_assoc, List.take_append_drop] at moved
    | none =>
      have unclosed := closingSlash?_eq_none_iff.mp found
      refine closingSlash?_eq_none_iff.mpr fun place closes => ?_
      by_cases reached : place ≤ shown.length
      · exact unclosed place ((closesAt_append_semicolon reached comment).mp closes)
      · exact unsupplied ⟨⟨(opens_append_semicolon shown comment).mp closes.1, unclosed⟩, place,
          Nat.not_le.mp reached, closes⟩

end Semicolon

/-- **What is read of a line.** Its leading expression stays as it is and the rest is read in one
pass. What stands behind a bare semicolon is not read, unless it closes a leading expression that is
open at the semicolon. -/
theorem strip_onePass (line : Text) :
    (∃ front rest, IsParted line front rest)
      ∧ (∀ front rest, IsParted line front rest → strip line = front ++ unguard rest)
      ∧ ∀ shown comment : Text, line = shown ++ ';' :: comment → shown.getLast? ≠ some '\\' →
        (strip line = strip shown
          ↔ ¬ (IsOpen shown ∧ ∃ place, shown.length < place ∧ ClosesAt line place)) := by
  refine ⟨⟨_, _, isParted_lead line⟩, ?_, ?_⟩
  · intro front rest parted
    obtain ⟨rfl, rfl⟩ := parted.eq_lead
    exact strip_eq line
  · rintro shown comment rfl bare
    exact strip_append_semicolon_iff bare comment

/-- A line with a semicolon in its leading expression, a protected one and a comment. -/
def closedLate : Text := "  /a;b/c\\;d ;e".toList

/-- The first semicolon would start a comment if the expression were not closed behind it. -/
theorem strip_onePass_closedLate :
    IsParted closedLate "  /a;b/".toList "c\\;d ;e".toList
      ∧ strip closedLate = "  /a;b/c;d ".toList
      ∧ strip closedLate = strip "  /a;b/c\\;d ".toList
      ∧ strip closedLate ≠ strip "  /a".toList := by
  obtain ⟨-, read, hidden⟩ := strip_onePass closedLate
  have first : IsLeast {place | ClosesAt closedLate place} 6 := by
    have ends : ClosesAt closedLate 6 := by decide
    have before : ∀ place < 6, ¬ ClosesAt closedLate place := by decide
    exact ⟨ends, fun place closes => Nat.not_lt.mp fun early => before place early closes⟩
  have parted : IsParted closedLate "  /a;b/".toList "c\\;d ;e".toList := .closed first
  have unclosed : IsOpen "  /a".toList := ⟨rfl, closingSlash?_eq_none_iff.mp rfl⟩
  refine ⟨parted, read _ _ parted, ?_, ?_⟩
  · exact (hidden _ _ rfl (by decide)).mpr fun both => both.1.2 6 (by decide)
  · exact fun equal => (hidden _ _ rfl (by decide)).mp equal ⟨unclosed, 6, by decide, by decide⟩

end FeedFilter.Comment
