/-
**Characters and anchors after the reading.**

What follows the reading of an expression settles references, drops groups that nothing refers to
and puts letters together that fold to several. A sequence of characters and anchors has nothing of
the kind, so all of this leaves it as it is.

* `Node.IsAtom`: a character that is not compared in full, or an anchor.
* `resolveAll_append`: references of a sequence are settled item by item.
* `withFoldings_sequence`: foldings leave a sequence of atoms alone.
* `compile_of_parse`: an expression that is read as a sequence of atoms compiles to it.
-/

import FeedFilter.Regex.Basic

namespace FeedFilter.Regex

namespace Node

/-- Whether an expression is a character that is not compared in full, or an anchor. -/
def IsAtom {Reference : Type} : Node Reference → Prop
  | char _ casing => casing ≠ .full
  | anchor _ => True
  | _ => False

variable {items : List (Node Nat)}

theorem resolveAll_append {groups : Groups} {first second : List (Node Mention)}
    {left right : List (Node Nat)} (resolved : resolveAll groups first = .ok left)
    (others : resolveAll groups second = .ok right) :
    resolveAll groups (first ++ second) = .ok (left ++ right) := by
  induction first generalizing left with
  | nil =>
    rw [resolveAll] at resolved
    cases resolved
    exact others
  | cons node rest ih =>
    rw [resolveAll] at resolved
    rw [List.cons_append, resolveAll]
    cases one : resolve groups node with
    | error error => rw [one] at resolved; exact nomatch resolved
    | ok found =>
      cases more : resolveAll groups rest with
      | error error => rw [one, more] at resolved; exact nomatch resolved
      | ok tail =>
        rw [one, more] at resolved
        cases resolved
        rw [ih more]
        rfl

theorem callsAll_eq_nil (atoms : ∀ item ∈ items, item.IsAtom) : callsAll items = [] := by
  induction items with
  | nil => rw [callsAll]
  | cons item rest ih =>
    have tail := ih fun other member => atoms other (List.mem_cons_of_mem _ member)
    have here := atoms item List.mem_cons_self
    cases item <;> first | exact here.elim | simp [callsAll, calls, tail]

theorem keepGroupsAll_eq (numbers : List Nat) (atoms : ∀ item ∈ items, item.IsAtom) :
    keepGroupsAll numbers items = items := by
  induction items with
  | nil => rw [keepGroupsAll]
  | cons item rest ih =>
    have tail := ih fun other member => atoms other (List.mem_cons_of_mem _ member)
    have here := atoms item List.mem_cons_self
    cases item <;> first | exact here.elim | simp [keepGroupsAll, keepGroups, tail]

theorem openedAll_eq (atoms : ∀ item ∈ items, item.IsAtom) : openedAll items = items := by
  induction items with
  | nil => rw [openedAll]
  | cons item rest ih =>
    have tail := ih fun other member => atoms other (List.mem_cons_of_mem _ member)
    have here := atoms item List.mem_cons_self
    cases item <;> first | exact here.elim | simp [openedAll, withFoldings, tail]

theorem foldRuns_eq (atoms : ∀ item ∈ items, item.IsAtom) : foldRuns [] items = items := by
  induction items with
  | nil => rw [foldRuns, if_pos List.isEmpty_nil]
  | cons item rest ih =>
    have tail := ih fun other member => atoms other (List.mem_cons_of_mem _ member)
    have here := atoms item List.mem_cons_self
    cases item with
    | char code casing =>
      rw [foldRuns, if_pos List.isEmpty_nil, tail, List.nil_append]
      rintro _ ⟨⟩
      exact here rfl
    | anchor place =>
      rw [foldRuns, if_pos List.isEmpty_nil, tail, List.nil_append]
      exact fun _ equal => nomatch equal
    | _ => exact here.elim

/-- **Foldings leave a sequence of atoms alone.** -/
theorem withFoldings_sequence (atoms : ∀ item ∈ items, item.IsAtom) :
    withFoldings (sequence items) = sequence items := by
  rw [withFoldings, openedAll_eq atoms, foldRuns_eq atoms]

end Node

/-- **An expression that is read as a sequence of atoms** compiles to that sequence. -/
theorem compile_of_parse {flags : List Flag} {source : Text} {items : List (Node Nat)}
    {inForce : Flags} (parsed : parse (.ofList flags) source = .ok (.sequence items, inForce))
    (atoms : ∀ item ∈ items, item.IsAtom) :
    compile flags source = .ok ⟨source, shownFlags.filter inForce, .sequence items⟩ := by
  have noCalls : (Node.sequence items).hasCalls = false := by
    rw [Node.hasCalls, Node.calls, Node.callsAll_eq_nil atoms]
    rfl
  simp only [compile, parsed, noCalls, Bool.false_eq_true, if_false]
  rw [Node.keepGroups, Node.keepGroupsAll_eq _ atoms, Node.withFoldings_sequence atoms]

end FeedFilter.Regex
