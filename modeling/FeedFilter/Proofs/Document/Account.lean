/-
**Every line of a document is accounted for once.**

The compilation of a document walks over its blocks and leaves lines out on the way; the list of
errors is made by a scan of its lines. Both sort the lines alike: each line is either a leaf of the
pattern or left out, at its place.

* `Accounts`: lines dealt out to leaves and refusals, all in order.
* `accounts_of_isSettled`: how lines that settle are dealt out.
* `compile_accounts`: leaves, refusals, errors and records of a document.
-/

import FeedFilter.Proofs.Document.Flattening
import FeedFilter.Proofs.Engine.Cache

namespace FeedFilter.Document

/-- Lines dealt out, all in order: a line that is a directive is the next leaf, and a line that is
refused is the next one left out. -/
inductive Accounts : List Text → List Pattern → List Ignored → Prop
  | nil : Accounts [] [] []
  | leaf {line : Text} {directive : Directive} {lines : List Text} {leaves : List Pattern}
      {ignored : List Ignored} (compiled : Directive.compile line = .ok directive)
      (rest : Accounts lines leaves ignored) :
      Accounts (line :: lines) (directive.pattern :: leaves) ignored
  | refused {line : Text} {error : DirectiveError} {lines : List Text} {leaves : List Pattern}
      {ignored : List Ignored} (refused : Directive.compile line = .error (.invalid error))
      (rest : Accounts lines leaves ignored) :
      Accounts (line :: lines) leaves (⟨line, error⟩ :: ignored)

/-- **Lines that settle are dealt out** to their directives and their refusals. -/
theorem accounts_of_isSettled {lines : List Text}
    (settled : ∀ line ∈ lines, Directive.IsSettled line) :
    Accounts lines ((Directive.ofLines lines).map Directive.pattern)
      (lines.filterMap Ignored.ofLine?) := by
  induction lines with
  | nil => exact .nil
  | cons line rest ih =>
    obtain ⟨here, others⟩ := List.forall_mem_cons.mp settled
    have dealt := ih others
    unfold Directive.ofLines at dealt ⊢
    rw [List.filterMap_cons, List.filterMap_cons, Ignored.ofLine?]
    obtain ⟨directive, compiled⟩ | ⟨error, refused⟩ := here
    · rw [compiled]
      exact .leaf compiled dealt
    · rw [refused]
      exact .refused refused dealt

/-- No line is lost: as many lines are dealt out as there are leaves and refusals. -/
theorem Accounts.length_eq {lines : List Text} {leaves : List Pattern} {ignored : List Ignored}
    (accounts : Accounts lines leaves ignored) :
    lines.length = leaves.length + ignored.length := by
  induction accounts with
  | nil => rfl
  | leaf _ _ ih => rw [List.length_cons, List.length_cons, ih]; omega
  | refused _ _ ih => rw [List.length_cons, List.length_cons, ih]; omega

/-- **Every line of a document is accounted for once, and the errors are what is left out.** Where
each line settles, the document compiles; the list of errors is the list of what the compilation
leaves out, with the same reasons, and the reported lines are theirs. The lines of the document are
dealt out in order to the leaves of the pattern, each of them the directive of its own line, and to
what is left out. A cache that compiles the document records just this. -/
theorem compile_accounts (text : Text) (settled : IsSettled text) :
    ∃ outline, compile text = .ok outline
      ∧ errors text = .ok outline.ignored
      ∧ invalidLines text = .ok (outline.ignored.map Ignored.line)
      ∧ Accounts (trimmedLines text) outline.root.leaves outline.ignored
      ∧ (trimmedLines text).length = outline.root.leaves.length + outline.ignored.length
      ∧ ∀ cache : Cache, cache.held.map Held.source ≠ some text →
          (cache.get text).log = Cache.record text :: outline.ignored.map Ignored.record := by
  obtain ⟨outline, compiled, describes⟩ := compile_describes settled
  have listed : errors text = .ok outline.ignored := by rw [errors_eq settled, describes.ignored]
  have accounts : Accounts (trimmedLines text) outline.root.leaves outline.ignored := by
    rw [Outline.root, Pattern.leaves, describes.leaves, describes.ignored]
    exact accounts_of_isSettled settled
  refine ⟨outline, compiled, listed, ?_, accounts, accounts.length_eq, fun cache other => ?_⟩
  · rw [invalidLines, listed]
    rfl
  · rw [Cache.get_of_compiled other compiled]

/-- Refused lines above, under and behind lines that are none. -/
def refusedParents : Text :=
  ['!', '\n', ' ', 'a', 'd', '\n', ' ', ' ', '/', 'a', '/', 'i', 'i', '\n', '!', 'j', 'o', 'b']

theorem compile_accounts_refusedParents :
    IsSettled refusedParents
      ∧ ∃ outline, compile refusedParents = .ok outline
        ∧ errors refusedParents = .ok outline.ignored
        ∧ Accounts (trimmedLines refusedParents) outline.root.leaves outline.ignored := by
  have lines : trimmedLines refusedParents
      = [['!'], ['a', 'd'], ['/', 'a', '/', 'i', 'i'], ['!', 'j', 'o', 'b']] := by decide
  have settled : IsSettled refusedParents := by
    unfold IsSettled
    rw [lines]
    refine List.forall_mem_cons.mpr ⟨.inr ⟨.empty, rfl⟩, ?_⟩
    refine List.forall_mem_cons.mpr ⟨Directive.isSettled_of_word (by decide), ?_⟩
    refine List.forall_mem_cons.mpr ⟨.inr ⟨.repeatedFlag ['i', 'i'], rfl⟩, ?_⟩
    exact List.forall_mem_singleton.mpr (Directive.isSettled_of_word (by decide))
  obtain ⟨outline, compiled, listed, -, accounts, -⟩ := compile_accounts refusedParents settled
  exact ⟨settled, outline, compiled, listed, accounts⟩

end FeedFilter.Document
