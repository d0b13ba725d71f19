/-
**Inspections one after the other.**

Reading an entry is a monad: what is read adds up in order, and the first fault ends it. A list of
inspections is scanned from the left until one of them is decisive.

* `Inspection.Succeeds`: whether an inspection ends without a fault.
* `Inspection.firstDecisive`: the scan.
* `firstDecisive_append`: a scan of two lists goes on with the second where the first is undecided.
* `firstDecisive_of_decisive`, `firstDecisive_of_fault`: after the inspection that is decisive, or
  has a fault, nothing is read.
-/

import FeedFilter.Entry
import FeedFilter.Verdict

namespace FeedFilter.Inspection

variable {First Second Third : Type}

theorem bind_ok (reads : List Capability) (value : First) (next : First → Inspection Second) :
    (⟨reads, .ok value⟩ : Inspection First) >>= next
      = ⟨reads ++ (next value).reads, (next value).result⟩ := rfl

theorem pure_eq (value : First) : (Pure.pure value : Inspection First) = ⟨[], .ok value⟩ := rfl

theorem bind_pure_eq (first : Inspection First) : first >>= Pure.pure = first := by
  obtain ⟨reads, _ | value⟩ := first
  · rfl
  · show (⟨reads ++ [], .ok value⟩ : Inspection First) = ⟨reads, .ok value⟩
    rw [List.append_nil]

theorem bind_bind_eq (first : Inspection First) (next : First → Inspection Second)
    (last : Second → Inspection Third) :
    first >>= next >>= last = first >>= fun value => next value >>= last := by
  obtain ⟨reads, _ | value⟩ := first
  · rfl
  · rw [bind_ok, bind_ok]
    obtain ⟨more, _ | found⟩ := next value
    · rfl
    · rw [bind_ok, bind_ok, List.append_assoc]

instance : LawfulMonad Inspection :=
  LawfulMonad.mk' Inspection (fun first => bind_pure_eq first) (fun _ _ => rfl) bind_bind_eq

/-- Whether an inspection has a result. -/
def Succeeds (inspection : Inspection First) : Prop := ∃ value, inspection.result = .ok value

theorem succeeds_pure (value : First) : (Pure.pure value : Inspection First).Succeeds :=
  ⟨value, rfl⟩

theorem Succeeds.bind {first : Inspection First} {next : First → Inspection Second}
    (succeeds : first.Succeeds) (onward : ∀ value, (next value).Succeeds) :
    (first >>= next).Succeeds := by
  obtain ⟨reads, result⟩ := first
  obtain ⟨value, found⟩ := succeeds
  cases found
  exact onward value

/-- Tries inspections from the left until one of them is decisive. -/
def firstDecisive : List (Inspection Verdict) → Inspection Verdict
  | [] => return .undecided
  | first :: rest => do
    let verdict ← first
    if verdict.isDecisive then return verdict else firstDecisive rest

theorem eq_undecided_of_not_isDecisive {verdict : Verdict} (open_ : ¬ verdict.isDecisive) :
    verdict = .undecided := by
  cases verdict with
  | hit reason => exact absurd rfl open_
  | keep reason => exact absurd rfl open_
  | undecided => rfl

/-- Going on where a verdict is undecided, with nothing to go on with. -/
theorem ite_isDecisive_undecided (verdict : Verdict) :
    (if verdict.isDecisive then (return verdict : Inspection Verdict) else return .undecided)
      = return verdict := by
  split
  · rfl
  · next undecided => rw [eq_undecided_of_not_isDecisive undecided]

theorem firstDecisive_singleton (only : Inspection Verdict) : firstDecisive [only] = only := by
  simp only [firstDecisive, ite_isDecisive_undecided, bind_pure]

/-- **A scan of two lists** goes on with the second where the first is undecided. -/
theorem firstDecisive_append (first second : List (Inspection Verdict)) :
    firstDecisive (first ++ second) = (do
      let verdict ← firstDecisive first
      if verdict.isDecisive then return verdict else firstDecisive second) := by
  induction first with
  | nil => rfl
  | cons inspection rest ih =>
    simp only [List.cons_append, firstDecisive, ih, bind_assoc]
    refine congrArg _ (funext fun verdict => ?_)
    split
    · next decisive => simp only [pure_bind, decisive, if_true]
    · rfl

/-- A scan of undecided inspections makes all of them and finds nothing. -/
theorem firstDecisive_of_undecided {inspections : List (Inspection Verdict)}
    (undecided : ∀ inspection ∈ inspections, inspection.result = .ok .undecided) :
    firstDecisive inspections = ⟨inspections.flatMap reads, .ok .undecided⟩ := by
  induction inspections with
  | nil => rfl
  | cons first rest ih =>
    obtain ⟨reads, result⟩ := first
    have here : result = .ok .undecided := undecided _ List.mem_cons_self
    subst here
    rw [firstDecisive, bind_ok]
    simp only [Verdict.isDecisive, Bool.false_eq_true, if_false, List.flatMap_cons]
    rw [ih fun inspection member => undecided inspection (List.mem_cons_of_mem _ member)]

/-- **After the decisive inspection nothing is read.** -/
theorem firstDecisive_of_decisive {before after : List (Inspection Verdict)}
    {decided : Inspection Verdict} {verdict : Verdict}
    (undecided : ∀ inspection ∈ before, inspection.result = .ok .undecided)
    (result : decided.result = .ok verdict) (decisive : verdict.isDecisive) :
    firstDecisive (before ++ decided :: after)
      = ⟨before.flatMap reads ++ decided.reads, .ok verdict⟩ := by
  obtain ⟨own, found⟩ := decided
  have found_eq : found = .ok verdict := result
  subst found_eq
  rw [firstDecisive_append, firstDecisive_of_undecided undecided, bind_ok]
  simp only [Verdict.isDecisive, Bool.false_eq_true, if_false]
  rw [firstDecisive, bind_ok, if_pos decisive]
  simp only [pure_eq, List.append_nil]

/-- **After an inspection with a fault nothing is read.** -/
theorem firstDecisive_of_fault {before after : List (Inspection Verdict)}
    {failed : Inspection Verdict} {fault : Fault}
    (undecided : ∀ inspection ∈ before, inspection.result = .ok .undecided)
    (result : failed.result = .error fault) :
    firstDecisive (before ++ failed :: after)
      = ⟨before.flatMap reads ++ failed.reads, .error fault⟩ := by
  obtain ⟨own, found⟩ := failed
  have found_eq : found = .error fault := result
  subst found_eq
  rw [firstDecisive_append, firstDecisive_of_undecided undecided, bind_ok]
  rfl

/-- A scan reads only what its inspections read. -/
theorem exists_of_mem_reads {inspections : List (Inspection Verdict)} {capability : Capability}
    (read : capability ∈ (firstDecisive inspections).reads) :
    ∃ inspection ∈ inspections, capability ∈ inspection.reads := by
  induction inspections with
  | nil => cases read
  | cons first rest ih =>
    obtain ⟨own, _ | verdict⟩ := first
    · exact ⟨_, List.mem_cons_self, read⟩
    · rw [firstDecisive, bind_ok, List.mem_append] at read
      rcases read with here | later
      · exact ⟨_, List.mem_cons_self, here⟩
      · split at later
        · cases later
        · obtain ⟨inspection, member, inside⟩ := ih later
          exact ⟨inspection, List.mem_cons_of_mem _ member, inside⟩

end FeedFilter.Inspection
