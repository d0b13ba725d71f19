/-
**What is at a path after something has been put there.**

* `place?_put_self`, `place?_put_of_ne`: what is put at a path is there, and nothing else changes.
* `content_eq_ok_iff`: a file has a content when the way to it is free.
* `content_of_writeFile`: a written file holds what has been written.
-/

import FeedFilter.Disk
import Mathlib.Data.List.Basic

namespace FeedFilter.Disk

variable {disk : Disk} {path : Path}

theorem place?_put_self (place : Place) (proper : path ≠ []) :
    (disk.put path place).place? path = some place := by
  rw [place?, if_neg (by simpa using proper), put, List.lookup_cons_self]

theorem place?_put_of_ne {other : Path} (place : Place) (different : other ≠ path) :
    (disk.put path place).place? other = disk.place? other := by
  have elsewhere (places : List (Path × Place)) :
      (places.filter fun entry => entry.1 ≠ path).lookup other = places.lookup other := by
    induction places with
    | nil => rfl
    | cons entry places ih =>
      obtain ⟨key, kept⟩ := entry
      by_cases same : key = path
      · rw [List.filter_cons_of_neg (by simpa using same), ih, List.lookup_cons,
          beq_eq_false_iff_ne.mpr (same ▸ different)]
      · rw [List.filter_cons_of_pos (by simpa using same), List.lookup_cons, List.lookup_cons, ih]
  rw [place?, place?, put, List.lookup_cons, beq_eq_false_iff_ne.mpr different]
  simp only [elsewhere]

/-- No way to a path is the path itself. -/
theorem ne_of_mem_ways {way : Path} (member : way ∈ ways path) : way ≠ path := by
  obtain ⟨count, short, rfl⟩ := List.mem_map.mp member
  intro same
  have := congrArg List.length same
  rw [List.length_take, Nat.min_eq_left (Nat.le_of_lt (List.mem_range.mp short))] at this
  exact absurd this (Nat.ne_of_lt (List.mem_range.mp short))

/-- What is at a path is no obstacle on the way to it. -/
theorem obstacle?_put_self (place : Place) :
    (disk.put path place).obstacle? path = disk.obstacle? path := by
  rw [obstacle?, obstacle?, ← List.head?_filterMap, ← List.head?_filterMap]
  refine congrArg List.head? (List.filterMap_congr fun way member => ?_)
  rw [place?_put_of_ne place (ne_of_mem_ways member)]

theorem content_eq_ok_iff {content : List UInt8} :
    disk.content path = .ok content
      ↔ disk.obstacle? path = none ∧ disk.place? path = some (.file content) := by
  rw [Disk.content]
  cases disk.obstacle? path with
  | some error => simp
  | none =>
    cases disk.place? path with
    | none => simp
    | some place => cases place <;> simp

/-- A file that has a content is there. -/
theorem isPresent_of_content {content : List UInt8} (holds : disk.content path = .ok content) :
    disk.isPresent path = true := by
  obtain ⟨free, here⟩ := content_eq_ok_iff.mp holds
  rw [isPresent, free, here]
  rfl

/-- **A written file holds what has been written.** -/
theorem content_of_writeFile {written : Disk} {content : List UInt8}
    (done : disk.writeFile path content = .ok written) : written.content path = .ok content := by
  rw [writeFile] at done
  split at done
  · cases done
  · next free =>
    split at done
    · cases done
    · next noDirectory =>
      cases done
      have proper : path ≠ [] := by
        rintro rfl
        exact noDirectory rfl
      exact content_eq_ok_iff.mpr
        ⟨(obstacle?_put_self _).trans free, place?_put_self _ proper⟩

end FeedFilter.Disk
