/-
**Directories made on the way to a path.**

In a tree everything is in directories that are there. Below a file there is nothing, so of the
directories on the way to a path the first that is none is the file, if there is one, and making
directories fails at it before anything is made. Without a file on the way just the directories that
are missing are made, the outermost first.

* `Disk.IsTree`: everything is in a directory that is there.
* `Disk.lineage`: a path with all ways to it.
* `makeDirectories_of_file`: a file on the way, or at the end of it, leaves the disk alone.
* `makeDirectories_of_free`: without one the directories are there, and all else is as it was.
-/

import FeedFilter.Proofs.Disk
import Mathlib.Data.List.Induction

namespace FeedFilter.Disk

/-- Whether everything on a disk is in a directory that is there. -/
def IsTree (disk : Disk) : Prop :=
  ∀ path part, disk.place? (path ++ [part]) ≠ none → disk.place? path = some .directory

/-- A path with all ways to it, the outermost first. -/
def lineage (path : Path) : List Path := ways path ++ [path]

/-- Whether one of some paths leads to a file. -/
def HasFile (disk : Disk) (paths : List Path) : Prop :=
  ∃ path ∈ paths, ∃ content, disk.place? path = some (.file content)

variable {disk : Disk} {path front : Path} {part : Text}

/-! ### Ways -/

theorem ways_concat (front : Path) (part : Text) : ways (front ++ [part]) = lineage front := by
  have inner : (List.range front.length).map (front ++ [part]).take = ways front :=
    List.map_congr_left fun count member =>
      List.take_append_of_le_length (Nat.le_of_lt (List.mem_range.mp member))
  rw [lineage, ← inner, ways, List.length_append, List.length_singleton, List.range_succ,
    List.map_append, List.map_singleton, List.take_left]

theorem self_mem_lineage (path : Path) : path ∈ lineage path :=
  List.mem_append_right _ List.mem_cons_self

theorem ne_concat_of_mem_lineage {way : Path} (member : way ∈ lineage front) :
    way ≠ front ++ [part] := ne_of_mem_ways (ways_concat front part ▸ member)

theorem concat_not_mem_lineage : front ++ [part] ∉ lineage front := fun member =>
  ne_concat_of_mem_lineage member rfl

theorem place?_put_concat (place : Place) :
    (disk.put (front ++ [part]) place).place? (front ++ [part]) = some place :=
  place?_put_self place (List.append_ne_nil_of_right_ne_nil _ (List.cons_ne_nil _ _))

/-- What is at a path that leads to no file. -/
theorem missing_or_directory {paths : List Path} (free : ¬ disk.HasFile paths)
    (member : path ∈ paths) : disk.place? path = none ∨ disk.place? path = some .directory := by
  cases here : disk.place? path with
  | none => exact .inl rfl
  | some place =>
    cases place with
    | directory => exact .inr rfl
    | file content => exact absurd ⟨path, member, content, here⟩ free

theorem obstacle?_eq_none_iff :
    disk.obstacle? path = none ↔ ∀ way ∈ ways path, disk.place? way = some .directory := by
  rw [obstacle?, List.findSome?_eq_none_iff]
  refine forall₂_congr fun way member => ?_
  cases disk.place? way with
  | none => simp
  | some place => cases place <;> simp

theorem obstacle?_concat (front : Path) (part : Text) :
    disk.obstacle? (front ++ [part]) = (disk.obstacle? front).or
      (match disk.place? front with
        | none => some .missing
        | some (.file _) => some .notDirectory
        | some .directory => none) := by
  rw [obstacle?, ways_concat, lineage, List.findSome?_append, List.findSome?_singleton]
  rfl

namespace IsTree

/-- What is there has directories all the way. -/
theorem directory_of_mem_ways (tree : disk.IsTree) (there : disk.place? path ≠ none) :
    ∀ way ∈ ways path, disk.place? way = some .directory := by
  induction path using List.reverseRecOn with
  | nil => exact List.forall_mem_nil _
  | append_singleton front part ih =>
    have above := tree front part there
    rw [ways_concat, lineage]
    refine List.forall_mem_append.mpr ⟨ih ?_, List.forall_mem_singleton.mpr above⟩
    rw [above]
    exact Option.some_ne_none _

/-- Nothing is in the way to what is in a directory. -/
theorem obstacle?_of_directory (tree : disk.IsTree)
    (above : disk.place? front = some .directory) (part : Text) :
    disk.obstacle? (front ++ [part]) = none := by
  have ways := tree.directory_of_mem_ways (above ▸ Option.some_ne_none _)
  rw [obstacle?_concat, above, obstacle?_eq_none_iff.mpr ways]
  rfl

/-- **A file is the first thing in the way**: what comes before it is a directory. -/
theorem obstacle?_of_file (tree : disk.IsTree) (blocked : disk.HasFile (ways path)) :
    disk.obstacle? path = some .notDirectory := by
  -- From the end of the path: the file is met before the last way, or it is the last way.
  induction path using List.reverseRecOn with
  | nil =>
    obtain ⟨way, member, -⟩ := blocked
    cases member
  | append_singleton front part ih =>
    obtain ⟨way, member, content, file⟩ := blocked
    rw [ways_concat, lineage, List.mem_append] at member
    rw [obstacle?_concat]
    rcases member with earlier | last
    · rw [ih ⟨way, earlier, content, file⟩, Option.some_or]
    · rw [← List.mem_singleton.mp last, file,
        obstacle?_eq_none_iff.mpr (tree.directory_of_mem_ways (file ▸ Option.some_ne_none _)),
        Option.none_or]

/-- Without a file on the way and with a directory that is not there, one is missing. -/
theorem obstacle?_of_missing (free : ¬ disk.HasFile (ways path))
    (open_ : ¬ ∀ way ∈ ways path, disk.place? way = some .directory) :
    disk.obstacle? path = some .missing := by
  cases found : disk.obstacle? path with
  | none => exact absurd (obstacle?_eq_none_iff.mp found) open_
  | some error =>
    obtain ⟨way, member, same⟩ := List.exists_of_findSome?_eq_some found
    rcases missing_or_directory free member with missing | directory
    · rw [missing] at same
      exact same.symm
    · rw [directory] at same
      cases same

/-- A disk stays a tree when a directory is put into a directory, or a file where no directory was.
-/
theorem put (tree : disk.IsTree) (above : disk.place? front = some .directory) {place : Place}
    (fits : place = .directory ∨ disk.place? (front ++ [part]) ≠ some .directory) :
    (disk.put (front ++ [part]) place).IsTree := by
  intro path last there
  by_cases child : path ++ [last] = front ++ [part]
  · obtain ⟨rfl, -⟩ := List.append_inj' child rfl
    rwa [place?_put_of_ne place (ne_concat_of_mem_lineage (self_mem_lineage path))]
  · rw [place?_put_of_ne place child] at there
    have directory := tree path last there
    by_cases same : path = front ++ [part]
    · rcases fits with rfl | other
      · rw [same, place?_put_concat]
      · exact absurd (same ▸ directory) other
    · rw [place?_put_of_ne place same, directory]

end IsTree

/-! ### Making directories -/

/-- What is said of a disk on which a directory has been made, with those it is in: they are there,
and nothing else has changed. -/
structure IsMade (disk made : Disk) (path : Path) : Prop where
  tree : made.IsTree
  inside : ∀ way ∈ lineage path, made.place? way = some .directory
  outside : ∀ other, other ∉ lineage path → made.place? other = disk.place? other

/-- A directory that is there need not be made. -/
theorem IsTree.isMade (tree : disk.IsTree) (there : disk.place? path = some .directory) :
    IsMade disk disk path where
  tree := tree
  inside := List.forall_mem_append.mpr
    ⟨tree.directory_of_mem_ways (there ▸ Option.some_ne_none _),
      List.forall_mem_singleton.mpr there⟩
  outside _ _ := rfl

theorem IsTree.makeDirectory_of_missing (tree : disk.IsTree)
    (above : disk.place? front = some .directory) (missing : disk.place? (front ++ [part]) = none) :
    disk.makeDirectory (front ++ [part]) = .ok (disk.put (front ++ [part]) .directory) := by
  rw [makeDirectory, tree.obstacle?_of_directory above, missing]

/-- One more directory is made. -/
theorem IsMade.put {made : Disk} (isMade : IsMade disk made front) :
    IsMade disk (made.put (front ++ [part]) .directory) (front ++ [part]) := by
  refine ⟨isMade.tree.put (isMade.inside front (self_mem_lineage front)) (.inl rfl), ?_, ?_⟩
  · rw [lineage, ways_concat]
    refine List.forall_mem_append.mpr ⟨fun way member => ?_, ?_⟩
    · rw [place?_put_of_ne _ (ne_concat_of_mem_lineage member), isMade.inside way member]
    · exact List.forall_mem_singleton.mpr (place?_put_concat _)
  · intro other beyond
    rw [lineage, ways_concat, List.mem_append, List.mem_singleton, not_or] at beyond
    rw [place?_put_of_ne _ beyond.2, isMade.outside other beyond.1]

theorem makeDirectories_concat (disk : Disk) (front : Path) (part : Text) :
    disk.makeDirectories (front ++ [part])
      = match disk.makeDirectory (front ++ [part]) with
        | .ok made => (made, .ok ())
        | .error .missing =>
          match disk.makeDirectories front with
          | (above, .error error) => (above, .error error)
          | (above, .ok ()) =>
            match above.makeDirectory (front ++ [part]) with
            | .ok made => (made, .ok ())
            | .error error => (above, .error error)
        | .error error =>
          if disk.isDirectory (front ++ [part]) then (disk, .ok ()) else (disk, .error error) := by
  have parent : Path.parent (front ++ [part]) = front := List.dropLast_concat
  rw [makeDirectories, List.length_append, List.length_singleton, makeDirectoriesFrom, parent]
  rfl

theorem IsTree.makeDirectories_of_directory (tree : disk.IsTree)
    (there : disk.place? path = some .directory) : disk.makeDirectories path = (disk, .ok ()) := by
  rcases List.eq_nil_or_concat' path with rfl | ⟨front, part, rfl⟩
  · rfl
  · have above := tree front part (there ▸ Option.some_ne_none _)
    have occupied : disk.makeDirectory (front ++ [part]) = .error .occupied := by
      rw [makeDirectory, tree.obstacle?_of_directory above, there]
    have known : disk.isDirectory (front ++ [part]) = true := by
      rw [isDirectory, there, beq_self_eq_true]
    rw [makeDirectories_concat, occupied]
    exact if_pos known

/-- A file on the way refuses a directory, and not for the want of another one. -/
theorem IsTree.makeDirectory_of_file (tree : disk.IsTree)
    (blocked : disk.HasFile (lineage (front ++ [part]))) :
    ∃ error, disk.makeDirectory (front ++ [part]) = .error error ∧ error ≠ .missing
      ∧ disk.isDirectory (front ++ [part]) = false := by
  obtain ⟨way, member, content, file⟩ := blocked
  rw [lineage, List.mem_append] at member
  rcases member with earlier | last
  · refine ⟨.notDirectory, ?_, DiskError.noConfusion, ?_⟩
    · rw [makeDirectory, tree.obstacle?_of_file ⟨way, earlier, content, file⟩]
    · rw [isDirectory, beq_eq_false_iff_ne]
      intro there
      have directory := tree.directory_of_mem_ways (there ▸ Option.some_ne_none _) way earlier
      rw [file] at directory
      cases directory
  · rw [List.mem_singleton.mp last] at file
    have above := tree front part (file ▸ Option.some_ne_none _)
    refine ⟨.occupied, ?_, DiskError.noConfusion, ?_⟩
    · rw [makeDirectory, tree.obstacle?_of_directory above, file]
    · rw [isDirectory, file]
      rfl

/-- **A file on the way leaves the disk alone**: no directory is made. -/
theorem IsTree.makeDirectories_of_file (tree : disk.IsTree)
    (blocked : disk.HasFile (lineage path)) :
    ∃ error, disk.makeDirectories path = (disk, .error error) := by
  rcases List.eq_nil_or_concat' path with rfl | ⟨front, part, rfl⟩
  · obtain ⟨way, member, content, file⟩ := blocked
    rw [List.mem_singleton.mp member] at file
    cases file
  obtain ⟨error, failed, other, noDirectory⟩ := tree.makeDirectory_of_file blocked
  refine ⟨error, ?_⟩
  rw [makeDirectories_concat, failed, noDirectory]
  cases error with
  | missing => exact absurd rfl other
  | _ => rfl

/-- **Without a file on the way the directories are made**, as far as they are missing, and nothing
else changes. -/
theorem IsTree.makeDirectories_of_free (tree : disk.IsTree)
    (free : ¬ disk.HasFile (lineage path)) :
    ∃ made, disk.makeDirectories path = (made, .ok ()) ∧ IsMade disk made path := by
  induction path using List.reverseRecOn with
  | nil => exact ⟨disk, rfl, tree.isMade rfl⟩
  | append_singleton front part ih =>
    rw [lineage, ways_concat] at free
    have before : ¬ disk.HasFile (lineage front) := fun ⟨way, member, file⟩ =>
      free ⟨way, List.mem_append_left _ member, file⟩
    by_cases there : disk.place? (front ++ [part]) = some .directory
    · exact ⟨disk, tree.makeDirectories_of_directory there, tree.isMade there⟩
    have missing : disk.place? (front ++ [part]) = none :=
      (missing_or_directory free (List.mem_append_right _ List.mem_cons_self)).resolve_right there
    by_cases above : disk.place? front = some .directory
    · refine ⟨_, ?_, (tree.isMade above).put⟩
      rw [makeDirectories_concat, tree.makeDirectory_of_missing above missing]
    · -- The directories above are made first, and then this one.
      have failed : disk.makeDirectory (front ++ [part]) = .error .missing := by
        have stuck : disk.obstacle? (front ++ [part]) = some .missing :=
          obstacle?_of_missing (by rwa [ways_concat]) fun all =>
            above (all front (ways_concat front part ▸ self_mem_lineage front))
        rw [makeDirectory, stuck]
      obtain ⟨made, done, isMade⟩ := ih before
      have still : made.place? (front ++ [part]) = none := by
        rw [isMade.outside _ concat_not_mem_lineage, missing]
      refine ⟨_, ?_, isMade.put⟩
      have last := isMade.tree.makeDirectory_of_missing
        (isMade.inside front (self_mem_lineage front)) still
      rw [makeDirectories_concat, failed]
      simp only [done, last]

end FeedFilter.Disk
