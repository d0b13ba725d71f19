/-
**Reading an expression that is a row of elements.**

Where each part of an expression is read as one element whatever stands around it, the whole
expression is read as the sequence of these elements.

* `ReadsAs`: a part of an expression is read as one element.
* `finish_pieces`: one step is made for each part, and its element is added.
* `parseOnce_pieces`: the whole expression is the sequence of the elements.
-/

import FeedFilter.Regex.Parser

namespace FeedFilter.Regex

/-- Whether a part of an expression is read as one element under some flags, whatever stands around
it. -/
def ReadsAs (flags : Flags) (part : Text) (node : Node Mention) : Prop :=
  ∃ c more, part = c :: more ∧ ∀ reading : Reading, reading.flags = flags →
    reading.wholeFlags = flags → ∀ rest position,
      reading.step c position ⟨more ++ rest, position + 1⟩
        = .ok (reading.add node ⟨rest, position + part.length⟩)

theorem ReadsAs.length_pos {flags : Flags} {part : Text} {node : Node Mention}
    (reads : ReadsAs flags part node) : 1 ≤ part.length := by
  obtain ⟨c, more, rfl, _⟩ := reads
  exact Nat.le_add_left 1 more.length

theorem Source.next_cons (c : Char) (rest : Text) (position : Nat) :
    (⟨c :: rest, position⟩ : Source).next false = (some c, ⟨rest, position + 1⟩) := rfl

namespace Reading

/-- A reading that has gone on after elements. -/
def addAll (reading : Reading) (nodes : List (Node Mention)) (source : Source) : Reading :=
  { reading with
    frame := { reading.frame with items := nodes.reverse.map some ++ reading.frame.items }, source }

theorem addAll_cons (reading : Reading) (node : Node Mention) (nodes : List (Node Mention))
    (between source : Source) :
    (reading.add node between).addAll nodes source = reading.addAll (node :: nodes) source := by
  simp only [addAll, add, Frame.add, List.reverse_cons, List.map_append, List.map_cons,
    List.map_nil, List.append_assoc, List.singleton_append]

variable {flags : Flags} {pieces : List (Text × Node Mention)}

/-- **One step is made for each part**, and its element is added. -/
theorem finish_pieces (plain : flags .spaced = false)
    (each : ∀ piece ∈ pieces, ReadsAs flags piece.1 piece.2) (fuel : Nat) (rest : Text) :
    ∀ (reading : Reading) (position : Nat), reading.flags = flags → reading.wholeFlags = flags →
      reading.source = ⟨pieces.flatMap Prod.fst ++ rest, position⟩ →
      finish (pieces.length + fuel) reading
        = finish fuel (reading.addAll (pieces.map Prod.snd)
            ⟨rest, position + (pieces.flatMap Prod.fst).length⟩) := by
  induction pieces with
  | nil =>
    intro reading position _ _ source
    have same : reading.addAll [] ⟨rest, position⟩ = reading := by
      rw [List.flatMap_nil, List.nil_append] at source
      rw [← source]
      rfl
    rw [List.length_nil, Nat.zero_add, List.flatMap_nil, List.length_nil, Nat.add_zero,
      List.map_nil, same]
  | cons piece pieces ih =>
    intro reading position flagsEq wholeEq source
    obtain ⟨part, node⟩ := piece
    obtain ⟨c, more, rfl, step⟩ := each _ List.mem_cons_self
    have spaced : reading.spaced = false := by rw [Reading.spaced, flagsEq, plain]
    rw [List.length_cons, Nat.add_right_comm, finish, spaced, source, List.flatMap_cons,
      List.append_assoc, List.cons_append, Source.next_cons]
    simp only [step reading flagsEq wholeEq]
    refine (ih (fun other member => each other (List.mem_cons_of_mem _ member))
      (reading.add node _) (position + (c :: more).length) flagsEq wholeEq rfl).trans ?_
    rw [addAll_cons, List.length_append, Nat.add_assoc, List.map_cons]

end Reading

variable {flags : Flags} {pieces : List (Text × Node Mention)}

theorem length_le_of_readsAs (each : ∀ piece ∈ pieces, ReadsAs flags piece.1 piece.2) :
    pieces.length ≤ (pieces.flatMap Prod.fst).length := by
  induction pieces with
  | nil => exact Nat.le_refl 0
  | cons piece pieces ih =>
    have here := (each piece List.mem_cons_self).length_pos
    have later := ih fun other member => each other (List.mem_cons_of_mem _ member)
    rw [List.length_cons, List.flatMap_cons, List.length_append]
    omega

/-- **An expression that is a row of parts** is read as the sequence of their elements. -/
theorem parseOnce_pieces (plain : flags .spaced = false)
    (each : ∀ piece ∈ pieces, ReadsAs flags piece.1 piece.2) :
    parseOnce flags (pieces.flatMap Prod.fst)
      = .ok ⟨.sequence (pieces.map Prod.snd), flags, ⟨0, []⟩, false, true⟩ := by
  obtain ⟨spare, enough⟩ := Nat.le.dest (length_le_of_readsAs each)
  have finished := Reading.finish_pieces plain each (spare + 1) []
    (.start flags (pieces.flatMap Prod.fst)) 0 rfl rfl (by rw [List.append_nil]; rfl)
  have ended : ∀ reading : Reading, reading.flags = flags → reading.outer = [] →
      reading.source.rest = [] → Reading.finish (spare + 1) reading = .ok reading := by
    intro reading flagsEq outer rest
    have spaced : reading.spaced = false := by rw [Reading.spaced, flagsEq, plain]
    obtain ⟨text, position⟩ := reading.source
    rw [Reading.finish, spaced]
    simp [Source.next, Source.skip, rest, outer]
  rw [parseOnce, ← enough, Nat.add_assoc, finished, ended _ rfl rfl rfl]
  simp [Reading.addAll, Reading.start, Frame.opened, Frame.body, Frame.branch]

end FeedFilter.Regex
