/-
**Bounds of approximate matches.**

Behind an element a brace may open bounds on how much a match may differ from it: for each kind of
difference how many there may be, and for their sum, each kind with a weight, how large it may be.
What is no such bound makes the brace a plain character.

* `readBound`: the bound of one kind, with a limit behind it or, `readBetween`, one on either side.
* `readSum`: the bound of a sum.
* `readBounds`: bounds with commas between them, and the largest number that they ask for.
-/

import FeedFilter.Regex.Escape

namespace FeedFilter.Regex

/-- The kinds that have a bound so far, whether their sum has one, and the largest limit or weight
among them. -/
structure Bounds where
  kinds : List Char := []
  summed : Bool := false
  largest : Nat := 0

/-- The kinds of differences that have a weight: what is left out, put in or put in the place of
something. -/
def weightedKinds : List Char := ['d', 'i', 's']

/-- The numbers that there is code for lie below it. -/
def codeLimit : Nat := 0x100000000

/-- Whether a kind can be bounded next. All kinds together are one more. -/
def Bounds.canTake (bounds : Bounds) (kind : Char) : Bool :=
  ('e' :: weightedKinds).contains kind && !bounds.kinds.contains kind

/-- Reads the sign before a limit: whether the limit itself is still allowed. -/
def readComparison? (spaced : Bool) (source : Source) : Option (Bool × Source) :=
  match source.accept? spaced ['<', '='], source.accept? spaced ['<'] with
  | some after, _ => some (true, after)
  | none, some after => some (false, after)
  | none, none => none

/-- The first number that a limit does not allow. -/
def beyond (inclusive : Bool) (limit : Nat) : Nat := if inclusive then limit + 1 else limit

/-- Reads the limit of a kind. -/
def readLimit (spaced : Bool) (source : Source) : Except Refusal (Nat × Source) :=
  let (digits, after) := source.takeWhile spaced Char.isDigit
  match readCount? digits with
  | .ok (some limit) => .ok (limit, after)
  | _ => .error (.invalid ⟨.badBound, source.position⟩)

/-- Reads the limit that stands behind a kind and a sign, and gives the kind with the largest number
of differences; `least` of them are asked for. -/
def readUpperLimit (spaced inclusive : Bool) (least : Nat) (kind : Char) (source : Source) :
    Except Refusal (Option (Char × Nat × Source)) :=
  match readLimit spaced source with
  | .error refusal => .error refusal
  | .ok (limit, after) =>
    if least < beyond inclusive limit then .ok (some (kind, beyond inclusive limit - 1, after))
    else .error (.invalid ⟨.badBound, source.position⟩)

/-- Reads the bound of a kind that begins with a limit; `none` if there is no such bound. -/
def readBetween (spaced : Bool) (bounds : Bounds) (source : Source) :
    Except Refusal (Option (Char × Nat × Source)) :=
  match readLimit spaced source with
  | .error refusal => .error refusal
  | .ok (limit, behind) =>
    match readComparison? spaced behind with
    | none => .ok none
    | some (inclusive, inner) =>
      match inner.next spaced with
      | (none, _) => .ok none
      | (some kind, last) =>
        match readComparison? spaced last with
        | none => .ok none
        | some (upperInclusive, upper) =>
          if bounds.canTake kind then
            readUpperLimit spaced upperInclusive (beyond (!inclusive) limit) kind upper
          else .ok none

/-- Reads the bound of a kind and gives the kind with its limit, which is zero if there is none;
`none` if there is no such bound. -/
def readBound (spaced : Bool) (bounds : Bounds) (source : Source) :
    Except Refusal (Option (Char × Nat × Source)) :=
  match source.next spaced with
  | (none, _) => .ok none
  | (some c, after) =>
    if c.isDigit then readBetween spaced bounds source
    else if bounds.canTake c then
      match readComparison? spaced after with
      | none => .ok (some (c, 0, after))
      | some (inclusive, inner) => readUpperLimit spaced inclusive 0 c inner
    else .ok none

/-- Reads kinds with their weights and plus signs between them, and gives the largest weight; `none`
if there are no such kinds. `fuel` bounds how many are read; more than all kinds are never read. -/
def readWeights (spaced : Bool) :
    Nat → List Char → Nat → Source → Except Refusal (Option (Nat × Source))
  | 0, _, _, _ => .ok none
  | fuel + 1, kinds, largest, source =>
    let (digits, after) := source.takeWhile spaced Char.isDigit
    match after.next spaced with
    | (none, _) =>
      match readCount? digits with
      | .error misfit => .error (.misfit misfit)
      | .ok _ => .ok none
    | (some kind, last) =>
      if !weightedKinds.contains kind then .ok none
      else if kinds.contains kind then .error (.invalid ⟨.repeatedWeight, last.position⟩)
      else match readCount? digits with
        | .error misfit => .error (.misfit misfit)
        | .ok weight =>
          let known := max largest (weight.getD 1)
          match last.accept? spaced ['+'] with
          | none => .ok (some (known, last))
          | some more => readWeights spaced fuel (kind :: kinds) known more

/-- Reads the bound of a sum and gives the largest of its weights and its limit; `none` if there is
no such bound. A limit that is missing is not told apart from one that is no number. -/
def readSum (spaced : Bool) (bounds : Bounds) (source : Source) :
    Except Refusal (Option (Nat × Source)) :=
  if bounds.summed then .error (.invalid ⟨.secondSum, source.position⟩)
  else match readWeights spaced (weightedKinds.length + 1) [] 0 source with
    | .error refusal => .error refusal
    | .ok none => .ok none
    | .ok (some (weight, after)) =>
      match readComparison? spaced after with
      | none => .ok none
      | some (inclusive, inner) =>
        let (digits, last) := inner.takeWhile spaced Char.isDigit
        match readCount? digits with
        | .error misfit => .error (.misfit misfit)
        | .ok none => .error (.misfit .missing)
        | .ok (some limit) =>
          if 0 < beyond inclusive limit then
            .ok (some (max weight (beyond inclusive limit - 1), last))
          else .error (.invalid ⟨.badBound, last.position⟩)

/-- One more than the number of bounds that there can be: of each kind, of all kinds together and of
the sum. -/
def boundLimit : Nat := weightedKinds.length + 3

/-- Reads bounds up to the end of the last; `none` if there is something else among them. `fuel`
bounds how many are read. -/
def readBounds (spaced : Bool) (bounds : Bounds) :
    Nat → Source → Except Refusal (Option (Bounds × Source))
  | 0, _ => .ok none
  | fuel + 1, source =>
    let goOn (known : Bounds) (after : Source) : Except Refusal (Option (Bounds × Source)) :=
      match after.accept? spaced [','] with
      | none => .ok (some (known, after))
      | some next => readBounds spaced known fuel next
    match readBound spaced bounds source with
    | .error refusal => .error refusal
    | .ok (some (kind, limit, after)) =>
      goOn { bounds with kinds := kind :: bounds.kinds, largest := max bounds.largest limit } after
    | .ok none =>
      match readSum spaced bounds source with
      | .error refusal => .error refusal
      | .ok none => .ok none
      | .ok (some (number, after)) =>
        goOn { bounds with summed := true, largest := max bounds.largest number } after

end FeedFilter.Regex
