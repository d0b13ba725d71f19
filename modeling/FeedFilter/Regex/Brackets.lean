/-
**Character sets in brackets.**

A set lists characters, ranges and classes between brackets. In the second version of the language
sets nest and have operators: `||` binds loosest, then `~~`, then `&&`, then `--`.

* `Operands`: what is read of one level of brackets.
* `readSet`: reads a set after its opening bracket.
-/

import FeedFilter.Regex.Escape

namespace FeedFilter.Regex

/-- What is read of one pair of brackets: the finished operands of each operator and the members of
the operand being read, all with the last first. -/
structure Operands where
  negated : Bool
  unions : List CharSet
  differing : List CharSet
  intersected : List CharSet
  remaining : List CharSet
  members : List CharSet

namespace Operands

/-- Nothing read yet. -/
def empty (negated : Bool) : Operands := ⟨negated, [], [], [], [], []⟩

/-- One set out of operands, which are given with the last first. -/
def combine (operator : SetOperator) (operands : List CharSet) : CharSet :=
  match operands with
  | [only] => only
  | operands => .combined operator operands.reverse true

/-- The members read since the last operator, as one set. -/
def union (operands : Operands) : CharSet := combine .union operands.members

/-- The operand of `&&` that ends here. -/
def difference (operands : Operands) : CharSet :=
  combine .difference (operands.union :: operands.remaining)

/-- The operand of `~~` that ends here. -/
def intersection (operands : Operands) : CharSet :=
  combine .intersection (operands.difference :: operands.intersected)

/-- The operand of `||` that ends here. -/
def symmetricDifference (operands : Operands) : CharSet :=
  combine .symmetricDifference (operands.intersection :: operands.differing)

/-- The whole set. -/
def whole (operands : Operands) : CharSet :=
  let members := combine .union (operands.symmetricDifference :: operands.unions)
  if operands.negated then members.negate else members

/-- Adds a member to the operand being read. -/
def add (operands : Operands) (member : CharSet) : Operands :=
  { operands with members := member :: operands.members }

/-- Begins the next operand of an operator. -/
def operate (operands : Operands) : SetOperator → Operands
  | .difference =>
    { operands with members := [], remaining := operands.union :: operands.remaining }
  | .intersection =>
    { operands with
      members := [], remaining := [], intersected := operands.difference :: operands.intersected }
  | .symmetricDifference =>
    { operands with
      members := [], remaining := [], intersected := []
      differing := operands.intersection :: operands.differing }
  | .union =>
    { operands with
      members := [], remaining := [], intersected := [], differing := []
      unions := operands.symmetricDifference :: operands.unions }

end Operands

/-- The operators with their spelling. -/
def setOperators : List (List Char × SetOperator) :=
  [(['-', '-'], .difference), (['&', '&'], .intersection), (['~', '~'], .symmetricDifference),
   (['|', '|'], .union)]

/-- The operator that is next, and what follows it. -/
def operator? (source : Source) : Option (SetOperator × Source) :=
  setOperators.findSome? fun (spelling, operator) =>
    (source.accept? false spelling).map fun after => (operator, after)

/-- Reads a class such as `[:alpha:]` after its opening; `none` if none is written there. -/
def readNamedClass (source : Source) : Except Refusal (Option (CharSet × Source)) :=
  let (positive, inner) :=
    match source.accept? false ['^'] with
    | some after => (false, after)
    | none => (true, source)
  let (kind, value, after) := readPropertyName false inner
  match after.accept? false [':', ']'] with
  | none => .ok none
  | some last =>
    match propertyAt kind value true last.position with
    | .ok (property, holds) => .ok (some (.property property (positive == holds) false, last))
    | .error refusal => .error refusal

/-- Reads one character or class of a set. -/
def readSetItem (plainOnly : Bool) (source : Source) : Except Refusal (CharSet × Source) :=
  match source.rest with
  | [] => .error (.invalid ⟨.unterminatedSet, source.position⟩)
  | '\\' :: [] => .error (.invalid ⟨.escapeAtEnd, source.position + 1⟩)
  | '\\' :: letter :: rest => readCharEscape ⟨false, plainOnly⟩ letter ⟨rest, source.position + 2⟩
  | '[' :: ':' :: rest =>
    match readNamedClass ⟨rest, source.position + 2⟩ with
    | .ok (some found) => .ok found
    | .ok none => .ok (.char '['.toNat true, ⟨':' :: rest, source.position + 1⟩)
    | .error refusal => .error refusal
  | c :: rest => .ok (.char c.toNat true, ⟨rest, source.position + 1⟩)

/-- Whether a nested set begins here: a bracket that opens no named class. -/
def opensNested (source : Source) : Bool :=
  match source.rest with
  | '[' :: ':' :: rest =>
    match readNamedClass ⟨rest, source.position + 2⟩ with
    | .ok none => true
    | _ => false
  | '[' :: _ => true
  | _ => false

/-- Reads what follows an item: the rest of a range, if the item begins one. -/
def readRange (secondVersion plainOnly : Bool) (first : CharSet) (source : Source) :
    Except Refusal (List CharSet × Source) :=
  match first, source.rest with
  | .char low true, '-' :: rest =>
    let after : Source := ⟨rest, source.position + 1⟩
    match secondVersion, rest with
    | true, '-' :: _ => .ok ([first], source)
    | _, ']' :: _ => .ok ([first, .char '-'.toNat true], after)
    | _, _ =>
      if secondVersion && opensNested after then .ok ([first, .char '-'.toNat true], after)
      else match readSetItem plainOnly after with
      | .ok (.char high true, last) =>
        if high < low then .error (.invalid ⟨.badRange, last.position⟩)
        else .ok ([if low = high then first else .range low high true], last)
      | .ok (second, last) => .ok ([first, .char '-'.toNat true, second], last)
      | .error refusal => .error refusal
  | _, _ => .ok ([first], source)

/-- Reads a member of a set: a class, a character or a range. -/
def readMember (secondVersion plainOnly : Bool) (source : Source) :
    Except Refusal (CharSet × Source) :=
  match readSetItem plainOnly source with
  | .error refusal => .error refusal
  | .ok (first, after) =>
    match readRange secondVersion plainOnly first after with
    | .error refusal => .error refusal
    | .ok (members, last) => .ok (Operands.combine .union members.reverse, last)

/-- What follows the sign of an opposite, if it is next. -/
def readNegation (source : Source) : Bool × Source :=
  match source.rest with
  | '^' :: rest => (true, ⟨rest, source.position + 1⟩)
  | _ => (false, source)

/-- Reads a set up to its closing bracket; `outer` holds the sets it is nested in. Every step reads
at least one character, and `fuel` bounds their number. -/
def readSetFrom (secondVersion plainOnly : Bool) : Nat → Operands → List Operands → Source →
    Except Refusal (CharSet × Source)
  | 0, _, _, source => .error (.invalid ⟨.unterminatedSet, source.position⟩)
  | fuel + 1, operands, outer, source =>
    match operands.members, source.rest with
    | _ :: _, ']' :: rest =>
      let after : Source := ⟨rest, source.position + 1⟩
      match outer with
      | [] => .ok (operands.whole, after)
      | enclosing :: others =>
        readSetFrom secondVersion plainOnly fuel (enclosing.add operands.whole) others after
    | members, _ =>
      match if secondVersion && !members.isEmpty then operator? source else none with
      | some (operator, after) =>
        readSetFrom secondVersion plainOnly fuel (operands.operate operator) outer after
      | none =>
        if secondVersion && opensNested source then
          let (negated, inner) := readNegation ⟨source.rest.drop 1, source.position + 1⟩
          readSetFrom secondVersion plainOnly fuel (.empty negated) (operands :: outer) inner
        else
          match readMember secondVersion plainOnly source with
          | .error refusal => .error refusal
          | .ok (member, after) =>
            readSetFrom secondVersion plainOnly fuel (operands.add member) outer after

/-- Reads a set after its opening bracket. -/
def readSet (secondVersion plainOnly : Bool) (source : Source) :
    Except Refusal (CharSet × Source) :=
  let (negated, inner) := readNegation source
  readSetFrom secondVersion plainOnly (source.rest.length + 1) (.empty negated) [] inner

end FeedFilter.Regex
