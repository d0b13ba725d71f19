/-
**Expressions as trees.**

* `Node`: an expression, with the way it refers to groups left open: by what is written while it is
  read, by number once that is settled.
* `Node.resolve`: turns what is written into numbers and finds the first reference to no group.
-/

import FeedFilter.Regex.CharSet
import FeedFilter.Regex.Flag

namespace FeedFilter.Regex

/-- How letters of an expression compare to letters of a text. -/
inductive Casing where
  | exact
  | simple
  | full
  | plain
deriving DecidableEq, Repr

/-- Places in a text. -/
inductive Anchor where
  | textStart
  | lineStart
  | textEnd
  | lineEnd
  | lastLineEnd
  | searchStart
  | wordBoundary (plainOnly : Bool)
  | noWordBoundary (plainOnly : Bool)
  | wordStart (plainOnly : Bool)
  | wordEnd (plainOnly : Bool)
  | anywhere
  | nowhere
deriving DecidableEq, Repr

/-- In what order the numbers of repetitions are tried; a possessive repeat keeps the first that
fits. -/
inductive Greed where
  | greedy
  | lazy
  | possessive
deriving DecidableEq, Repr

/-- An expression; `Reference` is how it refers to its groups. -/
inductive Node (Reference : Type) where
  | char (code : Nat) (casing : Casing)
  | folded (codes : List Nat)
  | set (set : CharSet) (casing : Casing)
  | any (breaksToo : Bool)
  | anchor (anchor : Anchor)
  | sequence (items : List (Node Reference))
  | alternatives (branches : List (Node Reference))
  | group (index : Nat) (body : Node Reference)
  | backreference (reference : Reference) (casing : Casing)
  | call (reference : Reference)
  | look (behind positive : Bool) (body : Node Reference)
  | atomic (body : Node Reference)
  | conditional (reference : Reference) (yes no : Node Reference)
  | lookConditional (behind positive : Bool) (test yes no : Node Reference)
  | repeated (body : Node Reference) (least : Nat) (most : Option Nat) (greed : Greed)
deriving Repr, Inhabited

/-- A reference as it is written: a number or a name, and the position where it is reported. -/
structure Mention where
  name : Text
  number : Option Nat
  position : Nat
  isCondition : Bool
deriving Repr

/-- The groups of an expression: how many there are, and the numbers of the named ones. -/
structure Groups where
  count : Nat
  names : List (Text × Nat)

/-- The number that a mention stands for. A condition on `DEFINE` never holds, which group zero
stands for. -/
def Groups.number (groups : Groups) (mention : Mention) : Except Error Nat :=
  match mention.number with
  | some number =>
    if number ≤ groups.count && (0 < number || mention.isCondition) then .ok number
    else .error ⟨.invalidReference, mention.position⟩
  | none =>
    match groups.names.lookup mention.name with
    | some number => .ok number
    | none =>
      if mention.isCondition && mention.name = "DEFINE".toList then .ok 0
      else .error ⟨.unknownGroup, mention.position⟩

/-- The number of a group that is called; group zero is the whole expression. -/
def Groups.called (groups : Groups) (mention : Mention) : Except Error Nat :=
  match mention.number <|> groups.names.lookup mention.name with
  | some number =>
    if number ≤ groups.count then .ok number else .error ⟨.unknownGroup, mention.position⟩
  | none => .error ⟨.invalidReference, mention.position⟩

namespace Node

mutual

/-- Puts numbers in the place of what is written; the first reference to no group is an error. -/
def resolve (groups : Groups) : Node Mention → Except Error (Node Nat)
  | char code casing => .ok (char code casing)
  | folded codes => .ok (folded codes)
  | set members casing => .ok (set members casing)
  | any breaksToo => .ok (any breaksToo)
  | anchor place => .ok (anchor place)
  | sequence items => do return sequence (← resolveAll groups items)
  | alternatives branches => do return alternatives (← resolveAll groups branches)
  | group index body => do return group index (← resolve groups body)
  | backreference mention casing => do return backreference (← groups.number mention) casing
  | call mention => do return call (← groups.called mention)
  | look behind positive body => do return look behind positive (← resolve groups body)
  | atomic body => do return atomic (← resolve groups body)
  | conditional mention yes no => do
    let number ← groups.number mention
    let yes ← resolve groups yes
    let no ← resolve groups no
    return conditional number yes no
  | lookConditional behind positive test yes no => do
    let test ← resolve groups test
    let yes ← resolve groups yes
    let no ← resolve groups no
    return lookConditional behind positive test yes no
  | repeated body least most greed => do return repeated (← resolve groups body) least most greed

/-- Puts numbers in the place of what is written in each of some expressions. -/
def resolveAll (groups : Groups) : List (Node Mention) → Except Error (List (Node Nat))
  | [] => .ok []
  | first :: rest => do
    let first ← resolve groups first
    let rest ← resolveAll groups rest
    return first :: rest

end

mutual

/-- The numbers of the groups that an expression refers to. -/
def references : Node Nat → List Nat
  | sequence items => referencesAll items
  | alternatives branches => referencesAll branches
  | group _ body => references body
  | backreference number _ => [number]
  | look _ _ body => references body
  | atomic body => references body
  | conditional number yes no => number :: references yes ++ references no
  | lookConditional _ _ test yes no => references test ++ references yes ++ references no
  | repeated body _ _ _ => references body
  | _ => []

/-- The numbers of the groups that some expressions refer to. -/
def referencesAll : List (Node Nat) → List Nat
  | [] => []
  | first :: rest => references first ++ referencesAll rest

end

mutual

/-- The numbers of the groups that an expression calls, in the order of the calls. -/
def calls : Node Nat → List Nat
  | call number => [number]
  | sequence items => callsAll items
  | alternatives branches => callsAll branches
  | group _ body => calls body
  | look _ _ body => calls body
  | atomic body => calls body
  | conditional _ yes no => calls yes ++ calls no
  | lookConditional _ _ test yes no => calls test ++ calls yes ++ calls no
  | repeated body _ _ _ => calls body
  | _ => []

/-- The numbers of the groups that some expressions call. -/
def callsAll : List (Node Nat) → List Nat
  | [] => []
  | first :: rest => calls first ++ callsAll rest

end

/-- Whether an expression calls one of its groups. -/
def hasCalls (node : Node Nat) : Bool := !node.calls.isEmpty

mutual

/-- The body of the group with a number. -/
def groupBody? (number : Nat) : Node Nat → Option (Node Nat)
  | sequence items => groupBodyAmong? number items
  | alternatives branches => groupBodyAmong? number branches
  | group index body => if index = number then some body else groupBody? number body
  | look _ _ body => groupBody? number body
  | atomic body => groupBody? number body
  | conditional _ yes no => groupBody? number yes <|> groupBody? number no
  | lookConditional _ _ test yes no =>
    groupBody? number test <|> groupBody? number yes <|> groupBody? number no
  | repeated body _ _ _ => groupBody? number body
  | _ => none

/-- The body of the group with a number in one of some expressions. -/
def groupBodyAmong? (number : Nat) : List (Node Nat) → Option (Node Nat)
  | [] => none
  | first :: rest => groupBody? number first <|> groupBodyAmong? number rest

end

/-- The first group that an expression calls and does not have. -/
def missingGroup? (node : Node Nat) : Option Nat :=
  node.calls.find? fun number => number ≠ 0 && (node.groupBody? number).isNone

end Node

end FeedFilter.Regex
