/-
**Letters that fold to several.**

Where case is ignored in full, a letter may stand for several (`ß` for `ss`), so neighbouring
letters of an expression have to be compared together. Those that can take part in such a folding
become texts that are compared by their full foldings; all other letters are compared one by one.

* `Node.withFoldings`: the expression with these texts in it.
-/

import FeedFilter.Regex.Syntax

namespace FeedFilter.Regex

/-- The full folding of a code point, the capital `I` as a small letter too. -/
def searchFolding (code : Nat) : List Nat :=
  (Unicode.foldFull code).map fun folded => if folded = 0x49 then 0x69 else folded

/-- The positions at which a text stands inside another. -/
def occurrences (part : List Nat) : Nat → List Nat → List Nat
  | _, [] => []
  | position, c :: rest =>
    (if part.isPrefixOf (c :: rest) then [position] else []) ++ occurrences part (position + 1) rest

/-- Joins spans that overlap or touch; they come in ascending order. -/
def joinSpans : List (Nat × Nat) → List (Nat × Nat)
  | [] => []
  | (start, stop) :: rest =>
    match joinSpans rest with
    | (next, last) :: others =>
      if next ≤ stop then (start, max stop last) :: others
      else (start, stop) :: (next, last) :: others
    | [] => [(start, stop)]

/-- The spans of a text that may be what a letter folds to. -/
def foldingSpans (codes : List Nat) : List (Nat × Nat) :=
  let folded := codes.flatMap searchFolding
  let spans := (Unicode.expandingFolds.map fun (_, folding) =>
    (occurrences folding 0 folded).map fun start => (start, start + folding.length)).flatten
  joinSpans (spans.mergeSort fun first second =>
    first.1 < second.1 || (first.1 == second.1 && first.2 ≤ second.2))

/-- A piece of text that is compared as a whole. A single letter may also stand for itself. -/
def foldedPiece (codes : List Nat) : List (Node Nat) :=
  match codes with
  | [] => []
  | [code] =>
    if (Unicode.foldFull code).length = 1 then [.char code .simple]
    else [.alternatives [.char code .simple, .folded (Unicode.foldFull code)]]
  | codes => [.folded (codes.flatMap Unicode.foldFull)]

/-- The pieces of a text from a position on, given the spans that are compared as a whole. -/
def foldedPieces (codes : List Nat) : Nat → List (Nat × Nat) → List (Node Nat)
  | position, [] => (codes.drop position).map fun code => .char code .simple
  | position, (start, stop) :: rest =>
    ((codes.drop position).take (start - position)).map (fun code => .char code .simple)
      ++ foldedPiece ((codes.drop start).take (stop - start)) ++ foldedPieces codes stop rest

/-- Whether case matters for a code point when it is ignored in full. -/
def isCased (code : Nat) : Bool :=
  Unicode.hasVariants code || 1 < (Unicode.foldFull code).length

/-- A run of letters that ignore case in full. -/
def foldLetters (codes : List Nat) : List (Node Nat) :=
  if codes.any isCased then foldedPieces codes 0 (foldingSpans codes)
  else codes.map fun code => .char code .exact

/-- The foldings of the letters in a set that fold to several. -/
def setFoldings (members : CharSet) : List (Node Nat) :=
  ((Unicode.expandingFolds.filter fun (code, _) => members.holds code).map Prod.snd).eraseDups.map
    .folded

/-- A set that ignores case in full. -/
def foldSet (members : CharSet) : Node Nat :=
  let listed :=
    match members with
    | .range _ _ _ => true
    | .combined _ _ _ => true
    | _ => false
  if listed && members.isPositive && !(setFoldings members).isEmpty then
    .alternatives (.set members .simple :: setFoldings members)
  else .set members .simple

namespace Node

/-- The items of a sequence with each run of letters that ignore case in full put in order;
`letters` is the run before them, last first. -/
def foldRuns (letters : List Nat) : List (Node Nat) → List (Node Nat)
  | [] => if letters.isEmpty then [] else foldLetters letters.reverse
  | char code .full :: rest => foldRuns (code :: letters) rest
  | item :: rest =>
    (if letters.isEmpty then [] else foldLetters letters.reverse) ++ item :: foldRuns [] rest

mutual

/-- The expression with nested sequences opened and with texts for letters that fold to several. -/
def withFoldings : Node Nat → Node Nat
  | set members .full => foldSet members
  | sequence items => sequence (foldRuns [] (openedAll items))
  | alternatives branches => alternatives (withFoldingsAll branches)
  | group index body => group index (withFoldings body)
  | look behind positive body => look behind positive (withFoldings body)
  | atomic body => atomic (withFoldings body)
  | conditional number yes no => conditional number (withFoldings yes) (withFoldings no)
  | lookConditional behind positive test yes no =>
    lookConditional behind positive (withFoldings test) (withFoldings yes) (withFoldings no)
  | repeated (char code .full) least most greed =>
    repeated (sequence (foldLetters [code])) least most greed
  | repeated body least most greed => repeated (withFoldings body) least most greed
  | node => node

/-- Each of some expressions with texts for letters that fold to several. -/
def withFoldingsAll : List (Node Nat) → List (Node Nat)
  | [] => []
  | first :: rest => withFoldings first :: withFoldingsAll rest

/-- The items of a sequence, those of the sequences among them included. -/
def openedAll : List (Node Nat) → List (Node Nat)
  | [] => []
  | sequence items :: rest => openedAll items ++ openedAll rest
  | char code casing :: rest => char code casing :: openedAll rest
  | first :: rest => withFoldings first :: openedAll rest

end

mutual

/-- The expression with each group that nothing refers to as a choice without a number. -/
def keepGroups (numbers : List Nat) : Node Nat → Node Nat
  | sequence items => sequence (keepGroupsAll numbers items)
  | alternatives branches => alternatives (keepGroupsAll numbers branches)
  | group index body =>
    if numbers.contains index then group index (keepGroups numbers body)
    else alternatives [keepGroups numbers body]
  | look behind positive body => look behind positive (keepGroups numbers body)
  | atomic body => atomic (keepGroups numbers body)
  | conditional number yes no =>
    conditional number (keepGroups numbers yes) (keepGroups numbers no)
  | lookConditional behind positive test yes no =>
    lookConditional behind positive (keepGroups numbers test) (keepGroups numbers yes)
      (keepGroups numbers no)
  | repeated body least most greed => repeated (keepGroups numbers body) least most greed
  | node => node

/-- Each of some expressions with groups that nothing refers to as choices without numbers. -/
def keepGroupsAll (numbers : List Nat) : List (Node Nat) → List (Node Nat)
  | [] => []
  | first :: rest => keepGroups numbers first :: keepGroupsAll numbers rest

end

end Node

end FeedFilter.Regex
