/-
**Matching an expression against a text.**

A match is followed through a text from a cursor, forwards, or backwards where something before the
cursor is looked for. `Node.run` gives all cursors that an expression can lead to, in the order in
which backtracking would reach them and each only once, so that keeping the first is what an atomic
group does.

* `Node.run`: the cursors an expression leads to.
* `Node.finds`: whether an expression matches somewhere in a text.
-/

import FeedFilter.Regex.Syntax
import Std.Data.HashMap

namespace FeedFilter.Regex

/-- What a group has matched: where that begins, how long it is, and the text from there on. -/
structure Capture where
  group : Nat
  start : Nat
  length : Nat
  onwards : Text
deriving Repr

namespace Capture

/-- The text that a group has matched. -/
def text (capture : Capture) : Text := capture.onwards.take capture.length

/-- Whether two captures in one text agree. -/
def agrees (first second : Capture) : Bool :=
  first.group == second.group && first.start == second.start && first.length == second.length

end Capture

/-- A place in a text, and what groups have matched on the way to it. -/
structure Cursor where
  index : Nat
  before : Text
  after : Text
  captures : List Capture
deriving Repr

/-- Which way a match runs. -/
inductive Direction where
  | forward
  | backward
deriving DecidableEq, Repr

namespace Cursor

/-- Whether two cursors of one text agree. -/
def agrees (first second : Cursor) : Bool :=
  first.index == second.index && first.captures.length == second.captures.length
    && (first.captures.zip second.captures).all fun (one, other) => one.agrees other

/-- The next character on the way, and the place behind it. -/
def step? (cursor : Cursor) : Direction → Option (Char × Cursor)
  | .forward =>
    match cursor.after with
    | [] => none
    | c :: rest =>
      some (c, { cursor with
        index := cursor.index + 1, before := c :: cursor.before, after := rest })
  | .backward =>
    match cursor.before with
    | [] => none
    | c :: rest =>
      some (c, { cursor with
        index := cursor.index - 1, before := rest, after := c :: cursor.after })

/-- Remembers that a group has matched what is between two places. -/
def remember (group : Nat) (start cursor : Cursor) : Cursor :=
  let capture : Capture :=
    if start.index ≤ cursor.index then
      ⟨group, start.index, cursor.index - start.index, start.after⟩
    else ⟨group, cursor.index, start.index - cursor.index, cursor.after⟩
  { cursor with captures := capture :: cursor.captures.filter (·.group != group) }

/-- The last match of a group. -/
def capture? (cursor : Cursor) (group : Nat) : Option Capture :=
  cursor.captures.find? (·.group == group)

/-- How many characters are left on the way. -/
def remaining (cursor : Cursor) : Direction → Nat
  | .forward => cursor.after.length
  | .backward => cursor.before.length

theorem remaining_step {cursor next : Cursor} {direction : Direction} {c : Char}
    (stepped : cursor.step? direction = some (c, next)) :
    next.remaining direction < cursor.remaining direction := by
  cases direction <;> simp only [step?] at stepped <;> split at stepped <;>
    simp_all [remaining] <;> obtain ⟨_, rfl⟩ := stepped <;> simp

/-- The places behind one, two and more characters of a kind, as many as there are up to a limit. -/
def strides (accepts : Char → Bool) (direction : Direction) (limit : Option Nat) (cursor : Cursor) :
    List Cursor :=
  if limit = some 0 then []
  else
    match stepped : cursor.step? direction with
    | some (c, next) =>
      if accepts c then next :: strides accepts direction (limit.map (· - 1)) next else []
    | none => []
termination_by cursor.remaining direction
decreasing_by exact remaining_step stepped

end Cursor

/-- Cursors with labels, put down by their places. -/
abbrev CursorTable := Std.HashMap Nat (List (Nat × Cursor))

namespace CursorTable

/-- Whether a cursor is in a table under a label. -/
def holds (table : CursorTable) (label : Nat) (cursor : Cursor) : Bool :=
  (table.getD cursor.index []).any fun entry => entry.1 == label && entry.2.agrees cursor

/-- Puts a cursor into a table under a label. -/
def put (table : CursorTable) (label : Nat) (cursor : Cursor) : CursorTable :=
  table.insert cursor.index ((label, cursor) :: table.getD cursor.index [])

end CursorTable

/-- The cursors of a list that are not in a table, each once, at its first place. -/
def distinctFrom : CursorTable → List Cursor → List Cursor
  | _, [] => []
  | table, cursor :: rest =>
    if table.holds 0 cursor then distinctFrom table rest
    else cursor :: distinctFrom (table.put 0 cursor) rest

/-- Each cursor of a list once, at its first place. -/
def distinct : List Cursor → List Cursor
  | [] => []
  | [only] => [only]
  | cursors => distinctFrom ∅ cursors

/-- Whether a code point of an expression stands for one of a text. -/
def Casing.same (casing : Casing) (expected code : Nat) : Bool :=
  match casing with
  | .exact => expected == code
  | .plain =>
    expected == code ||
      (expected < 0x80 && code < 0x80 &&
        (Char.ofNat expected).toLower == (Char.ofNat code).toLower)
  | _ => Unicode.alike expected code

/-- Whether a set holds a code point of a text. -/
def Casing.member (casing : Casing) (set : CharSet) (code : Nat) : Bool :=
  match casing with
  | .exact => set.holds code
  | .plain =>
    set.holdsAlike (if code < 0x80 then (Unicode.variants code).filter (· < 0x80) else [code]) code
  | _ => set.holdsAlike (Unicode.variants code) code

/-- Whether a code point counts as part of a word. -/
def isWordPart (plainOnly : Bool) (code : Nat) : Bool :=
  (!plainOnly || code < 0x80) && Property.isWord code

namespace Anchor

/-- Whether the character that comes first in a text is part of a word. -/
def wordFirst (plainOnly : Bool) : Text → Bool
  | [] => false
  | c :: _ => isWordPart plainOnly c.toNat

/-- Whether a place is of a kind. -/
def holds (anchor : Anchor) (cursor : Cursor) : Bool :=
  match anchor with
  | textStart => cursor.before.isEmpty
  | lineStart => cursor.before.isEmpty || cursor.before.head? == some '\n'
  | textEnd => cursor.after.isEmpty
  | lineEnd => cursor.after.isEmpty || cursor.after.head? == some '\n'
  | lastLineEnd => cursor.after.isEmpty || cursor.after == ['\n']
  | searchStart => cursor.index == 0
  | wordBoundary plainOnly => wordFirst plainOnly cursor.before != wordFirst plainOnly cursor.after
  | noWordBoundary plainOnly =>
    wordFirst plainOnly cursor.before == wordFirst plainOnly cursor.after
  | wordStart plainOnly => !wordFirst plainOnly cursor.before && wordFirst plainOnly cursor.after
  | wordEnd plainOnly => wordFirst plainOnly cursor.before && !wordFirst plainOnly cursor.after
  | anywhere => true
  | nowhere => false

end Anchor

/-- Follows a text that is given by code points. -/
def runText (casing : Casing) (direction : Direction) : List Nat → Cursor → Option Cursor
  | [], cursor => some cursor
  | code :: rest, cursor =>
    match cursor.step? direction with
    | some (c, next) =>
      if casing.same code c.toNat then runText casing direction rest next else none
    | none => none

/-- Takes what one character folds to off the front of what is expected. -/
def takeFolding : List Nat → List Nat → Option (List Nat)
  | expected, [] => some expected
  | expected :: rest, code :: more =>
    if Unicode.alike expected code then takeFolding rest more else none
  | [], _ :: _ => none

/-- Follows a text that is given by its full case folding; `fuel` bounds the characters read. -/
def runFolded (direction : Direction) : Nat → List Nat → Cursor → Option Cursor
  | _, [], cursor => some cursor
  | 0, _ :: _, _ => none
  | fuel + 1, expected, cursor =>
    match cursor.step? direction with
    | some (c, next) =>
      let folding := Unicode.foldFull c.toNat
      let folding := match direction with
        | .forward => folding
        | .backward => folding.reverse
      match takeFolding expected folding with
      | some rest => runFolded direction fuel rest next
      | none => none
    | none => none

/-- The walk of a repeat: the places it has been at, with the numbers of repetitions there, and the
cursors it leads to, last first. -/
structure Walk where
  seen : CursorTable
  reached : List Cursor

namespace Walk

/-- Adds a cursor. -/
def reach (walk : Walk) (cursor : Cursor) : Walk := { walk with reached := cursor :: walk.reached }

/-- Whether a place has been visited after as many repetitions. -/
def visited (walk : Walk) (count : Nat) (cursor : Cursor) : Bool := walk.seen.holds count cursor

/-- Marks a place as visited. -/
def visit (walk : Walk) (count : Nat) (cursor : Cursor) : Walk :=
  { walk with seen := walk.seen.put count cursor }

end Walk

/-- Repeats an expression from a cursor at which it has matched `count` times. A repetition that
does not move ends the repeating. Every other one reads a character, and `fuel` bounds them. -/
def walkRepeat (body : Cursor → List Cursor) (least : Nat) (most : Option Nat) (shortFirst : Bool) :
    Nat → Nat → Cursor → Walk → Walk
  | 0, _, _, walk => walk
  | fuel + 1, count, cursor, walk =>
    let key := if most.isNone then min count least else count
    if walk.visited key cursor then walk
    else
      let enough := least ≤ count
      let walk := walk.visit key cursor
      let walk := if enough && shortFirst then walk.reach cursor else walk
      let walk :=
        if most.all (count < ·) then
          (body cursor).foldl
            (fun walk next =>
              if next.index = cursor.index then walk.reach next
              else walkRepeat body least most shortFirst fuel (count + 1) next walk)
            walk
        else walk
      if enough && !shortFirst then walk.reach cursor else walk

/-- Cursors in the order in which a repeat tries them, given the shortest first. -/
def Greed.order (greed : Greed) (shortFirst : List Cursor) : List Cursor :=
  match greed with
  | .lazy => shortFirst
  | .greedy => shortFirst.reverse
  | .possessive => shortFirst.reverse.take 1

/-- The cursors that a repeat of characters of a kind leads to. -/
def repeatCharacter (accepts : Char → Bool) (direction : Direction) (least : Nat)
    (most : Option Nat) (greed : Greed) (cursor : Cursor) : List Cursor :=
  greed.order ((cursor :: cursor.strides accepts direction most).drop least)

/-- The cursors that a repeat leads to. -/
def runRepeat (body : Cursor → List Cursor) (least : Nat) (most : Option Nat) (greed : Greed)
    (cursor : Cursor) : List Cursor :=
  let length := cursor.before.length + cursor.after.length
  let walk := walkRepeat body least most (greed == .lazy) (length + 1) 0 cursor ⟨∅, []⟩
  let reached := distinct walk.reached.reverse
  if greed == .possessive then reached.take 1 else reached

/-- The kind of character that an expression stands for, if it stands for a single one. -/
def Node.character? : Node Nat → Option (Char → Bool)
  | char code casing => some fun c => casing.same code c.toNat
  | set members casing => some fun c => casing.member members c.toNat
  | any breaksToo => some fun c => breaksToo || c ≠ '\n'
  | _ => none

namespace Node

mutual

/-- The cursors that an expression leads to; `enter` follows the group with a number. -/
def run (enter : Nat → Direction → Cursor → List Cursor) :
    Node Nat → Direction → Cursor → List Cursor
  | char code casing, direction, cursor =>
    match cursor.step? direction with
    | some (c, next) => if casing.same code c.toNat then [next] else []
    | none => []
  | folded codes, direction, cursor =>
    let codes := match direction with
      | .forward => codes
      | .backward => codes.reverse
    (runFolded direction codes.length codes cursor).toList
  | set members casing, direction, cursor =>
    match cursor.step? direction with
    | some (c, next) => if casing.member members c.toNat then [next] else []
    | none => []
  | any breaksToo, direction, cursor =>
    match cursor.step? direction with
    | some (c, next) => if breaksToo || c ≠ '\n' then [next] else []
    | none => []
  | anchor place, _, cursor => if place.holds cursor then [cursor] else []
  | sequence items, .forward, cursor => runForward enter items [cursor]
  | sequence items, .backward, cursor => runBackward enter items [cursor]
  | alternatives branches, direction, cursor =>
    distinct (runAny enter branches direction cursor)
  | group index body, direction, cursor =>
    (run enter body direction cursor).map (Cursor.remember index cursor)
  | backreference number casing, direction, cursor =>
    match cursor.capture? number with
    | none => []
    | some capture =>
      let text := capture.text
      let codes := match direction with
        | .forward => text.map Char.toNat
        | .backward => (text.map Char.toNat).reverse
      match casing with
      | .full =>
        let codes := codes.flatMap Unicode.foldFull
        (runFolded direction codes.length codes cursor).toList
      | casing => (runText casing direction codes cursor).toList
  | call number, direction, cursor => enter number direction cursor
  | look behind positive body, _, cursor =>
    match (run enter body (if behind then .backward else .forward) cursor).head? with
    | some found => if positive then [{ cursor with captures := found.captures }] else []
    | none => if positive then [] else [cursor]
  | atomic body, direction, cursor => (run enter body direction cursor).take 1
  | conditional number yes no, direction, cursor =>
    if (cursor.capture? number).isSome then run enter yes direction cursor
    else run enter no direction cursor
  | lookConditional behind positive test yes no, direction, cursor =>
    match (run enter test (if behind then .backward else .forward) cursor).head? with
    | some found =>
      if positive then run enter yes direction { cursor with captures := found.captures }
      else run enter no direction cursor
    | none => if positive then run enter no direction cursor else run enter yes direction cursor
  | repeated body least most greed, direction, cursor =>
    match body.character? with
    | some accepts => repeatCharacter accepts direction least most greed cursor
    | none => runRepeat (run enter body direction) least most greed cursor

/-- The cursors that expressions lead to one after the other. -/
def runForward (enter : Nat → Direction → Cursor → List Cursor) :
    List (Node Nat) → List Cursor → List Cursor
  | [], cursors => cursors
  | first :: rest, cursors =>
    match cursors with
    | [] => []
    | cursors => runForward enter rest (distinct (cursors.flatMap (run enter first .forward)))

/-- The cursors that expressions lead to backwards, the last one first. -/
def runBackward (enter : Nat → Direction → Cursor → List Cursor) :
    List (Node Nat) → List Cursor → List Cursor
  | [], cursors => cursors
  | first :: rest, cursors =>
    distinct ((runBackward enter rest cursors).flatMap (run enter first .backward))

/-- The cursors that one of some expressions leads to. -/
def runAny (enter : Nat → Direction → Cursor → List Cursor) :
    List (Node Nat) → Direction → Cursor → List Cursor
  | [], _, _ => []
  | first :: rest, direction, cursor =>
    run enter first direction cursor ++ runAny enter rest direction cursor

end

/-- Follows the group with a number, at most `fuel` calls deep. -/
def runCall (root : Node Nat) : Nat → Nat → Direction → Cursor → List Cursor
  | 0, _, _, _ => []
  | fuel + 1, number, direction, cursor =>
    match if number = 0 then some root else root.groupBody? number with
    | some body => run (runCall root fuel) body direction cursor
    | none => []

/-- Whether an expression leads anywhere from a place of a text or from a later one. -/
def findsFrom (root : Node Nat) (callDepth : Nat) : Text → Text → Nat → Bool
  | before, after, index =>
    !(run (runCall root callDepth) root .forward ⟨index, before, after, []⟩).isEmpty ||
      match after with
      | [] => false
      | c :: rest => findsFrom root callDepth (c :: before) rest (index + 1)
termination_by _ after => after.length

/-- Whether an expression matches somewhere in a text. -/
def finds (root : Node Nat) (text : Text) : Bool := findsFrom root (text.length + 2) [] text 0

end Node

end FeedFilter.Regex
