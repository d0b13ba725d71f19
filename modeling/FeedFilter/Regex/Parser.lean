/-
**Reading an expression.**

An expression is read from left to right with a stack of open parentheses. Each step reads at least
one character: an element, a quantifier, a bar, or a parenthesis.

* `Reading`: what is known in the middle of an expression.
* `Reading.step`: one step.
* `parse`: the whole expression with the flags it sets, or the first error. A flag that holds for
  the whole expression and is found inside it starts the reading anew with the flag set.

The language has more than what is read here:

* approximate matches: their bounds are read, but only what has no differences is found, and
  anything that an escape stands for can be a difference, except for a reference;
* names of characters: none is known but those of several characters, which are no character, so
  `\N` with a name in braces is always an error of one kind or the other;
* calls of groups that are counted from where the call stands;
* properties other than categories, scripts and the ones that say yes or no, such as blocks and
  numeric values: they are unknown;
* the flags for default word boundaries, for searching backwards and for the longest, the best and
  the enhanced match: they are read and change nothing;
* the verbs `PRUNE` and `SKIP`: they match everywhere and prune nothing;
* groups of one name inside each other, and calls of a group that is written more than once: such a
  name stands for one group;
* a bound on how deep an expression nests: there is none, and no name of a property is too long to
  be put in its lowest terms.
-/

import FeedFilter.Regex.Bounds
import FeedFilter.Regex.Brackets

namespace FeedFilter.Regex

/-- What a parenthesis opens. -/
inductive Opener where
  | capture (index : Nat)
  | plain
  | sharedNumbers (start most : Nat)
  | atomic
  | look (behind positive : Bool)
  | condition (mention : Mention)
  | lookTest (behind positive : Bool)
  | lookCondition (behind positive : Bool) (test : Node Mention)
deriving Inhabited

/-- An open parenthesis, or the expression itself: its finished branches and the items of the branch
being read, both with the last first. An item that is `none` is a place where nothing can be
repeated. What is in it `fits` if there is code for all bounds. -/
structure Frame where
  opener : Opener
  outerFlags : Flags
  branches : List (Node Mention)
  items : List (Option (Node Mention))
  fits : Bool

/-- The middle of an expression. It `leavesOut` something if there was a condition without anything
to match on either branch, whose groups are counted and are not there. -/
structure Reading where
  source : Source
  flags : Flags
  wholeFlags : Flags
  groupCount : Nat
  names : List (Text × Nat)
  openGroups : List Nat
  frame : Frame
  outer : List Frame
  leavesOut : Bool

/-- Why a reading ends early. -/
inductive Stop where
  | refused (refusal : Refusal)
  | restart (flags : Flags)

/-- Goes on with a reading unless a part of the expression is refused. -/
def Stop.lift : Except Refusal Reading → Except Stop Reading
  | .ok next => .ok next
  | .error refusal => .error (.refused refusal)

@[simp]
theorem Stop.lift_ok (reading : Reading) : lift (.ok reading) = .ok reading := rfl

namespace Frame

/-- A parenthesis that has just been opened. -/
def opened (opener : Opener) (outerFlags : Flags) : Frame :=
  ⟨opener, outerFlags, [], [none], true⟩

/-- The branch being read. -/
def branch (frame : Frame) : Node Mention := .sequence (frame.items.reverse.filterMap id)

/-- All branches as one expression. -/
def body (frame : Frame) : Node Mention :=
  match frame.branches with
  | [] => frame.branch
  | branches => .alternatives (frame.branch :: branches).reverse

/-- Adds an element. -/
def add (frame : Frame) (node : Node Mention) : Frame :=
  { frame with items := some node :: frame.items }

end Frame

namespace Node

mutual

/-- Whether an expression is written without any element that could match something. -/
def isEmpty : Node Mention → Bool
  | sequence items => areEmpty items
  | alternatives branches => areEmpty branches
  | group _ body => isEmpty body
  | look _ _ body => isEmpty body
  | atomic body => isEmpty body
  | _ => false

/-- Whether all of some expressions are empty. -/
def areEmpty : List (Node Mention) → Bool
  | [] => true
  | first :: rest => isEmpty first && areEmpty rest

end

end Node

namespace Reading

/-- The beginning of an expression. -/
def start (flags : Flags) (body : Text) : Reading where
  source := ⟨body, 0⟩
  flags := flags
  wholeFlags := flags
  groupCount := 0
  names := []
  openGroups := []
  frame := .opened .plain flags
  outer := []
  leavesOut := false

/-- Whether blanks between elements do not count. -/
def spaced (reading : Reading) : Bool := reading.flags .spaced

/-- How letters compare from here on. -/
def casing (reading : Reading) : Casing :=
  if !reading.flags .ignoreCase then .exact
  else if reading.wholeFlags .ascii then .plain
  else if reading.flags .fullCase && !reading.flags .ascii then .full
  else .simple

/-- How escapes are read from here on. -/
def manner (reading : Reading) : Manner := ⟨reading.spaced, reading.flags .ascii⟩

/-- Goes on after an element. -/
def add (reading : Reading) (node : Node Mention) (source : Source) : Reading :=
  { reading with frame := reading.frame.add node, source }

/-- Goes on after something that adds no element. -/
def goOn (reading : Reading) (source : Source) : Reading := { reading with source }

/-- Goes on inside a parenthesis. -/
def enter (reading : Reading) (opener : Opener) (source : Source) : Reading :=
  { reading with
    frame := .opened opener reading.flags, outer := reading.frame :: reading.outer, source }

/-- The element for a set, one character being an element of its own. -/
def setNode (reading : Reading) : CharSet → Node Mention
  | .char code true => .char code reading.casing
  | members => .set members reading.casing

/-- Goes on inside a new group, which a name may name. -/
def enterGroup (reading : Reading) (name : Option Text) (source : Source) : Reading :=
  match name.bind fun name => reading.names.lookup name with
  | some index =>
    { reading.enter (.capture index) source with openGroups := index :: reading.openGroups }
  | none =>
    let index := reading.groupCount + 1
    { reading.enter (.capture index) source with
      groupCount := index
      openGroups := index :: reading.openGroups
      names := reading.names ++ (name.map fun name => (name, index)).toList }

/-- Whether a reference stands inside the group it refers to, which only the second version of the
language allows. -/
def isOpen (reading : Reading) (name : GroupName) : Bool :=
  !reading.flags.isSecondVersion &&
    match name.number <|> reading.names.lookup name.text with
    | some number => reading.openGroups.contains number
    | none => false

/-- The reference to a group that matches what the group has matched. -/
def backreference (reading : Reading) (name : GroupName) (position : Nat) : Node Mention :=
  .backreference ⟨name.text, name.number, position, false⟩ reading.casing

/-- Reads `<name>` for a reference. -/
def readBracketedName (reading : Reading) (source : Source) :
    Except Refusal (Node Mention × Source) :=
  match source.expect reading.spaced '<' with
  | .error refusal => .error refusal
  | .ok inner =>
    match readName reading.spaced true inner with
    | .error refusal => .error refusal
    | .ok (name, after) =>
      match after.expect reading.spaced '>' with
      | .error refusal => .error refusal
      | .ok last =>
        if reading.isOpen name then .error (.invalid ⟨.openReference, last.position⟩)
        else .ok (reading.backreference name inner.position, last)

/-- The places that a letter after a backslash stands for. -/
def anchorNamed? (reading : Reading) : Char → Option Anchor
  | 'A' => some .textStart
  | 'b' => some (.wordBoundary (reading.flags .ascii))
  | 'B' => some (.noWordBoundary (reading.flags .ascii))
  | 'G' => some .searchStart
  | 'K' => some .anywhere
  | 'm' => some (.wordStart (reading.flags .ascii))
  | 'M' => some (.wordEnd (reading.flags .ascii))
  | 'Z' => some .textEnd
  | 'z' => some .textEnd
  | _ => none

/-- A line break of one or two characters. -/
def lineBreak : Node Mention :=
  .atomic (.alternatives
    [.sequence [.char 13 .exact, .char 10 .exact],
     .set (.combined .union ([10, 11, 12, 13, 0x85, 0x2028, 0x2029].map (.char · true)) true)
       .exact])

/-- A character with the marks on it. -/
def cluster : Node Mention :=
  .atomic (.sequence
    [.any true, .repeated (.set (.property (.category ["Mn", "Mc", "Me"]) true false) .exact) 0 none
      .greedy])

/-- Reads what follows a backslash and a digit other than zero: a reference by number, or a code
point when there are three digits in base eight. -/
def readNumbered (reading : Reading) (first : Char) (source : Source) :
    Except Refusal (Node Mention × Source) :=
  let (digits, after) := source.takeUpTo reading.spaced Char.isDigit 1
  let (third, last) := after.takeUpTo reading.spaced isOctalDigit 1
  if !digits.isEmpty && !third.isEmpty && (first :: digits).all isOctalDigit then
    .ok (.char (numberOf 8 (first :: digits ++ third) % 0x200) reading.casing, last)
  else
    let name : GroupName := ⟨first :: digits, some (numberOf 10 (first :: digits))⟩
    if reading.isOpen name then .error (.invalid ⟨.openReference, after.position⟩)
    else .ok (reading.backreference name after.position, after)

/-- Reads what follows a backslash outside of brackets. -/
def readEscape (reading : Reading) (source : Source) : Except Refusal (Node Mention × Source) :=
  match source.rest with
  | [] => .error (.invalid ⟨.escapeAtEnd, source.position⟩)
  | letter :: rest =>
    let after : Source := ⟨rest, source.position + 1⟩
    if letter = 'g' then
      match reading.readBracketedName after with
      | .ok found => .ok found
      | .error (.invalid _) => .ok (.char letter.toNat reading.casing, after)
      | .error (.misfit number) => .error (.misfit number)
    else if letter = 'L' then
      match after.expect reading.spaced '<' with
      | .error refusal => .error refusal
      | .ok inner =>
        match readName reading.spaced true inner with
        | .error refusal => .error refusal
        | .ok (_, last) =>
          match last.expect reading.spaced '>' with
          | .error refusal => .error refusal
          | .ok last => .error (.invalid ⟨.unknownList, last.position⟩)
    else if letter = 'R' then .ok (lineBreak, after)
    else if letter = 'X' then .ok (cluster, after)
    else match reading.anchorNamed? letter with
      | some anchor => .ok (.anchor anchor, after)
      | none =>
        if letter.isDigit && letter ≠ '0' then reading.readNumbered letter after
        else match readCharEscape reading.manner letter after with
          | .ok (members, last) => .ok (reading.setNode members, last)
          | .error refusal => .error refusal

/-- The numbers of repetitions that can be asked for lie below it. The largest number that there is
code for stands for any number of them. -/
def repeatLimit : Nat := codeLimit - 1

/-- The numbers of repetitions that are written after an opening brace, before it is known whether
the brace is closed behind them; `none` if none are written there. -/
def readLimits (spaced : Bool) (source : Source) :
    Except Misfit (Option (Nat × Option Nat × Source)) :=
  let (first, after) := source.takeWhile spaced Char.isDigit
  match after.accept? spaced [','] with
  | some inner =>
    let (second, last) := inner.takeWhile spaced Char.isDigit
    match readCount? first, readCount? second with
    | .ok least, .ok most => .ok (some (least.getD 0, most, last))
    | .error number, _ => .error number
    | _, .error number => .error number
  | none =>
    match readCount? first with
    | .ok none => .ok none
    | .ok (some count) => .ok (some (count, some count, after))
    | .error number => .error number

/-- Reads numbers of repetitions after an opening brace; `none` if none are written there. -/
def readCounts (reading : Reading) (source : Source) :
    Except Refusal (Option (Nat × Option Nat × Source)) :=
  match readLimits reading.spaced source with
  | .error number => .error (.misfit number)
  | .ok none => .ok none
  | .ok (some (least, most, last)) =>
    match last.accept? reading.spaced ['\x7d'] with
    | none => .ok none
    | some closed =>
      if repeatLimit ≤ least || most.any (repeatLimit ≤ ·) then
        .error (.invalid ⟨.repeatTooBig, source.position⟩)
      else if most.any (· < least) then .error (.invalid ⟨.reversedRepeat, source.position⟩)
      else .ok (some (least, most, closed))

/-- The characters that do not stand for themselves where a set is expected. -/
def signs : List Char := "()|?*+\x7b^$#".toList

/-- Reads what the differences of an approximate match may be, one character or a set, and gives
whether there is code for it. There is none for a reference to a group, which no number is put in
the place of. -/
def readDifferences (reading : Reading) (source : Source) : Except Refusal (Bool × Source) :=
  match source.next reading.spaced with
  | (some '\\', inner) =>
    match reading.readEscape inner with
    | .error refusal => .error refusal
    | .ok (.backreference _ _, after) => .ok (false, after)
    | .ok (_, after) => .ok (true, after)
  | (some '[', inner) =>
    match readSet reading.flags.isSecondVersion (reading.flags .ascii) inner with
    | .error refusal => .error refusal
    | .ok (_, after) => .ok (true, after)
  | (some c, after) =>
    if signs.contains c then .error (.invalid ⟨.setExpected, source.position⟩)
    else .ok (true, after)
  | (none, _) => .error (.invalid ⟨.setExpected, source.position⟩)

/-- Reads what stands behind an opening brace if these are bounds of an approximate match, with what
may differ after a colon, and gives whether there is code for them. -/
def readApproximation (reading : Reading) (source : Source) :
    Except Refusal (Option (Bool × Source)) :=
  match readBounds reading.spaced {} boundLimit source with
  | .error refusal => .error refusal
  | .ok none => .ok none
  | .ok (some (bounds, bounded)) =>
    let described : Except Refusal (Bool × Source) :=
      match bounded.accept? reading.spaced [':'] with
      | none => .ok (true, bounded)
      | some inner => reading.readDifferences inner
    match described with
    | .error refusal => .error refusal
    | .ok (fits, after) =>
      match after.accept? reading.spaced ['\x7d'] with
      | none => .error (.invalid ⟨.approximationUnclosed, after.position⟩)
      | some last => .ok (some (fits && bounds.largest < codeLimit, last))

/-- Bounds the differences in what the last element matches. What has no differences is what it
matches without bounds. -/
def boundLast (reading : Reading) (fits : Bool) (position : Nat) (source : Source) :
    Except Refusal Reading :=
  match reading.frame.items with
  | some node :: items =>
    .ok { reading with
      frame := { reading.frame with
        items := none :: some node :: items, fits := reading.frame.fits && fits }
      source }
  | _ => .error (.invalid ⟨.nothingToBound, position⟩)

/-- The quantifier that a character begins, with what follows it. -/
def readQuantifier (reading : Reading) (c : Char) (source : Source) :
    Except Refusal (Option (Nat × Option Nat × Source)) :=
  match c with
  | '?' => .ok (some (0, some 1, source))
  | '*' => .ok (some (0, none, source))
  | '+' => .ok (some (1, none, source))
  | '\x7b' => reading.readCounts source
  | _ => .ok none

/-- Reads the sign after a quantifier that makes it lazy or possessive. -/
def readGreed (spaced : Bool) (source : Source) : Greed × Source :=
  match source.next spaced with
  | (some '?', after) => (.lazy, after)
  | (some '+', after) => (.possessive, after)
  | _ => (.greedy, source)

/-- Repeats the last element; an empty one needs no repeating. -/
def repeatLast (reading : Reading) (least : Nat) (most : Option Nat) (position : Nat)
    (source : Source) : Except Refusal Reading :=
  match reading.frame.items with
  | some node :: items =>
    let (greed, after) := readGreed reading.spaced source
    let repeated :=
      if node.isEmpty || (least = 1 && most = some 1) then node
      else .repeated node least most greed
    .ok { reading with
      frame := { reading.frame with items := none :: some repeated :: items }, source := after }
  | [_] => .error (.invalid ⟨.nothingToRepeat, position⟩)
  | _ => .error (.invalid ⟨.multipleRepeat, position⟩)

/-- Reads flags up to the first character that is none. -/
def readFlags (spaced : Bool) : Nat → Source → List Flag × Source
  | 0, source => ([], source)
  | fuel + 1, source =>
    match source.next spaced with
    | (some 'V', after) =>
      match after.next spaced with
      | (some '0', last) =>
        let (flags, rest) := readFlags spaced fuel last
        (.version0 :: flags, rest)
      | (some '1', last) =>
        let (flags, rest) := readFlags spaced fuel last
        (.version1 :: flags, rest)
      | _ => ([], source)
    | (some c, after) =>
      match Flag.ofLetter? c with
      | some flag =>
        let (flags, rest) := readFlags spaced fuel after
        (flag :: flags, rest)
      | none => ([], source)
    | (none, _) => ([], source)

/-- Goes on after flags that stand in parentheses of their own. In the first version of the language
they hold for the whole expression. -/
def setFlags (reading : Reading) (on off : Flags) (source : Source) : Except Stop Reading :=
  if reading.flags.isSecondVersion then
    .ok { reading with flags := (reading.flags.union on).diff off, source }
  else if off.isAny then .error (.refused (.invalid ⟨.flagsTurnedOff, source.position⟩))
  else if (on.diff reading.wholeFlags).isAny then .error (.restart (reading.wholeFlags.union on))
  else .ok (reading.goOn source)

/-- Reads flags after `(?`, and the colon or parenthesis that has to follow them. -/
def readFlagGroup (reading : Reading) (source : Source) : Except Stop Reading :=
  let spaced := reading.spaced
  let (onList, after) := readFlags spaced source.rest.length source
  let read : Except Error (List Flag × Source) :=
    match after.accept? spaced ['-'] with
    | none => .ok ([], after)
    | some inner =>
      let (offList, last) := readFlags spaced inner.rest.length inner
      if offList.isEmpty then .error ⟨.noFlagsToTurnOff, last.position⟩ else .ok (offList, last)
  match read with
  | .error error => .error (.refused (.invalid error))
  | .ok (offList, after) =>
    let on := Flags.ofList onList
    let off := Flags.ofList offList
    if offList.any Flag.isGlobal then
      .error (.refused (.invalid ⟨.globalFlagTurnedOff, after.position⟩))
    else if (on.inter off).isAny then .error (.refused (.invalid ⟨.flagOnAndOff, after.position⟩))
    else if onList.any fun flag => flag.isGlobal && !reading.wholeFlags flag then
      .error (.restart (reading.wholeFlags.union (Flags.ofList (onList.filter Flag.isGlobal))))
    else
      let own := Flags.ofList (onList.filter fun flag => !flag.isGlobal)
      match after.accept? spaced [':'] with
      | some inner =>
        .ok { reading.enter .plain inner with flags := (reading.flags.union own).diff off }
      | none =>
        match after.accept? spaced [')'] with
        | some last => reading.setFlags own off last
        | none => .error (.refused (.invalid ⟨.unknownExtension, after.position⟩))

/-- Goes on inside a group whose name is read first. -/
def readNamedGroup (reading : Reading) (source : Source) : Except Refusal Reading :=
  match readName reading.spaced false source with
  | .error refusal => .error refusal
  | .ok (name, after) =>
    match after.expect reading.spaced '>' with
    | .error refusal => .error refusal
    | .ok last => .ok (reading.enterGroup (some name.text) last)

/-- Reads the call of a named group. -/
def readNamedCall (reading : Reading) (position : Nat) (source : Source) : Except Refusal Reading :=
  match readName reading.spaced false source with
  | .error refusal => .error refusal
  | .ok (name, after) =>
    match after.expect reading.spaced ')' with
    | .error refusal => .error refusal
    | .ok last => .ok (reading.add (.call ⟨name.text, name.number, position, false⟩) last)

/-- Reads what follows `(?P`. -/
def readExtension (reading : Reading) (source : Source) : Except Refusal Reading :=
  match source.next reading.spaced with
  | (some '<', inner) => reading.readNamedGroup inner
  | (some '=', inner) =>
    match readName reading.spaced true inner with
    | .error refusal => .error refusal
    | .ok (name, after) =>
      match after.expect reading.spaced ')' with
      | .error refusal => .error refusal
      | .ok last =>
        if reading.isOpen name then .error (.invalid ⟨.openReference, source.position⟩)
        else .ok (reading.add (reading.backreference name source.position) last)
  | (some '>', inner) => reading.readNamedCall source.position inner
  | (some '&', inner) => reading.readNamedCall source.position inner
  | _ => .error (.invalid ⟨.unknownExtension, source.position⟩)

/-- Reads what follows `(?(`: the name of a group, or something to look for. -/
def readCondition (reading : Reading) (source : Source) : Except Refusal Reading :=
  let spaced := reading.spaced
  match source.next spaced with
  | (some '?', inner) =>
    match inner.accept? spaced ['='], inner.accept? spaced ['!'],
        inner.accept? spaced ['<', '='], inner.accept? spaced ['<', '!'] with
    | some after, _, _, _ => .ok (reading.enter (.lookTest false true) after)
    | _, some after, _, _ => .ok (reading.enter (.lookTest false false) after)
    | _, _, some after, _ => .ok (reading.enter (.lookTest true true) after)
    | _, _, _, some after => .ok (reading.enter (.lookTest true false) after)
    | _, _, _, _ => .error (.invalid ⟨.lookaroundExpected, source.position⟩)
  | _ =>
    match readName spaced true source with
    | .error refusal => .error refusal
    | .ok (name, after) =>
      match after.expect spaced ')' with
      | .error refusal => .error refusal
      | .ok last =>
        .ok (reading.enter (.condition ⟨name.text, name.number, source.position, true⟩) last)

/-- Leaves out a comment, in which a backslash protects the character after it. -/
def skipComment : Text → Nat → Source
  | [], position => ⟨[], position⟩
  | ')' :: rest, position => ⟨')' :: rest, position⟩
  | '\\' :: _ :: rest, position => skipComment rest (position + 2)
  | _ :: rest, position => skipComment rest (position + 1)

/-- Reads the call of a group by number. Digits too long for a number name no group. -/
def readNumberedCall (reading : Reading) (digits : Text) (position : Nat) (source : Source) :
    Except Refusal Reading :=
  match source.expect reading.spaced ')' with
  | .error refusal => .error refusal
  | .ok last =>
    .ok (reading.add (.call ⟨digits, (readNumeral digits).toOption, position, false⟩) last)

/-- Reads what follows `(?`. -/
def readSpecial (reading : Reading) (source : Source) : Except Stop Reading :=
  let spaced := reading.spaced
  match source.next false with
  | (some '<', inner) =>
    match inner.next spaced with
    | (some '=', after) => .ok (reading.enter (.look true true) after)
    | (some '!', after) => .ok (reading.enter (.look true false) after)
    | _ => Stop.lift (reading.readNamedGroup inner)
  | (some '=', inner) => .ok (reading.enter (.look false true) inner)
  | (some '!', inner) => .ok (reading.enter (.look false false) inner)
  | (some 'P', inner) => Stop.lift (reading.readExtension inner)
  | (some '#', inner) =>
    let after := skipComment inner.rest inner.position
    Stop.lift ((after.expect spaced ')').map reading.goOn)
  | (some '(', inner) => Stop.lift (reading.readCondition inner)
  | (some '>', inner) => .ok (reading.enter .atomic inner)
  | (some '|', inner) =>
    .ok (reading.enter (.sharedNumbers reading.groupCount reading.groupCount) inner)
  | (some 'R', inner) => Stop.lift (reading.readNumberedCall ['0'] source.position inner)
  | (some '&', inner) => Stop.lift (reading.readNamedCall source.position inner)
  | (some c, inner) =>
    if c.isDigit then
      let (digits, after) := inner.takeWhile spaced Char.isDigit
      Stop.lift (reading.readNumberedCall (c :: digits) source.position after)
    else reading.readFlagGroup source
  | (none, _) => reading.readFlagGroup source

/-- Reads what follows an opening parenthesis. -/
def readParenthesis (reading : Reading) (source : Source) : Except Stop Reading :=
  match source.next false with
  | (some '?', inner) => reading.readSpecial inner
  | (some '*', inner) =>
    let (word, after) := inner.takeWhile reading.spaced fun c => c ≠ ')' && c ≠ '>'
    if (word.take 1).any fun c => (Unicode.category c.toNat).startsWith "L" then
      if ["FAIL".toList, "F".toList].contains word then
        Stop.lift ((after.expect reading.spaced ')').map (reading.add (.anchor .nowhere)))
      else if ["PRUNE".toList, "SKIP".toList].contains word then
        Stop.lift ((after.expect reading.spaced ')').map (reading.add (.anchor .anywhere)))
      else .error (.refused (.invalid ⟨.unknownVerb, inner.position⟩))
    else .ok (reading.enterGroup none source)
  | _ => .ok (reading.enterGroup none source)

/-- Goes on in the next branch; `position` is where the bar stands. -/
def bar (reading : Reading) (position : Nat) (source : Source) : Except Refusal Reading :=
  let frame := reading.frame
  let next : Frame := { frame with branches := frame.branch :: frame.branches, items := [none] }
  match frame.opener with
  | .sharedNumbers start most =>
    .ok { reading with
      frame := { next with opener := .sharedNumbers start (max most reading.groupCount) }
      groupCount := start, source }
  | .condition _ | .lookCondition _ _ _ =>
    if frame.branches.isEmpty then .ok { reading with frame := next, source }
    else .error (.invalid ⟨.missing ')', position⟩)
  | _ => .ok { reading with frame := next, source }

/-- The two branches of a condition, of which the second may be left out. -/
def twoBranches (frame : Frame) : Node Mention × Node Mention :=
  match frame.branches with
  | [] => (frame.branch, .sequence [])
  | first :: _ => (first, frame.branch)

/-- Goes on after a closing parenthesis; `position` is where it stands. -/
def close (reading : Reading) (position : Nat) (source : Source) : Except Refusal Reading :=
  match reading.outer with
  | [] => .error (.invalid ⟨.unbalancedParenthesis, position⟩)
  | enclosing :: others =>
    let frame := reading.frame
    let outside : Frame := { enclosing with fits := enclosing.fits && frame.fits }
    let leave (node : Node Mention) : Reading :=
      { reading with
        frame := outside.add node, outer := others, flags := frame.outerFlags, source }
    match frame.opener with
    | .capture index =>
      .ok { leave (.group index frame.body) with openGroups := reading.openGroups.drop 1 }
    | .plain => .ok (leave frame.body)
    | .sharedNumbers _ most =>
      .ok { leave frame.body with groupCount := max most reading.groupCount }
    | .atomic => .ok (leave (.atomic frame.body))
    | .look behind positive => .ok (leave (.look behind positive frame.body))
    | .condition mention =>
      let (yes, no) := twoBranches frame
      if yes.isEmpty && no.isEmpty then
        .ok { leave (.sequence []) with frame := enclosing.add (.sequence []), leavesOut := true }
      else .ok (leave (.conditional mention yes no))
    | .lookTest behind positive =>
      .ok { reading with
        frame := { Frame.opened (.lookCondition behind positive frame.body) frame.outerFlags with
          fits := frame.fits }
        flags := frame.outerFlags, source }
    | .lookCondition behind positive test =>
      let (yes, no) := twoBranches frame
      .ok (leave (.lookConditional behind positive test yes no))

/-- Reads an element or a quantifier that begins with `c` at `position`. -/
def readElement (reading : Reading) (c : Char) (position : Nat) (source : Source) :
    Except Refusal Reading :=
  match c with
  | '\\' => (reading.readEscape source).map fun (node, after) => reading.add node after
  | '.' => .ok (reading.add (.any (reading.flags .dotAll)) source)
  | '^' =>
    .ok (reading.add (.anchor (if reading.flags .multiline then .lineStart else .textStart)) source)
  | '$' =>
    .ok (reading.add (.anchor (if reading.flags .multiline then .lineEnd else .lastLineEnd)) source)
  | '[' =>
    (readSet reading.flags.isSecondVersion (reading.flags .ascii) source).map
      fun (members, after) => reading.add (reading.setNode members) after
  | c =>
    match reading.readQuantifier c source with
    | .error refusal => .error refusal
    | .ok (some (least, most, after)) => reading.repeatLast least most position after
    | .ok none =>
      match if c = '\x7b' then reading.readApproximation source else .ok none with
      | .error refusal => .error refusal
      | .ok (some (fits, after)) => reading.boundLast fits position after
      | .ok none => .ok (reading.add (.char c.toNat reading.casing) source)

/-- Reads what a character begins. -/
def step (reading : Reading) (c : Char) (position : Nat) (source : Source) : Except Stop Reading :=
  match c with
  | '|' => Stop.lift (reading.bar position source)
  | ')' => Stop.lift (reading.close position source)
  | '(' => reading.readParenthesis source
  | c => Stop.lift (reading.readElement c position source)

/-- Reads to the end. Every step reads at least one character, and `fuel` bounds their number. -/
def finish : Nat → Reading → Except Stop Reading
  | 0, reading => .ok reading
  | fuel + 1, reading =>
    match reading.source.next reading.spaced with
    | (some c, after) =>
      match reading.step c reading.source.position after with
      | .ok next => finish fuel next
      | .error stop => .error stop
    | (none, _) =>
      if reading.outer.isEmpty then .ok reading
      else .error (.refused (.invalid ⟨.missing ')', reading.source.position⟩))

end Reading

/-- What is read of an expression: the expression, the flags in force at its end, its groups,
whether some of them are left out, and whether there is code for all bounds. -/
structure Parsed where
  root : Node Mention
  flags : Flags
  groups : Groups
  leavesOut : Bool
  fits : Bool

/-- Reads an expression once, with given flags. -/
def parseOnce (flags : Flags) (body : Text) : Except Stop Parsed :=
  match Reading.finish (body.length + 1) (.start flags body) with
  | .ok reading =>
    .ok ⟨reading.frame.body, reading.flags, ⟨reading.groupCount, reading.names⟩, reading.leavesOut,
      reading.frame.fits⟩
  | .error stop => .error stop

/-- Reads an expression, anew with more flags as long as it sets flags for the whole of it. -/
def parseFrom (flags : Flags) (body : Text) : Except Failure Parsed :=
  if flags .version0 && flags .version1 then .error (.breakdown (.conflict .versions))
  else match parseOnce flags.withDefaults body with
    | .ok parsed => .ok parsed
    | .error (.refused refusal) => .error refusal.failure
    | .error (.restart more) =>
      if _ : more.missing < flags.missing then parseFrom more body
      else .error (.breakdown (.conflict .versions))
termination_by flags.missing

/-- What there is no code for, if anything: the call of a group that is left out, or bounds. -/
def Parsed.misfit? (parsed : Parsed) (root : Node Nat) : Option Misfit :=
  match if parsed.leavesOut then root.missingGroup? else none with
  | some group => some (.leftOut group)
  | none => if parsed.fits then none else some .noCode

/-- Reads an expression and settles its references. -/
def parse (flags : Flags) (body : Text) : Except Failure (Node Nat × Flags) :=
  match parseFrom flags body with
  | .error failure => .error failure
  | .ok parsed =>
    if 1 < ([Flag.ascii, .localeDependent, .unicode].countP parsed.flags) then
      .error (.breakdown (.conflict .encodings))
    else match parsed.root.resolve parsed.groups with
      | .error error => .error (.invalid error)
      | .ok root =>
        match parsed.misfit? root with
        | some misfit => .error (.breakdown (.misfit misfit))
        | none => .ok (root, parsed.flags)

end FeedFilter.Regex
