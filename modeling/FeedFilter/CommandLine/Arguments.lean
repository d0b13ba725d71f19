/-
**The words of a command line, read.**

Options may stand anywhere, up to a word `--`. The name of a long option may be cut short as long as
it stays clear which one is meant; a value may follow after `=` or as the next word. Short options
may be run together, with a value at their end.

* `CommandSyntax.recognise`: what a word may be by itself.
* `CommandSyntax.arguments`: the options and the operand of a command.
-/

import FeedFilter.CommandLine.Syntax
import FeedFilter.Unicode.Category

namespace FeedFilter

/-- A word that names an option, known or unknown, perhaps with a value; `joined` tells whether the
value follows after `=`. -/
structure OptionWord where
  option : Option OptionSyntax
  name : Text
  value : Option Text
  joined : Bool
deriving DecidableEq, Repr

/-- What a word may be by itself. -/
inductive WordRole where
  | plain
  | mark
  | option (word : OptionWord)
deriving DecidableEq, Repr

/-- A word and what it may be. -/
abbrev Piece := Text × WordRole

/-- What the words of a command give: the options with their values, the words of the operand, and
the words left over. -/
structure Arguments where
  options : List (OptionKey × Option Text) := []
  operand : Option (List Text) := none
  leftover : List Text := []
deriving DecidableEq, Repr

/-- Whether an option is there. -/
def Arguments.has (arguments : Arguments) (key : OptionKey) : Bool :=
  arguments.options.any fun option => option.1 = key

/-- The value of an option: that of its last place. -/
def Arguments.value? (arguments : Arguments) (key : OptionKey) : Option Text :=
  ((arguments.options.filter fun option => option.1 = key).getLast?.map Prod.snd).join

/-- Arguments with some more options. -/
def Arguments.withOptions (arguments : Arguments) (options : List (OptionKey × Option Text)) :
    Arguments :=
  { arguments with options := arguments.options ++ options }

/-- Arguments with some more words left over. -/
def Arguments.leaving (arguments : Arguments) (words : List Text) : Arguments :=
  { arguments with leftover := arguments.leftover ++ words }

/-- Whether a text is a decimal digit and more of these. -/
def isNumber (text : Text) : Bool :=
  !text.isEmpty && text.all fun c => Unicode.category c.toNat = "Nd"

/-- Whether a word is a negative number, perhaps with the end of a line after it. -/
def isNegativeNumber (word : Text) : Bool :=
  match word with
  | '-' :: rest =>
    let digits := if rest.getLast? = some '\n' then rest.dropLast else rest
    let whole := digits.takeWhile (· ≠ '.')
    match digits.drop whole.length with
    | [] => isNumber whole
    | _ :: fraction => (whole.isEmpty || isNumber whole) && isNumber fraction
  | _ => false

/-- The parts of a word before and after the first `=`. -/
def splitValue (word : Text) : Text × Option Text :=
  let name := word.takeWhile (· ≠ '=')
  (name, (word.drop name.length).tail?)

namespace CommandSyntax

variable (syntaxOf : CommandSyntax)

/-- The option of a name. -/
def find? (name : Text) : Option OptionSyntax :=
  syntaxOf.options.find? fun option => option.names.contains name

/-- The options that a word with two dashes may be short for. -/
def longCandidates (word : Text) : List OptionWord :=
  let (start, value) := splitValue word
  syntaxOf.options.flatMap fun option =>
    (option.names.filter fun name => name.startsWith start).map fun name =>
      ⟨some option, name, value, value.isSome⟩

/-- The options that a word with one dash may begin with. -/
def shortCandidates (word : Text) : List OptionWord :=
  let name := word.take 2
  (syntaxOf.find? name).toList.map fun option => ⟨some option, name, some (word.drop 2), false⟩

/-- The options that a word may mean without naming them. -/
def candidates (word : Text) : List OptionWord :=
  match word with
  | '-' :: '-' :: _ => syntaxOf.longCandidates word
  | _ => syntaxOf.shortCandidates word

/-- What a word is that begins with a dash and names no option. -/
def recogniseInexact (word : Text) : Except UsageError WordRole :=
  match syntaxOf.candidates word with
  | [candidate] => .ok (.option candidate)
  | [] =>
    if isNegativeNumber word || word.contains ' ' then .ok .plain
    else .ok (.option ⟨none, word, none, false⟩)
  | several => .error (.ambiguous word (several.map OptionWord.name))

/-- What a word may be by itself. -/
def recognise (word : Text) : Except UsageError WordRole :=
  let (name, value) := splitValue word
  match word, syntaxOf.find? word, syntaxOf.find? name with
  | '-' :: _, some option, _ => .ok (.option ⟨some option, word, none, false⟩)
  | ['-'], none, _ => .ok .plain
  | '-' :: _, none, some option => .ok (.option ⟨some option, name, value, true⟩)
  | '-' :: _, none, none => syntaxOf.recogniseInexact word
  | _, _, _ => .ok .plain

/-- What the words may be; after the mark all are plain. -/
def pieces : List Text → Except UsageError (List Piece)
  | [] => .ok []
  | word :: rest =>
    if word = ['-', '-'] then .ok ((word, .mark) :: rest.map fun other => (other, .plain))
    else do
      let role ← syntaxOf.recognise word
      return (word, role) :: (← pieces rest)

/-- What an option takes: the options that are given with it, a word that is left over, and the
pieces behind it. -/
structure Taken where
  options : List (OptionKey × Option Text)
  leftover : List Text
  rest : List Piece

/-- An option whose value, if it has one, is the next word. -/
def takePlain (option : OptionSyntax) (rest : List Piece) : Except UsageError Taken :=
  if !option.takesValue then .ok ⟨[(option.key, none)], [], rest⟩
  else
    match rest with
    | (word, .plain) :: rest => .ok ⟨[(option.key, some word)], [], rest⟩
    | _ => .error (.valueMissing option)

/-- Puts an option in front of what is taken. -/
def Taken.after (option : OptionSyntax) (taken : Taken) : Taken :=
  { taken with options := (option.key, none) :: taken.options }

/-- An option with something attached to it: its value, or more short options. -/
def takeAttached (option : OptionSyntax) (short joined : Bool) (rest : List Piece) :
    Text → Except UsageError Taken
  | [] =>
    if option.takesValue then .ok ⟨[(option.key, some [])], [], rest⟩
    else .error (.valueIgnored option [])
  | c :: more =>
    if option.takesValue then .ok ⟨[(option.key, some (c :: more))], [], rest⟩
    else if !short || joined || c = '-' then .error (.valueIgnored option (c :: more))
    else
      match syntaxOf.find? ['-', c], more with
      | none, _ => .ok ⟨[(option.key, none)], ['-' :: c :: more], rest⟩
      | some next, [] => (takePlain next rest).map (Taken.after option)
      | some next, '=' :: value => (takeAttached next true true rest value).map (Taken.after option)
      | some next, more => (takeAttached next true false rest more).map (Taken.after option)

/-- What an option takes. -/
def takeOption (word : Text) (role : OptionWord) (rest : List Piece) : Except UsageError Taken :=
  match role.option, role.value with
  | none, _ => .ok ⟨[], [word], rest⟩
  | some option, none => takePlain option rest
  | some option, some value =>
    let short := role.name.take 2 ≠ ['-', '-']
    takeAttached syntaxOf option short role.joined rest value

/-- The words that an operand takes, and the pieces behind it. A mark next to a value belongs to it.
-/
def takeOperand (operand : Operand) (pieces : List Piece) : Option (List Text × List Piece) :=
  match operand, pieces with
  | .value _, (_, .mark) :: (word, .plain) :: rest => some ([word], rest)
  | .value _, (word, .plain) :: (_, .mark) :: rest => some ([word], rest)
  | .value _, (word, .plain) :: rest => some ([word], rest)
  | .command _, (_, .mark) :: (word, .plain) :: rest =>
    some (['-', '-'] :: word :: rest.map Prod.fst, [])
  | .command _, (word, .plain) :: rest => some (word :: rest.map Prod.fst, [])
  | _, _ => none

/-- Reads the pieces of a command; a request for help ends the reading. `fuel` is the number of
pieces at least. -/
def read : Nat → Arguments → List Piece → Except UsageError Arguments
  | 0, arguments, _ => .ok arguments
  | _, arguments, [] => .ok arguments
  | fuel + 1, arguments, (word, .option role) :: rest => do
    let taken ← takeOption syntaxOf word role rest
    let next := (arguments.withOptions taken.options).leaving taken.leftover
    if next.has .help then return next else read fuel next taken.rest
  | fuel + 1, arguments, piece :: rest =>
    let operand :=
      if arguments.operand.isSome then none
      else syntaxOf.operand.bind fun operand => takeOperand operand (piece :: rest)
    match operand with
    | some (words, rest) => read fuel { arguments with operand := some words } rest
    | none => read fuel (arguments.leaving [piece.1]) rest

/-- The arguments of a command. A request for help makes up for what is missing. -/
def arguments (words : List Text) : Except UsageError Arguments := do
  let pieces ← pieces syntaxOf words
  let arguments ← read syntaxOf pieces.length {} pieces
  match syntaxOf.operand, arguments.operand with
  | some (.value name), none =>
    if arguments.has .help then return arguments else throw (.operandMissing name)
  | _, _ => return arguments

end CommandSyntax

end FeedFilter
