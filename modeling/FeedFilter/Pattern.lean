/-
**Patterns: trees of rules.**

* `Pattern.evaluate`: the verdict of a pattern on an entry. Of a block, the first child with a
  decisive verdict has the say, and nothing is read after it.
* `foldQuotes`: curly quotes of a text become straight ones before anything looks at it.
-/

import FeedFilter.Directive
import FeedFilter.Entry
import FeedFilter.Verdict

namespace FeedFilter

/-- What a rule looks at. -/
inductive Subject where
  | text
  | reactor
deriving DecidableEq, Repr

/-- A tree of rules. A node that is no rule is known by a label. -/
inductive Pattern where
  | rule (subject : Subject) (matcher : Matcher)
  | keep (inner : Pattern)
  | block (children : List Pattern)
  | unknown (label : Text)
deriving Inhabited

/-- The pattern of a directive. -/
def Directive.pattern (directive : Directive) : Pattern :=
  let rule := Pattern.rule (if directive.byReactor then .reactor else .text) directive.matcher
  if directive.keeps then .keep rule else rule

/-- The straight form of a curly quote. -/
def straightQuote : Char → Char
  | '\u2018' => '\''
  | '\u2019' => '\''
  | '\u201c' => '"'
  | '\u201d' => '"'
  | c => c

/-- Makes curly quotes straight. -/
def foldQuotes (text : Text) : Text := text.map straightQuote

namespace Pattern

/-- The reason a rule gives. -/
def reason (subject : Subject) (matcher : Matcher) : String :=
  match subject with
  | .text => "Matches pattern: " ++ matcher.source.toString
  | .reactor => "Reacted by user: " ++ matcher.source.toString

/-- The text that a rule looks at; a post may have no reactor. -/
def look (entry : Entry) : Subject → Inspection (Option Text)
  | .text => do
    let text ← Inspection.read .text entry.text
    return some (foldQuotes text)
  | .reactor => Inspection.read .reactor entry.reactor

/-- The verdict of a single rule. -/
def judge (subject : Subject) (matcher : Matcher) (seen : Option Text) : Verdict :=
  if seen.any matcher.regex.isFoundIn then .hit (some (reason subject matcher)) else .undecided

mutual

/-- The verdict of a pattern. -/
def evaluate (entry : Entry) : Pattern → Inspection Verdict
  | rule subject matcher => do
    let seen ← look entry subject
    return judge subject matcher seen
  | keep inner => do
    let verdict ← evaluate entry inner
    return verdict.negate
  | block children => evaluateFirst entry children
  | unknown label => .fail (.unknownPattern label)

/-- The first decisive verdict of some patterns. -/
def evaluateFirst (entry : Entry) : List Pattern → Inspection Verdict
  | [] => return .undecided
  | child :: rest => do
    let verdict ← evaluate entry child
    if verdict.isDecisive then return verdict else evaluateFirst entry rest

end

end Pattern

end FeedFilter
