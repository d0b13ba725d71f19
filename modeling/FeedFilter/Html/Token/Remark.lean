/-
**Remarks, read.**

Comments, marked sections, document types and processing instructions. A remark that never ends is
not read; a marked section must have a name that is known.

* `remark?`: what stands behind an angle bracket and an exclamation or question mark.
-/

import FeedFilter.Html.Token.Tag

namespace FeedFilter.Html

/-- The text before the first place where something ends, and the text behind the end. -/
def cutWhere? (ending? : Text → Option Text) : Text → Option (Text × Text)
  | [] => (ending? []).map fun after => ([], after)
  | c :: rest =>
    match ending? (c :: rest) with
    | some after => some ([], after)
    | none => (cutWhere? ending? rest).map fun (before, after) => (c :: before, after)

/-- The end of a comment. -/
def commentEnd? : Text → Option Text
  | '-' :: '-' :: rest => afterBlanksAnd '>' rest
  | _ => none

/-- The end of a conditional section. -/
def conditionEnd? : Text → Option Text
  | ']' :: rest => afterBlanksAnd '>' rest
  | _ => none

/-- The end of a marked section. -/
def sectionEnd? : Text → Option Text
  | ']' :: rest => do
    let rest ← afterBlanksAnd ']' rest
    afterBlanksAnd '>' rest
  | _ => none

/-- The names of marked sections. -/
def sectionNames : List Text :=
  ["temp".toList, "cdata".toList, "ignore".toList, "include".toList, "rcdata".toList]

/-- The names of conditional sections. -/
def conditionNames : List Text := ["if".toList, "else".toList, "endif".toList]

/-- What a section of plain characters begins with. -/
def plainSectionMark : Text := "cdata[".toList

/-- A section as a remark. -/
def sectionRemark (content : Text) : Token :=
  if Text.lower (content.take plainSectionMark.length) = plainSectionMark then
    .remark .section (content.drop plainSectionMark.length)
  else .remark .declaration content

/-- How much of the text a rejection shows. -/
def shownContext : Nat := 20

/-- A character that can stand in the name of a section. -/
def isSectionCharacter (c : Char) : Bool := c.isAlphanum || ['-', '_', '.'].contains c

/-- Reads a section, marked or conditional. -/
def section? (text : Text) : Except Rejection (Option Reading) :=
  let content := text.drop 3
  let (name, rest) := content.span isSectionCharacter
  let (blanks, rest) := rest.span Text.isBlank
  let reading (ending? : Text → Option Text) : Option Reading :=
    (cutWhere? ending? content).map fun (inside, after) => ⟨[sectionRemark inside], after, none⟩
  if content.isEmpty then .ok none
  else if !isTagLetter (name.headD ' ') then .error (.namelessSection (text.take shownContext))
  else if rest.isEmpty then .ok none
  else if sectionNames.contains (Text.lower name) then .ok (reading sectionEnd?)
  else if conditionNames.contains (Text.lower name) then .ok (reading conditionEnd?)
  else .error (.unknownSection (name ++ blanks))

/-- What a document type begins with. -/
def doctypeMark : Text := "<!doctype".toList

/-- A remark up to the next closing bracket, from a place on. -/
def upToBracket? (kind : RemarkKind) (skipped : Nat) (text : Text) : Option Reading :=
  (cutAt? '>' (text.drop skipped)).map fun (inside, after) => ⟨[.remark kind inside], after, none⟩

/-- Reads a document type; the character behind its mark is not part of it. -/
def doctype? (text : Text) : Option Reading :=
  (cutAt? '>' (text.drop doctypeMark.length)).map fun (inside, after) =>
    ⟨[.remark .doctype (inside.drop 1)], after, none⟩

/-- Reads what begins with an angle bracket and an exclamation or question mark. -/
def remark? (text : Text) : Except Rejection (Option Reading) :=
  match text with
  | '<' :: '?' :: _ => .ok (upToBracket? .instruction 2 text)
  | '<' :: '!' :: '-' :: '-' :: rest =>
    .ok ((cutWhere? commentEnd? rest).map fun (inside, after) =>
      ⟨[.remark .comment inside], after, none⟩)
  | '<' :: '!' :: '[' :: _ => section? text
  | text =>
    if Text.lower (text.take doctypeMark.length) = doctypeMark then .ok (doctype? text)
    else .ok (upToBracket? .comment 2 text)

end FeedFilter.Html
