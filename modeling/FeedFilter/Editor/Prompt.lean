/-
**What the editor asks before edits are lost.**

* `Prompt`: a question about unsaved settings; `Prompt.choices` are the answers it offers, besides
  leaving things as they are.
* `describeSave`, `describeReload`: the wording of the questions.
-/

import FeedFilter.Document
import FeedFilter.Settings

namespace FeedFilter

/-- The wording of the question whether to save before something that loses edits. It tells how many
lines will be ignored. -/
def describeSave (settings : Option Settings) (target action : Text) :
    Except Regex.Breakdown String := do
  let question := "Save settings to " ++ target.toString ++ " before " ++ action.toString ++ "?"
  match settings with
  | none => return question
  | some settings =>
    let ignored := (← Document.invalidLines settings.filterPatterns).length
    if ignored = 0 then return question
    else return question ++ "\n" ++ toString ignored ++ " pattern line(s) will be ignored."

/-- The wording of the question whether to load the settings again. -/
def describeReload (target : Text) : String :=
  "Unsaved changes will be lost; settings are re-read from " ++ target.toString ++ "."

/-- An answer to a question. -/
inductive Answer where
  | save
  | discard
  | reload
  | cancel
deriving DecidableEq, Repr

/-- The name of an answer. -/
def Answer.name : Answer → String
  | save => "save"
  | discard => "discard"
  | reload => "reload"
  | cancel => "cancel"

/-- The answer of a name; what is no answer leaves things as they are. -/
def Answer.ofName (name : Text) : Answer :=
  ([save, discard, reload].find? fun answer => answer.name.toList = name).getD cancel

/-- How the button of an answer looks. -/
inductive Emphasis where
  | plain
  | success
  | warning
  | error
deriving DecidableEq, Repr

/-- An offered answer with its label. -/
structure Choice where
  label : String
  answer : Answer
  emphasis : Emphasis
deriving DecidableEq, Repr

/-- What a question is about. -/
inductive PromptKind where
  | leave
  | reload
deriving DecidableEq, Repr

/-- A question with its wording. -/
structure Prompt where
  kind : PromptKind
  body : String
deriving DecidableEq, Repr

namespace PromptKind

/-- The title of a question. -/
def title : PromptKind → String
  | leave => "Unsaved changes"
  | reload => "Reload settings?"

/-- The answers that a question offers. -/
def choices : PromptKind → List Choice
  | leave => [⟨"Save", .save, .success⟩, ⟨"Discard", .discard, .error⟩]
  | reload => [⟨"Save", .save, .plain⟩, ⟨"Reload", .reload, .warning⟩]

end PromptKind

end FeedFilter
