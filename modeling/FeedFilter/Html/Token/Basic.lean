/-
**The tokens of a page.**

A page is read as tags, text and remarks. Remarks are all that stands between angle brackets and is
no tag.

* `Token`: what is read.
* `Rejection`: markup that is not read at all.
-/

import FeedFilter.Text.Quoted

namespace FeedFilter.Html

/-- What a remark is. -/
inductive RemarkKind where
  | comment
  | doctype
  | section
  | declaration
  | instruction
deriving DecidableEq, Repr

/-- A name and a value. -/
abbrev Attribute := Text × Text

/-- What a page is read as. A start tag with a slash at its end is closed by itself. -/
inductive Token where
  | start (name : Text) (attributes : List Attribute) (closed : Bool)
  | finish (name : Text)
  | text (content : Text)
  | remark (kind : RemarkKind) (content : Text)
deriving DecidableEq, Repr

/-- Why a page is not read: a marked section of an unknown kind, or one without a name. -/
inductive Rejection where
  | unknownSection (keyword : Text)
  | namelessSection (context : Text)
deriving DecidableEq, Repr

/-- The cause of a rejection. -/
def Rejection.cause : Rejection → String
  | unknownSection keyword =>
    "unknown status keyword " ++ (Text.quote keyword).toString ++ " in marked section"
  | namelessSection context => "expected name token at " ++ (Text.quote context).toString

/-- The wording of a rejection. -/
def Rejection.message (rejection : Rejection) : String :=
  "The markup you provided was rejected by the parser. Trying a different parser or a different "
    ++ "encoding may help.\n\nOriginal error(s) from parser:\n AssertionError: " ++ rejection.cause

end FeedFilter.Html
