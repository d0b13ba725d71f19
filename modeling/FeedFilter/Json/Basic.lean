/-
**Structured values.**

* `Json`: a value as settings files hold them. Whole numbers are kept apart from other numbers.
* `Json.isTruthy`: the values that switch something on.
* `Json.shown`: a value as messages show it.
-/

import FeedFilter.Number.Binary64
import FeedFilter.Text.Quoted

namespace FeedFilter

/-- A structured value; an object keeps the order in which its keys were first given. -/
inductive Json where
  | null
  | boolean (value : Bool)
  | whole (value : Int)
  | real (value : Number.Binary64)
  | string (value : Text)
  | list (items : List Json)
  | object (fields : List (Text × Json))
deriving Inhabited

namespace Json

/-- Puts a field into an object: in the place of the one with its key, or at the end. -/
def setField (fields : List (Text × Json)) (key : Text) (value : Json) : List (Text × Json) :=
  match fields with
  | [] => [(key, value)]
  | (other, old) :: rest =>
    if other = key then (key, value) :: rest else (other, old) :: setField rest key value

/-- The value of a field. -/
def field? (fields : List (Text × Json)) (key : String) : Option Json := fields.lookup key.toList

/-- Whether a value switches something on: all do except nothing, zero and what is empty. -/
def isTruthy : Json → Bool
  | null => false
  | boolean value => value
  | whole value => value ≠ 0
  | real value => !value.isZero
  | string value => !value.isEmpty
  | list items => !items.isEmpty
  | object fields => !fields.isEmpty

/-- The name of the kind of a value. -/
def kind : Json → String
  | null => "NoneType"
  | boolean _ => "bool"
  | whole _ => "int"
  | real _ => "float"
  | string _ => "str"
  | list _ => "list"
  | object _ => "dict"

mutual

/-- A value as messages show it. -/
def shown : Json → Text
  | null => "None".toList
  | boolean true => "True".toList
  | boolean false => "False".toList
  | whole value => (toString value).toList
  | real value => value.text.toList
  | string value => Text.quote value
  | list items => '[' :: shownItems items ++ [']']
  | object fields => '\x7b' :: shownFields fields ++ ['\x7d']

/-- Values as messages show them, one after the other. -/
def shownItems : List Json → Text
  | [] => []
  | [last] => shown last
  | first :: rest => shown first ++ ", ".toList ++ shownItems rest

/-- Fields as messages show them, one after the other. -/
def shownFields : List (Text × Json) → Text
  | [] => []
  | [(key, value)] => Text.quote key ++ ": ".toList ++ shown value
  | (key, value) :: rest =>
    Text.quote key ++ ": ".toList ++ shown value ++ ", ".toList ++ shownFields rest

end

/-- A value as text: a text as it is, any other value as messages show it. -/
def asText : Json → Text
  | string value => value
  | value => shown value

end Json

end FeedFilter
