import Stringify.Decimal.Integer
import Stringify.Decimal.Layout
import Stringify.Entries
import Stringify.Text.Quoted

/-!
# Documents

A document is a JSON value. Integers and reals are kept apart, texts may hold surrogates, and
objects remember the order of their fields.
-/

namespace Stringify

/-- A document without parts, other than a text. -/
inductive Scalar where
  | null
  | bool (value : Bool)
  | int (value : Int)
  | real (value : Decimal.Binary64)
  deriving DecidableEq, Repr

/-- A JSON document. -/
inductive Json where
  | scalar (value : Scalar)
  | text (value : Text)
  | list (items : List Json)
  | object (fields : List (Text × Json))

namespace Scalar

/-- How a message shows the value. -/
def display : Scalar → String
  | .null => "None"
  | .bool true => "True"
  | .bool false => "False"
  | .int value => String.ofList (Decimal.integerChars value)
  | .real value => value.realText

/-- The name of the value's kind. -/
def kind : Scalar → String
  | .null => "NoneType"
  | .bool _ => "bool"
  | .int _ => "int"
  | .real _ => "float"

end Scalar

namespace Json

/-- The null document. -/
def null : Json := .scalar .null

mutual

/-- How a message shows the document. -/
def display : Json → String
  | .scalar value => value.display
  | .text value => value.quoted
  | .list items => "[" ++ ", ".intercalate (displayItems items) ++ "]"
  | .object fields => "\x7b" ++ ", ".intercalate (displayFields fields) ++ "\x7d"

/-- How a message shows the items of a list. -/
def displayItems : List Json → List String
  | [] => []
  | item :: rest => display item :: displayItems rest

/-- How a message shows the fields of an object. -/
def displayFields : List (Text × Json) → List String
  | [] => []
  | (name, value) :: rest => (name.quoted ++ ": " ++ display value) :: displayFields rest

end

/-- The field of an object; absent in every other document. -/
def field? (document : Json) (name : String) : Option Json :=
  match document with
  | .object fields => Entries.get? fields (Text.ofString name)
  | _ => none

end Json

end Stringify
