import TypeCatalog.Number.Real
import TypeCatalog.Text.CodePoint

/-!
# JSON values

Numbers are integers or binary numbers of double precision; the fields of an
object keep their order.
-/

namespace TypeCatalog

open Text (CodeText)

inductive Json where
  | null
  | bool (value : Bool)
  | int (value : Int)
  | real (value : Real)
  | text (value : CodeText)
  | array (items : List Json)
  | object (fields : List (CodeText × Json))
  deriving Repr, Inhabited

namespace Json

def str (text : String) : Json :=
  .text (.ofString text)

def texts (texts : List CodeText) : Json :=
  .array (texts.map text)

def ofOption {α : Type} (encode : α → Json) : Option α → Json
  | some value => encode value
  | none => .null

/-- The value of a field; the last one counts if there are several. -/
def get? (json : Json) (key : CodeText) : Option Json :=
  match json with
  | object fields => (fields.reverse.find? (·.1 == key)).map (·.2)
  | _ => none

def field? (json : Json) (key : CodeText) : Option Json :=
  match json.get? key with
  | some .null => none
  | other => other

def items (json : Json) : List Json :=
  match json with
  | array items => items
  | _ => []

def fields (json : Json) : List (CodeText × Json) :=
  match json with
  | object fields => fields
  | _ => []

def text? : Json → Option CodeText
  | text value => some value
  | _ => none

def int? : Json → Option Int
  | int value => some value
  | _ => none

def bool? : Json → Option Bool
  | bool value => some value
  | _ => none

def string? : Json → Option String
  | text value => some value.toString
  | _ => none

/-- Sets a field, in its place if it is there and at the end otherwise. -/
def set (json : Json) (key : CodeText) (value : Json) : Json :=
  match json with
  | object fields =>
    if fields.any (·.1 == key) then
      object (fields.map fun field => if field.1 == key then (key, value) else field)
    else object (fields ++ [(key, value)])
  | other => other

def setDefault (json : Json) (key : CodeText) (value : Json) : Json :=
  match json.get? key with
  | some _ => json
  | none => json.set key value

end Json

end TypeCatalog
