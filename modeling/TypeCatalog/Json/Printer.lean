import TypeCatalog.Json.Value
import TypeCatalog.Number.Numeral
import TypeCatalog.Text.Digit
import TypeCatalog.Text.Integer

/-!
# Written JSON

A value is written in ASCII: on one line, or with one field or item to a line
and the fields ordered by their names.
-/

namespace TypeCatalog.Json

open Text

def unitEscape (n : Nat) : List Char :=
  '\\' :: 'u' :: hexDigits 4 n

/-- A code point in a text; beyond sixteen bits it is a pair of surrogates. -/
def writtenPoint (point : CodePoint) : List Char :=
  let n := point.value
  if n == 0x22 then ['\\', '"']
  else if n == 0x5c then ['\\', '\\']
  else if n == 0x0a then ['\\', 'n']
  else if n == 0x0d then ['\\', 'r']
  else if n == 0x09 then ['\\', 't']
  else if n == 0x0c then ['\\', 'f']
  else if n == 0x08 then ['\\', 'b']
  else if 0x20 ≤ n && n ≤ 0x7e then [Char.ofNat n]
  else if n < 0x10000 then unitEscape n
  else unitEscape (0xd800 + (n - 0x10000) / 0x400) ++ unitEscape (0xdc00 + (n - 0x10000) % 0x400)

def writtenText (text : CodeText) : String :=
  String.ofList ('"' :: text.flatMap writtenPoint ++ ['"'])

mutual

def isWritable : Json → Bool
  | .int value => Integer.isWritable value
  | .array items => isWritableItems items
  | .object fields => isWritableFields fields
  | .null | .bool _ | .real _ | .text _ => true

def isWritableItems : List Json → Bool
  | [] => true
  | item :: rest => isWritable item && isWritableItems rest

def isWritableFields : List (CodeText × Json) → Bool
  | [] => true
  | (_, value) :: rest => isWritable value && isWritableFields rest

end

def writtenReal (value : Real) : String :=
  value.written ⟨"Infinity", "NaN"⟩

mutual

def compact : Json → String
  | .null => "null"
  | .bool value => if value then "true" else "false"
  | .int value => Integer.numeral value
  | .real value => writtenReal value
  | .text value => writtenText value
  | .array items => "[" ++ String.intercalate ", " (compactItems items) ++ "]"
  | .object fields => "\x7b" ++ String.intercalate ", " (compactFields fields) ++ "\x7d"

def compactItems : List Json → List String
  | [] => []
  | item :: rest => compact item :: compactItems rest

def compactFields : List (CodeText × Json) → List String
  | [] => []
  | (key, value) :: rest =>
    (writtenText key ++ ": " ++ compact value) :: compactFields rest

end

def bracketed (left right : String) (depth : Nat) (lines : List String) : String :=
  let indent (n : Nat) := "\n" ++ String.ofList (List.replicate (2 * n) ' ')
  if lines.isEmpty then left ++ right
  else
    left ++ indent (depth + 1) ++ String.intercalate ("," ++ indent (depth + 1)) lines ++
      indent depth ++ right

mutual

def prettyAt (depth : Nat) : Json → String
  | .array items => bracketed "[" "]" depth (prettyItems (depth + 1) items)
  | .object fields =>
    let lines := prettyFields (depth + 1) fields
    bracketed "\x7b" "\x7d" depth
      ((lines.mergeSort fun a b => a.1.precedes b.1).map fun (key, value) =>
        writtenText key ++ ": " ++ value)
  | .null => compact .null
  | .bool value => compact (.bool value)
  | .int value => compact (.int value)
  | .real value => compact (.real value)
  | .text value => compact (.text value)

def prettyItems (depth : Nat) : List Json → List String
  | [] => []
  | item :: rest => prettyAt depth item :: prettyItems depth rest

def prettyFields (depth : Nat) : List (CodeText × Json) → List (CodeText × String)
  | [] => []
  | (key, value) :: rest => (key, prettyAt depth value) :: prettyFields depth rest

end

def pretty (json : Json) : String :=
  json.prettyAt 0

end TypeCatalog.Json
