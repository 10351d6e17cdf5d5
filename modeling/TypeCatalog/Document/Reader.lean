import TypeCatalog.Document.LineWriter
import TypeCatalog.Yaml.Value

/-!
# Reading documents back

A block of a document has a tag, so it reads as a record with a kind.  An
empty document is an empty record.
-/

namespace TypeCatalog.Document

open Text (CodeText)
open Yaml (Loaded)

inductive LoadFault where
  | text (fault : Yaml.Fault)
  | unexpectedType (typeName : String)
  deriving DecidableEq, Repr

def LoadFault.message : LoadFault → String
  | text (.noValue fault) => fault.message
  | text _ => ""
  | unexpectedType typeName => "Unexpected document type: " ++ typeName

def recordOf (loaded : Loaded) : Except LoadFault Loaded :=
  match loaded.root, loaded.objectOf? loaded.root with
  | .scalar .null, _ => .ok { root := .object 0, objects := #[.mapping none []] }
  | _, some (.mapping _ _) => .ok loaded
  | root, _ => .error (.unexpectedType (loaded.typeName root))

/-- Reads a document.  Surrogates are no characters of a text. -/
def load (text : CodeText) : Except LoadFault Loaded :=
  match text.chars? with
  | none => .error (.text (.malformed .unprintable))
  | some chars =>
    match Yaml.load (some tagStart) (.ofText chars) with
    | .error fault => .error (.text fault)
    | .ok loaded => recordOf loaded

end TypeCatalog.Document
