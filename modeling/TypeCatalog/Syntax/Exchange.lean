import TypeCatalog.Json.Value
import TypeCatalog.Syntax.Node

/-!
# Syntax trees in JSON

A node is an array of its kind, the name under which its parent holds it, the
offsets of its first byte and of the byte after its last, its flags and,
optionally, its children.  The flags are letters: `n` for a named node, `m`
for a missing one, `e` for one with an error inside, `b` for a broken one.
-/

namespace TypeCatalog.SyntaxNode

/-- The bytes of a source between two offsets; offsets beyond the end are the end. -/
def slice (source : Array UInt8) (start stop : Nat) : List UInt8 :=
  (source.extract start stop).toList

def dataOfJson (source : Array UInt8) (parts : List Json) : NodeData :=
  let string (index : Nat) : String := (parts[index]?.bind Json.string?).getD ""
  let offset (index : Nat) : Nat := ((parts[index]?.bind Json.int?).getD 0).toNat
  let flags := (string 4).toList
  { kind := string 0, field := string 1, start := offset 2, stop := offset 3,
    row := (slice source 0 (offset 2)).count 0x0a, named := flags.contains 'n',
    missing := flags.contains 'm', hasError := flags.contains 'e',
    bytes := if flags.contains 'b' then none else some (slice source (offset 2) (offset 3)) }

mutual

def ofJson (source : Array UInt8) : Json → SyntaxNode
  | .array [kind, field, start, stop, flags, .array children] =>
    .mk (dataOfJson source [kind, field, start, stop, flags]) (ofJsonList source children)
  | .array parts => .mk (dataOfJson source parts) []
  | _ => .mk { kind := "translation_unit", named := true } []

def ofJsonList (source : Array UInt8) : List Json → List SyntaxNode
  | [] => []
  | json :: rest => ofJson source json :: ofJsonList source rest

end

end TypeCatalog.SyntaxNode
