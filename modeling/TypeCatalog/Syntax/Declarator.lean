import TypeCatalog.Syntax.Attribute
import TypeCatalog.Syntax.Session

/-!
# Declarators

A declarator stands between a type specifier and the end of a declaration.  It
is a chain of nodes from the outside to the declared name.  Pointers,
references, arrays and functions derive a new type on the way; parentheses and
attributes do not.  The declared entity is a function when the derivation
nearest to the name is one.
-/

namespace TypeCatalog

open Text

def nameKinds : List String :=
  ["identifier", "field_identifier", "type_identifier", "destructor_name", "operator_name",
    "operator_cast", "qualified_identifier", "template_function"]

def pointerKinds : List String :=
  ["pointer_declarator", "reference_declarator", "abstract_pointer_declarator",
    "abstract_reference_declarator"]

def arrayKinds : List String :=
  ["array_declarator", "abstract_array_declarator"]

def functionKinds : List String :=
  ["function_declarator", "abstract_function_declarator"]

def transparentKinds : List String :=
  ["attributed_declarator", "parenthesized_declarator", "variadic_declarator"]

/-! ## The chain -/

namespace SyntaxNode

def innerDeclarator? (node : SyntaxNode) : Option SyntaxNode :=
  if node.isKind transparentKinds then
    (node.namedChildren.filter (·.kind != "attribute_declaration")).head?
  else
    match node.child? "declarator" with
    | some inner => some inner
    | none =>
      if node.isKind pointerKinds then
        (node.namedChildren.filter fun child =>
          child.kind != "type_qualifier" && child.kind != "attribute_declaration").getLast?
      else none

theorem sizeOf_innerDeclarator?_lt {node inner : SyntaxNode}
    (found : node.innerDeclarator? = some inner) : sizeOf inner < sizeOf node := by
  rw [innerDeclarator?] at found
  split at found
  · exact sizeOf_namedChildren_lt (List.mem_filter.mp (List.mem_of_head? found)).1
  · split at found
    · next _ _ child => exact Option.some.inj found ▸ sizeOf_child?_lt child
    · split at found
      · exact sizeOf_namedChildren_lt (List.mem_filter.mp (List.mem_of_getLast? found)).1
      · contradiction

/-- The count of an array declarator: 0 without a bound, and not known unless the bound is
an integer literal. -/
def elementCount (node : SyntaxNode) : Except ReadFault (Option Int) :=
  match node.child? "size" with
  | none => .ok (some 0)
  | some bound =>
    if bound.kind == "number_literal" then (bound.text).map IntegerLiteral.value? else .ok none

end SyntaxNode

structure DeclaratorChain where
  layout : Layout
  /-- The function declarator, if it is the nearest derivation. -/
  function : Option SyntaxNode := none
  derived : Bool := false
  attributes : List Attribute := []
  unhandled : Option String := none

namespace DeclaratorChain

def apply (chain : DeclaratorChain) (pointer : Layout) (node : SyntaxNode) :
    Except ReadFault DeclaratorChain := do
  if node.isKind functionKinds then
    return { chain with function := some node, layout := .unresolved, derived := true }
  else if node.isKind pointerKinds then
    return { chain with function := none, layout := pointer, derived := true }
  else if node.isKind arrayKinds then
    let count ← node.elementCount
    return { chain with function := none, layout := chain.layout.array count, derived := true }
  else if node.isKind transparentKinds then
    return { chain with attributes := chain.attributes ++ (← node.attributes) }
  else if (node.child? "declarator").isNone then
    return { chain with unhandled := some node.kind }
  else return chain

def follow (chain : DeclaratorChain) (pointer : Layout) (node : SyntaxNode) :
    Except ReadFault (Option SyntaxNode × DeclaratorChain) := do
  if node.isKind nameKinds then return (some node, chain)
  let next ← chain.apply pointer node
  match _inner : node.innerDeclarator? with
  | none => return (none, next)
  | some inner => follow next pointer inner
termination_by sizeOf node
decreasing_by exact SyntaxNode.sizeOf_innerDeclarator?_lt _inner

end DeclaratorChain

/-! ## The text around the name -/

/-- A position in a list; negative ones count from the end. -/
def position (length : Nat) (index : Int) : Nat :=
  if index < 0 then (index + length).toNat else index.toNat

def withoutPart {α : Type} (items : List α) (start stop : Int) : List α :=
  items.take (position items.length start) ++ items.drop (position items.length stop)

def closingLength? : List Char → Option Nat
  | [] => none
  | ']' :: ']' :: _ => some 2
  | c :: rest => if c == '\n' then none else (closingLength? rest).map (· + 1)

/-- Drops attributes in double brackets.  The number counts characters that belong to the
attribute dropped last. -/
def dropInlineAttributes : Nat → List Char → List Char
  | _, [] => []
  | skip + 1, _ :: rest => dropInlineAttributes skip rest
  | 0, c :: rest =>
    if c == '[' && rest.head? == some '[' then
      match closingLength? rest.tail with
      | some length => dropInlineAttributes (length + 1) rest
      | none => c :: dropInlineAttributes 0 rest
    else c :: dropInlineAttributes 0 rest

def textAroundName (declarator name : Option SyntaxNode) : Except ReadFault CodeText :=
  match declarator with
  | none => .ok ""
  | some declarator =>
    match declarator.data.bytes with
    | none => .error .brokenNode
    | some bytes =>
      let rest := match name with
        | none => bytes
        | some name =>
          withoutPart bytes ((name.data.start : Int) - declarator.data.start)
            ((name.data.stop : Int) - declarator.data.start)
      .ok (.ofChars (dropInlineAttributes 0 (Utf8.decodeLossy rest)))

/-! ## Declarators -/

structure DeclaredEntity where
  name : Option SyntaxNode
  layout : Layout
  suffix : CodeText
  function : Option SyntaxNode
  derived : Bool
  attributes : List Attribute

namespace SessionPart

def declarator (node : Option SyntaxNode) (base : Layout) : SessionPart DeclaredEntity := do
  let pointer := (← types).pointer
  let (name, chain) ← match node with
    | none => pure (none, ({ layout := base } : DeclaratorChain))
    | some node => (({ layout := base } : DeclaratorChain).follow pointer node : Except ReadFault _)
  match chain.unhandled with
  | some kind => report .debug ("Unhandled declarator " ++ kind)
  | none => pure ()
  let suffix ← (textAroundName node name : Except ReadFault CodeText)
  return { name, suffix, layout := chain.layout, function := chain.function,
           derived := chain.derived, attributes := chain.attributes }

end SessionPart

end TypeCatalog
