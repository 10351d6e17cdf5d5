import TypeCatalog.Declaration
import TypeCatalog.Name
import TypeCatalog.Syntax.Literal
import TypeCatalog.Syntax.Node

/-!
# Attributes and their arguments

Strings, also adjacent ones, and integers, also with a sign or in
parentheses, are decoded.  Any other argument keeps the kind of its node and
its text.
-/

namespace TypeCatalog

open Text

namespace SyntaxNode

def betweenQuotes (text : CodeText) : CodeText :=
  let inner := (text.dropWhile (· != .scalar '"')).drop 1
  ((inner.reverse.dropWhile (· != .scalar '"')).drop 1).reverse

def stringPieces : List SyntaxNode → Except ReadFault CodeText
  | [] => .ok []
  | piece :: rest => do
    let value ←
      if piece.kind == "string_content" then piece.text
      else if piece.kind == "escape_sequence" then (piece.characters).map Escape.decode
      else pure []
    return value ++ (← stringPieces rest)

def stringContent (node : SyntaxNode) : Except ReadFault CodeText := do
  if node.namedChildren.isEmpty then
    return betweenQuotes (← node.text)
  else stringPieces node.namedChildren

def otherLiteral (node : SyntaxNode) : Except ReadFault Literal := do
  return ⟨node.kind, .text (← node.text)⟩

def stringLiteral (value : CodeText) : Literal :=
  ⟨"string", .text value⟩

def integerLiteral (value : Int) : Literal :=
  ⟨"integer", .integer value⟩

def joinStrings : List Literal → Option CodeText
  | [] => some []
  | ⟨kind, .text value⟩ :: rest =>
    if kind == "string" then (joinStrings rest).map (value ++ ·) else none
  | _ => none

/-- An integer with a sign before it.  One that is known by its text only has no negative. -/
def signedLiteral (negative : Bool) : LiteralValue → Except ReadFault Literal
  | .integer value => .ok (integerLiteral (if negative then -value else value))
  | value => if negative then .error .negatedText else .ok ⟨"integer", value⟩

def literal (node : SyntaxNode) : Except ReadFault Literal := do
  if node.kind == "string_literal" then return stringLiteral (← node.stringContent)
  else if node.kind == "raw_string_literal" then
    return stringLiteral (← textOf (node.childOfKind? "raw_string_content"))
  else if node.kind == "concatenated_string" then
    let parts ← node.namedChildren.attach.mapM fun ⟨child, _⟩ => literal child
    match joinStrings parts with
    | some value => if parts.isEmpty then node.otherLiteral else return stringLiteral value
    | none => node.otherLiteral
  else if node.kind == "number_literal" then
    match IntegerLiteral.value? (← node.text) with
    | some value => return integerLiteral value
    | none => return ⟨"float", .text (← node.text)⟩
  else if node.kind == "unary_expression" then
    let operator ← textOf (node.child? "operator")
    match _found : node.child? "argument" with
    | none => node.otherLiteral
    | some inner =>
      if operator == "-" || operator == "+" then
        let value ← literal inner
        if value.kind == "integer" then signedLiteral (operator == "-") value.value
        else node.otherLiteral
      else node.otherLiteral
  else if node.kind == "parenthesized_expression" then
    match _only : node.namedChildren with
    | [inner] => literal inner
    | _ => node.otherLiteral
  else node.otherLiteral
termination_by sizeOf node
decreasing_by
  · exact sizeOf_namedChildren_lt (by assumption)
  · exact sizeOf_child?_lt _found
  · exact sizeOf_namedChildren_lt (by rw [_only]; exact List.mem_singleton.mpr rfl)

def beforeParen (text : CodeText) : CodeText :=
  text.takeWhile (· != .scalar '(')

def readAttribute (node : SyntaxNode) : Except ReadFault Attribute := do
  let own ← match node.child? "name" with
    | some name => name.text
    | none => (node.text).map beforeParen
  let spelled ← match node.child? "prefix" with
    | some outer => pure ((← outer.text) ++ Name.scopeSeparator ++ own)
    | none => pure own
  let arguments ← match node.childOfKind? "argument_list" with
    | some list => (list.namedChildren.filter (·.kind != "comment")).mapM literal
    | none => pure []
  return ⟨Name.normalize spelled, arguments⟩

def attributes (node : SyntaxNode) : Except ReadFault (List Attribute) :=
  let groups := node.children.filter (·.kind == "attribute_declaration")
  let nodes := groups.flatMap fun group => group.namedChildren.filter (·.kind == "attribute")
  nodes.mapM readAttribute

end SyntaxNode

end TypeCatalog
