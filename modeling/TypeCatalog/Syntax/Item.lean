import TypeCatalog.Syntax.Record

/-!
# Items: the declarations of a file outside of any record

Namespaces and linkage blocks are opened, so a file is a list of items, each
with its scope.  An item yields a group of declarations, which may be empty;
records inside a record come before it in the same group.
-/

namespace TypeCatalog

open Text

abbrev Group := List Declaration

/-! ## The items of a tree -/

structure Item where
  node : SyntaxNode
  /-- The enclosing namespaces, the outermost first. -/
  scope : List CodeText := []
  externC : Bool := false

def scopeParts (name : CodeText) : List CodeText :=
  let separated := replace Name.scopeSeparator "\n" (Name.normalize name)
  (splitOn (.scalar '\n') separated).filter (!·.isEmpty)

def stripQuotes (text : CodeText) : CodeText :=
  ((text.dropWhile (· == .scalar '"')).reverse.dropWhile (· == .scalar '"')).reverse

namespace Item

def innerScope (scope : List CodeText) (child : SyntaxNode) : Except ReadFault (List CodeText) :=
  match child.child? "name" with
  | none => .ok scope
  | some name => (name.text).map fun text => scope ++ scopeParts text

def innerLinkage (externC : Bool) (child : SyntaxNode) : Except ReadFault Bool :=
  if externC then .ok true
  else (SyntaxNode.textOf (child.child? "value")).map fun text => stripQuotes text == "C"

/-- The items of a container in order.  The name of a namespace or linkage that cannot be
read takes the place of the items inside it. -/
def all (scope : List CodeText) (externC : Bool) (container : SyntaxNode) :
    List (Except ReadFault Item) :=
  container.items.attach.flatMap fun ⟨child, _⟩ =>
    if child.kind == "namespace_definition" then
      match innerScope scope child with
      | .error fault => [.error fault]
      | .ok inner =>
        match _body : child.child? "body" with
        | some body => all inner externC body
        | none => []
    else if child.kind == "linkage_specification" then
      match innerLinkage externC child with
      | .error fault => [.error fault]
      | .ok linkage =>
        match _body : child.child? "body" with
        | some body =>
          if body.kind == "declaration_list" then all scope linkage body
          else [.ok { node := body, scope, externC := linkage }]
        | none => []
    else if child.isKind ["translation_unit", "declaration_list"] then all scope externC child
    else [.ok { node := child, scope, externC }]
termination_by sizeOf container
decreasing_by
  · have inner := SyntaxNode.sizeOf_child?_lt _body
    have outer : sizeOf child < sizeOf container := SyntaxNode.sizeOf_items_lt (by assumption)
    omega
  · have inner := SyntaxNode.sizeOf_child?_lt _body
    have outer : sizeOf child < sizeOf container := SyntaxNode.sizeOf_items_lt (by assumption)
    omega
  · exact SyntaxNode.sizeOf_items_lt (by assumption)

end Item

/-! ## Declarations of an item -/

namespace SessionPart

def declaredFunction (item : Item) (declared : Option SyntaxNode) :
    SessionPart (Option Function) := do
  let info ← declarator declared .unresolved
  match info.function, info.name with
  | some functionNode, some name =>
    function item.node functionNode name item.scope none item.externC info.attributes
  | _, _ =>
    if item.node.kind == "function_definition" then
      report .debug ("Function definition at line " ++ toString item.node.line ++
        " has no declarator")
    return none

/-- Reads the record or enumeration at the start of a declaration.  A record without a body
counts only if nothing is declared with it. -/
def leadingType (item : Item) : SessionPart Group := do
  match item.node.child? "type" with
  | none => return []
  | some type =>
    if type.isRecord then
      if (type.child? "body").isSome || (item.node.childrenBy "declarator").isEmpty then
        return (← readRecord item.scope none type).all.map .record
      else return []
    else
      if type.kind == "enum_specifier" then discard (enumeration type item.scope)
      return []

def declaration (item : Item) : SessionPart Group := do
  let leading ← leadingType item
  let functions ← (item.node.childrenBy "declarator").filterMapM fun node =>
    declaredFunction item (some node)
  return leading ++ functions.map .function

def group (item : Item) : SessionPart Group := do
  let node := item.node
  if node.kind == "template_declaration" then
    match _inner : node.namedChildren.find? (·.kind != "template_parameter_list") with
    | some inner => group { item with node := inner }
    | none => return []
  else if node.isRecord then return (← readRecord item.scope none node).all.map .record
  else if node.kind == "enum_specifier" then
    discard (enumeration node item.scope)
    return []
  else if node.kind == "function_definition" then
    return (← declaredFunction item (node.child? "declarator")).toList.map .function
  else if node.kind == "declaration" then declaration item
  else if node.kind == "type_definition" then
    return (← typeDefinition item.scope node).map .record
  else
    if node.kind == "alias_declaration" then synonym item.scope node
    return []
termination_by sizeOf item.node
decreasing_by
  exact SyntaxNode.sizeOf_namedChildren_lt (List.mem_of_find?_eq_some _inner)

end SessionPart

/-! ## Faults -/

inductive ItemFault where
  | container (fault : ReadFault)
  | item (kind : String) (place : Location) (fault : ReadFault)
  | layout (fault : LayoutFault)
  deriving DecidableEq, Repr

def ItemFault.message : ItemFault → CodeText
  | container fault => fault.message
  | item kind place fault =>
    "Cannot materialize " ++ kind ++ " at " ++ place.file ++ ":" ++ toString place.line ++ ": " ++
      fault.message
  | layout fault => fault.message

namespace Session

def readItem (session : Session) : Except ReadFault Item → Except ItemFault Group × Session
  | .error fault => (.error (.container fault), session)
  | .ok item =>
    let (result, after) := (SessionPart.group item).run session
    let explain : SessionFault → ItemFault
      | .node fault => .item item.node.kind ⟨session.file, item.node.line⟩ fault
      | .layout fault => .layout fault
    (result.mapError explain, after)

def readItems (session : Session) :
    List (Except ReadFault Item) → List Group × Option ItemFault × Session
  | [] => ([], none, session)
  | item :: rest =>
    match session.readItem item with
    | (.error fault, after) => ([], some fault, after)
    | (.ok group, after) =>
      let (groups, fault, last) := after.readItems rest
      (if group.isEmpty then groups else group :: groups, fault, last)

end Session

end TypeCatalog
