import TypeCatalog.Syntax.Declarator

/-!
# Type specifiers that define no record, and what reading any specifier yields
-/

namespace TypeCatalog

open Text (CodeText)

def typeNameKinds : List String :=
  ["type_identifier", "qualified_identifier", "template_type"]

def recordKinds : List (String × String) :=
  [("class_specifier", "class"), ("struct_specifier", "struct"), ("union_specifier", "union")]

namespace SyntaxNode

def isRecord (node : SyntaxNode) : Bool :=
  (recordKinds.lookup node.kind).isSome

end SyntaxNode

structure SpecifiedType where
  spelling : CodeText
  layout : Layout := .unresolved
  attributes : List Attribute := []
  nested : List Record := []
  anonymous : Bool := false

structure RecordReading where
  record : Record
  nested : List Record := []

namespace RecordReading

def layout (built : RecordReading) : Layout :=
  ⟨built.record.size, built.record.align⟩

def all (built : RecordReading) : List Record :=
  built.nested ++ [built.record]

def specifiedType (built : RecordReading) (name : Option CodeText) : SpecifiedType :=
  match name with
  | some name =>
    { spelling := Name.normalize name, layout := built.layout,
      attributes := built.record.attributes, nested := built.all }
  | none =>
    { spelling := "(anonymous " ++ built.record.kind ++ ")", layout := built.layout,
      attributes := built.record.attributes, nested := built.nested, anonymous := true }

end RecordReading

namespace SessionPart

def enumeration (node : SyntaxNode) (scope : List CodeText) : SessionPart Layout := do
  let table ← types
  let underlying ← match node.child? "base" with
    | some base => pure (table.builtin? (← base.text))
    | none => pure none
  let layout := underlying.getD ((table.builtin? "int").getD .unresolved)
  match node.child? "name", node.child? "body" with
  | some name, some _ =>
    define { name := Name.qualify scope (← name.text), kind := .enumeration, layout }
  | _, _ => pure ()
  return layout

def namedType (scope : List CodeText) (spelling name : CodeText) : SessionPart SpecifiedType := do
  let (layout, entry) ← resolve name scope
  return { spelling, layout, attributes := (entry.map (·.attributes)).getD [] }

def plainType (scope : List CodeText) (spelling : CodeText) (node : SyntaxNode) :
    SessionPart SpecifiedType := do
  if node.isKind ["primitive_type", "sized_type_specifier"] then
    return { spelling, layout := ((← types).builtin? spelling).getD .unresolved }
  else if node.isRecord then
    match node.child? "name" with
    | none => return { spelling }
    | some name => namedType scope spelling (← name.text)
  else if node.kind == "enum_specifier" then
    if (node.child? "body").isSome then
      let layout ← enumeration node scope
      let name ← match node.child? "name" with
        | some name => (name.text : Except ReadFault CodeText)
        | none => pure "(anonymous enum)"
      return { spelling := name, layout }
    else
      let (layout, _) ← resolve (← SyntaxNode.textOf (node.child? "name")) scope
      return { spelling, layout }
  else if node.isKind typeNameKinds then namedType scope spelling spelling
  else
    report .debug ("Type " ++ spelling ++ " (" ++ node.kind ++ ") has no static layout")
    return { spelling }

def synonyms (scope : List CodeText) (layout : Layout) (attributes : List Attribute)
    (declarators : List SyntaxNode) : SessionPart Unit :=
  declarators.forM fun node => do
    let info ← declarator (some node) layout
    match info.name with
    | none => pure ()
    | some name =>
      define
        { name := Name.qualify scope (← name.text), kind := .synonym, layout := info.layout,
          attributes := if info.derived then [] else attributes }

end SessionPart

end TypeCatalog
