import TypeCatalog.Layout.Placement
import TypeCatalog.Syntax.Type

/-!
# Bases of records
-/

namespace TypeCatalog

open Text

def virtualKinds : List String :=
  ["virtual", "virtual_function_specifier"]

structure KnownBase where
  base : Base
  entry : Option KnownType

namespace KnownBase

def isVirtual (known : KnownBase) : Bool :=
  known.base.virtual

def isDynamic (known : KnownBase) : Bool :=
  known.entry.any (·.dynamic)

def isEmpty (known : KnownBase) : Bool :=
  known.entry.any (·.empty)

def layout (known : KnownBase) : Layout :=
  (known.entry.map (·.layout)).getD .unresolved

end KnownBase

structure BaseSpecifier where
  access : Option Access := none
  virtual : Bool := false
  name : Option SyntaxNode := none

namespace SessionPart

/-- Ends a base specifier; one without a name is no base. -/
def closeBase (record : SyntaxNode) (scope : List CodeText) (defaultAccess : Access)
    (bases : List KnownBase) (specifier : BaseSpecifier) : SessionPart (List KnownBase) := do
  match specifier.name with
  | none => return bases
  | some name =>
    let spelled := Name.normalize (← name.text)
    let (layout, entry) ← resolve spelled scope
    if entry.isNone then
      report .warning ("Base " ++ spelled ++ " of " ++
        (← SyntaxNode.textOf (record.child? "name")) ++ " is not a known record")
    let type : TypeUse :=
      { name := some ((entry.map (·.name)).getD spelled)
        size := layout.size, align := layout.align
        attributes := (entry.map (·.attributes)).getD [] }
    let base : Base :=
      { type, access := some (specifier.access.getD defaultAccess), virtual := specifier.virtual }
    return bases ++ [⟨base, entry⟩]

def readBaseNode (record : SyntaxNode) (scope : List CodeText) (defaultAccess : Access) :
    List KnownBase × BaseSpecifier → SyntaxNode → SessionPart (List KnownBase × BaseSpecifier)
  | (bases, specifier), node => do
    if node.kind == "," then return (← closeBase record scope defaultAccess bases specifier, {})
    if node.isKind virtualKinds then return (bases, { specifier with virtual := true })
    let text ← node.text
    if node.kind == "access_specifier" then
      match Access.ofName? (trim text) with
      | some access => return (bases, { specifier with access := some access })
      | none =>
        report .warning ("Unknown access specifier " ++ text)
        return (bases, specifier)
    else if text == "virtual" then return (bases, { specifier with virtual := true })
    else if node.isKind typeNameKinds then return (bases, { specifier with name := some node })
    else return (bases, specifier)

def bases (record : SyntaxNode) (scope : List CodeText) (defaultAccess : Access) :
    SessionPart (List KnownBase) := do
  match record.childOfKind? "base_class_clause" with
  | none => return []
  | some clause =>
    let (bases, last) ←
      clause.children.foldlM (readBaseNode record scope defaultAccess) ([], {})
    closeBase record scope defaultAccess bases last

end SessionPart

end TypeCatalog
