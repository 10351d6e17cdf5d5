import TypeCatalog.Syntax.Base
import TypeCatalog.Syntax.Function
import TypeCatalog.Syntax.Type

/-!
# Members of records: fields, bit-fields and methods

The declarators of a member declaration share a type.  Each is a method, a
field or nothing; the last may be a bit-field.
-/

namespace TypeCatalog

open Text (CodeText)

/-! ## Kinds of members -/

namespace SyntaxNode

def isMemberDeclaration (node : SyntaxNode) : Bool :=
  node.isKind ["field_declaration", "declaration", "function_definition"]

def marksVirtual (member : SyntaxNode) : Except ReadFault Bool := do
  if !member.isMemberDeclaration then return false
  let marked ← member.children.anyM fun child => do
    if child.isKind virtualKinds then return true
    if child.isNamed then return false
    return (← child.text) == .ofString "virtual"
  return marked ||
    (member.childrenBy "declarator").any fun d => (d.descendant? "virtual_specifier").isSome

def hasStorageClass (node : SyntaxNode) (storage : CodeText) : Except ReadFault Bool :=
  node.children.anyM fun child => do
    if child.kind == "storage_class_specifier" then return (← child.text) == storage
    return false

/-- The clause that gives a width to a bit-field, also one inside an error.  An error that
starts with a colon stands for the clause itself. -/
def widthClause? (member : SyntaxNode) : Option SyntaxNode :=
  (member.childOfKind? "bitfield_clause").or <|
    (member.children.filter (·.isError)).findSome? fun child =>
      (child.childOfKind? "bitfield_clause").or <|
        if child.children.head?.any (·.kind == ":") && !child.namedChildren.isEmpty then some child
        else none

end SyntaxNode

/-! ## Fields and methods -/

structure MemberState where
  builder : LayoutBuilder
  fields : List Field := []
  methods : List Function := []
  nested : List Record := []

structure FieldContext where
  className : Option CodeText
  cvQualifiers : CodeText
  type : SpecifiedType

namespace SessionPart

/-- The width that a bit-field clause gives; none unless it is an integer literal. -/
def bitfieldWidth (clause : SyntaxNode) : Except ReadFault (Option Int) :=
  match clause.namedChildren.getLast? with
  | some width => (width.text).map IntegerLiteral.value?
  | none => .ok none

/-- Places a field or bit-field.  A bit-field without a literal width is placed as a field
after which no offset is known. -/
def readField (context : FieldContext) (name : Option SyntaxNode) (info : Option DeclaredEntity)
    (attributes : List Attribute) (clause : Option SyntaxNode) (state : MemberState) :
    SessionPart MemberState := do
  let layout := (info.map (·.layout)).getD context.type.layout
  let derived := info.any (·.derived)
  let suffix : CodeText := (info.map (·.suffix)).getD ""
  let spelling := Name.normalizeSpelling
    (context.cvQualifiers ++ " " ++ context.type.spelling ++ " " ++ suffix)
  let name ← match name with
    | none => pure none
    | some node => if node.isMissing then pure none else pure (Text.proper? (some (← node.text)))
  let width ← match clause with
    | none => pure none
    | some clause => (bitfieldWidth clause : Except ReadFault (Option Int))
  let unknownWidth := clause.isSome && width.isNone
  if unknownWidth then
    report .warning ("Bit-field width of " ++ name.getD "<anonymous>" ++ " in " ++
      context.className.getD "<anonymous>" ++ " is not a literal")
  let builder := if unknownWidth then state.builder.giveUp else state.builder
  let (placed, builder) := match width with
    | some width => builder.placeBitfield layout width name.isSome
    | none =>
      let (offset, after) := builder.placeField layout
      (.ok offset, after)
  let offset ← (placed : Except LayoutFault (Option Int))
  let field : Field :=
    { name
      type :=
        { name := some spelling, size := layout.size, align := layout.align,
          attributes := (if derived then [] else context.type.attributes) ++ attributes }
      bitOffset := offset, bitWidth := width }
  return { state with builder, fields := state.fields ++ [field] }

def readMethod (scope : List CodeText) (className : Option CodeText)
    (member functionNode name : SyntaxNode) (attributes : List Attribute) (state : MemberState) :
    SessionPart MemberState := do
  match ← function member functionNode name scope (some (className.getD "")) false attributes with
  | some method => return { state with methods := state.methods ++ [method] }
  | none => return state

/-- Reads one declarator of a member declaration; only the last may be a bit-field. -/
def readDeclarator (scope : List CodeText) (context : FieldContext) (member : SyntaxNode)
    (own : List Attribute) (isStatic : Bool) (clause : Option SyntaxNode) (state : MemberState)
    (node : SyntaxNode) : SessionPart MemberState := do
  if node.kind == "operator_cast" then
    let functionNode := (node.descendant? "abstract_function_declarator").getD node
    readMethod scope context.className member functionNode node [] state
  else
    let info ← declarator (some node) context.type.layout
    match info.function, info.name with
    | some functionNode, some name =>
      readMethod scope context.className member functionNode name info.attributes state
    | none, some name =>
      if isStatic || member.kind == "function_definition" then return state
      else readField context (some name) (some info) (own ++ info.attributes) clause state
    | _, none => return state

def readDeclarators (scope : List CodeText) (className : Option CodeText) (member : SyntaxNode)
    (type : SpecifiedType) (state : MemberState) : SessionPart MemberState := do
  let state := { state with nested := state.nested ++ type.nested }
  let own ← member.attributes
  let context : FieldContext :=
    { className := Text.proper? className, cvQualifiers := ← member.cvQualifiers, type }
  let clause := member.widthClause?
  let declarators := member.childrenBy "declarator"
  match declarators.getLast? with
  | none =>
    if clause.isSome || type.anonymous then readField context none none own clause state
    else return state
  | some last =>
    let isStatic ← member.hasStorageClass "static"
    let state ← declarators.dropLast.foldlM
      (readDeclarator scope context member own isStatic none) state
    readDeclarator scope context member own isStatic clause state last

end SessionPart

end TypeCatalog
