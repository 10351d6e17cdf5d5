import TypeCatalog.Syntax.Member

/-!
# Records

A type specifier may define a record in place, the members of that record may
do so again, and so may synonyms among them.  Records defined inside a record
with a name of their own are declarations beside it.  A record is known to
its own members, without a layout, before they are read.
-/

namespace TypeCatalog

open Text (CodeText)

/-! ## The parts of a record -/

structure RecordHead where
  kind : String
  /-- The name as written or given by a synonym; it may be empty. -/
  writtenName : Option CodeText
  qualified : Option CodeText
  attributes : List Attribute
  location : Location

namespace RecordHead

def ownName (head : RecordHead) : Option CodeText :=
  Text.proper? head.writtenName

def defaultAccess (head : RecordHead) : Access :=
  if head.kind == "class" then .priv else .pub

def memberScope (head : RecordHead) (scope : List CodeText) : List CodeText :=
  scope ++ head.ownName.toList

def forward (head : RecordHead) : Record :=
  { name := head.qualified, location := head.location, kind := head.kind, complete := false,
    attributes := head.attributes }

def entry? (head : RecordHead) (layout : Layout) (dynamic empty : Bool) : Option KnownType :=
  (Text.proper? head.qualified).map fun name =>
    { name, kind := .record, layout, attributes := head.attributes, dynamic, empty }

end RecordHead

structure RecordPlan where
  head : RecordHead
  bases : List KnownBase
  dynamic : Bool

namespace RecordPlan

def ordered (plan : RecordPlan) : List KnownBase :=
  placementOrder KnownBase.isDynamic KnownBase.isVirtual plan.bases

def hasPrimary (plan : RecordPlan) : Bool :=
  plan.ordered.head?.any fun base => !base.isVirtual && base.isDynamic

def vptrField (plan : RecordPlan) (pointer : Layout) (offset : Option Int) : Field :=
  { name := some ("_vptr." ++ plan.head.ownName.getD "anonymous")
    type := { name := some "void **", size := pointer.size, align := pointer.align }
    bitOffset := offset, artificial := true }

def start (plan : RecordPlan) (model : DataModel) : MemberState :=
  let builder : LayoutBuilder := { model, isUnion := plan.head.kind == "union" }
  let state : MemberState :=
    if plan.dynamic && !plan.hasPrimary then
      let (offset, after) := builder.placeVptr
      { builder := after, fields := [plan.vptrField model.pointer offset] }
    else { builder }
  let placed := (plan.ordered.filter (!·.isVirtual)).foldl
    (fun builder base => (builder.placeBase base.layout base.isEmpty).2) state.builder
  { state with builder := placed }

/-- The layout of the record after its members: virtual bases come last. -/
def finish (plan : RecordPlan) (state : MemberState) : LayoutBuilder :=
  (plan.ordered.filter (·.isVirtual)).foldl
    (fun builder base => (builder.placeField base.layout).2) state.builder

def isEmpty (plan : RecordPlan) (builder : LayoutBuilder) : Bool :=
  !builder.hasData && plan.bases.all (·.isEmpty)

def complete (plan : RecordPlan) (layout : Layout) (state : MemberState) : Record :=
  { name := plan.head.qualified, location := plan.head.location, kind := plan.head.kind,
    size := layout.size, align := layout.align, fields := { items := state.fields },
    methods := { items := state.methods }, bases := { items := plan.bases.map (·.base) },
    attributes := plan.head.attributes }

end RecordPlan

/-! ## Reading records -/

namespace SessionPart

/-- Reads a record specifier up to its body.  A given name is for a record without one. -/
def recordHead (scope : List CodeText) (given : Option CodeText) (node : SyntaxNode) :
    SessionPart RecordHead := do
  let name := node.child? "name"
  let writtenName ← match name with
    | some name => pure (some (Name.normalize (← name.text)))
    | none => pure given
  return {
    kind := (recordKinds.lookup node.kind).getD ""
    writtenName
    qualified := (Text.proper? writtenName).map (Name.qualify scope)
    attributes := ← node.attributes
    location := ← location (name.getD node) }

/-- Reads what comes before the members of a record, and makes its name known to them. -/
def recordPlan (scope : List CodeText) (head : RecordHead) (node body : SyntaxNode) :
    SessionPart RecordPlan := do
  if body.hasError then
    report .warning ("Record " ++ (Text.proper? head.qualified).getD "<anonymous>" ++ " at " ++
      head.location.file ++ ":" ++ toString head.location.line ++ " has syntax errors")
  (head.entry? .unresolved false false).forM define
  let bases ← bases node scope head.defaultAccess
  let declared ← (body.items.anyM SyntaxNode.marksVirtual : Except ReadFault Bool)
  return { head, bases, dynamic := declared || bases.any fun b => b.isVirtual || b.isDynamic }

def finishRecord (plan : RecordPlan) (state : MemberState) : SessionPart RecordReading := do
  let builder := plan.finish state
  let layout := builder.finish
  (plan.head.entry? layout plan.dynamic (plan.isEmpty builder)).forM define
  return { record := plan.complete layout state, nested := state.nested }

def givenName (record : SyntaxNode) (declarators : List SyntaxNode) :
    SessionPart (Option CodeText) := do
  match record.child? "name", declarators with
  | none, first :: _ =>
    let info ← declarator (some first) .unresolved
    match info.name with
    | some name => if info.derived then return none else return some (← name.text)
    | none => return none
  | _, _ => return none

mutual

def readSpecifier (scope : List CodeText) (node : SyntaxNode) : SessionPart SpecifiedType := do
  let spelling := Name.normalizeSpelling (← node.text)
  if node.isRecord && (node.child? "body").isSome then
    let built ← readRecord scope none node
    match node.child? "name" with
    | some name => return built.specifiedType (some (← name.text))
    | none => return built.specifiedType none
  else plainType scope spelling node
termination_by (sizeOf node, 1)
decreasing_by exact Prod.Lex.right _ (by omega)

def readRecord (scope : List CodeText) (given : Option CodeText) (node : SyntaxNode) :
    SessionPart RecordReading := do
  let head ← recordHead scope given node
  match _found : node.child? "body" with
  | none => return { record := head.forward }
  | some body =>
    let plan ← recordPlan scope head node body
    let state ← body.items.attach.foldlM
      (fun state ⟨member, _⟩ => readMember (head.memberScope scope) head.writtenName state member)
      (plan.start (← types).model)
    finishRecord plan state
termination_by (sizeOf node, 0)
decreasing_by
  have inside := SyntaxNode.sizeOf_items_lt (by assumption)
  have body := SyntaxNode.sizeOf_child?_lt _found
  exact Prod.Lex.left _ _ (by omega)

def readMember (scope : List CodeText) (className : Option CodeText) (state : MemberState)
    (member : SyntaxNode) : SessionPart MemberState := do
  if member.isMemberDeclaration then
    let type ← match _type : member.child? "type" with
      | some type => readSpecifier scope type
      | none => pure { spelling := "" }
    readDeclarators scope className member type state
  else if member.kind == "type_definition" then
    return { state with nested := state.nested ++ (← typeDefinition scope member) }
  else if member.kind == "alias_declaration" then
    synonym scope member
    return state
  else
    if member.kind == "template_declaration" then
      report .debug ("Skipping member template in " ++ className.getD "None")
    return state
termination_by (sizeOf member, 1)
decreasing_by
  · exact Prod.Lex.left _ _ (SyntaxNode.sizeOf_child?_lt _type)
  · exact Prod.Lex.right _ (by omega)
  · exact Prod.Lex.right _ (by omega)

/-- Enters the synonyms of a type definition, and gives the records it defines.  A record
without a name takes that of the first synonym. -/
def typeDefinition (scope : List CodeText) (node : SyntaxNode) : SessionPart (List Record) := do
  let declarators := node.childrenBy "declarator"
  match _type : node.child? "type" with
  | none =>
    synonyms scope .unresolved [] declarators
    return []
  | some type =>
    if type.isRecord && (type.child? "body").isSome then
      let built ← readRecord scope (← givenName type declarators) type
      synonyms scope built.layout built.record.attributes declarators
      return built.all
    else
      let resolved ← readSpecifier scope type
      synonyms scope resolved.layout resolved.attributes declarators
      return resolved.nested
termination_by (sizeOf node, 0)
decreasing_by
  all_goals exact Prod.Lex.left _ _ (SyntaxNode.sizeOf_child?_lt _type)

def synonym (scope : List CodeText) (node : SyntaxNode) : SessionPart Unit := do
  match node.child? "name", _descriptor : node.child? "type" with
  | some name, some descriptor =>
    let resolved ← match _type : descriptor.child? "type" with
      | some type => readSpecifier scope type
      | none => pure { spelling := "" }
    let info ← declarator (descriptor.child? "declarator") resolved.layout
    define
      { name := Name.qualify scope (← name.text), kind := .synonym, layout := info.layout,
        attributes := if info.derived then [] else resolved.attributes }
  | _, _ => pure ()
termination_by (sizeOf node, 0)
decreasing_by
  have inner := SyntaxNode.sizeOf_child?_lt _type
  have outer := SyntaxNode.sizeOf_child?_lt _descriptor
  exact Prod.Lex.left _ _ (by omega)

end

end SessionPart

end TypeCatalog
