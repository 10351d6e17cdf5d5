import TypeCatalog.Proofs.SessionAgreement

/-!
# Reading members whose types are spelled differently

How a type is spelled counts for the types of fields and for nothing else: two
readings of the members of a record with types of the same layout and
attributes place the same fields.
-/

namespace TypeCatalog

open Text (CodeText)

/-! ## Records in the making -/

def Field.untyped (field : Field) : Field :=
  { field with type := { field.type with name := none } }

structure SpecifiedType.Alike (first second : SpecifiedType) : Prop where
  layout : first.layout = second.layout
  attributes : first.attributes = second.attributes
  nested : first.nested = second.nested
  anonymous : first.anonymous = second.anonymous

structure MemberState.Alike (first second : MemberState) : Prop where
  builder : first.builder = second.builder
  fields : first.fields.map Field.untyped = second.fields.map Field.untyped
  methods : first.methods = second.methods
  nested : first.nested = second.nested

namespace SessionPart

variable {session : Session} {state other : MemberState} {type twin : SpecifiedType}

/-! ## Fields and methods -/

def fieldName : Option SyntaxNode → SessionPart (Option CodeText)
  | none => pure none
  | some node =>
    if node.isMissing then pure none else do return Text.proper? (some (← node.text))

def fieldWidth : Option SyntaxNode → SessionPart (Option Int)
  | none => pure none
  | some clause => (bitfieldWidth clause : Except ReadFault (Option Int))

def warnWidth (unknown : Bool) (className name : Option CodeText) : SessionPart Unit :=
  if unknown then
    report .warning ("Bit-field width of " ++ name.getD "<anonymous>" ++ " in " ++
      className.getD "<anonymous>" ++ " is not a literal")
  else pure ()

def placed (builder : LayoutBuilder) (layout : Layout) (unknown : Bool) (width : Option Int)
    (named : Bool) : Except LayoutFault (Option Int) × LayoutBuilder :=
  let builder := if unknown then builder.giveUp else builder
  match width with
  | some width => builder.placeBitfield layout width named
  | none =>
    let (offset, after) := builder.placeField layout
    (.ok offset, after)

theorem readField_eq (context : FieldContext) (name : Option SyntaxNode)
    (info : Option DeclaredEntity) (attributes : List Attribute) (clause : Option SyntaxNode)
    (state : MemberState) :
    readField context name info attributes clause state = (do
      let layout := (info.map (·.layout)).getD context.type.layout
      let name ← fieldName name
      let width ← fieldWidth clause
      let unknown := clause.isSome && width.isNone
      warnWidth unknown context.className name
      let (result, builder) := placed state.builder layout unknown width name.isSome
      let offset ← (result : Except LayoutFault (Option Int))
      let suffix : CodeText := (info.map (·.suffix)).getD ""
      let field : Field :=
        { name
          type :=
            { name := some (Name.normalizeSpelling
                (context.cvQualifiers ++ " " ++ context.type.spelling ++ " " ++ suffix))
              size := layout.size, align := layout.align
              attributes :=
                (if info.any (·.derived) then [] else context.type.attributes) ++ attributes }
          bitOffset := offset, bitWidth := width }
      return { state with builder, fields := state.fields ++ [field] }) := by
  have warned {α : Type} (unknown : Bool) (className name : Option CodeText)
      (next : Unit → SessionPart α) :
      warnWidth unknown className name >>= next =
        if unknown then
          report .warning ("Bit-field width of " ++ name.getD "<anonymous>" ++ " in " ++
            className.getD "<anonymous>" ++ " is not a literal") >>= next
        else next () := by
    cases unknown <;> rfl
  simp only [warned]
  rcases name with _ | node
  · rcases clause with _ | clause <;> rfl
  · rcases missing : node.isMissing with _ | _ <;> rcases clause with _ | clause <;>
      simp only [readField, fieldName, fieldWidth, missing, Bool.false_eq_true, ↓reduceIte,
        bind_assoc, pure_bind] <;> rfl

theorem readField_agree (className : Option CodeText) (cvQualifiers : CodeText)
    (types : type.Alike twin) (name : Option SyntaxNode) (info : Option DeclaredEntity)
    (attributes : List Attribute) (clause : Option SyntaxNode) (states : state.Alike other) :
    Agree (fun a b _ => a.Alike b)
      (readField { className, cvQualifiers, type } name info attributes clause state)
      (readField { className, cvQualifiers, type := twin } name info attributes clause other)
      session := by
  rw [readField_eq, readField_eq]
  simp only [types.layout, types.attributes, states.builder]
  refine Agree.same_bind fun name _ _ => Agree.same_bind fun width _ _ => ?_
  refine Agree.same_bind fun _ _ _ => Agree.same_bind fun offset _ _ => ?_
  refine Agree.pure ⟨rfl, ?_, states.methods, states.nested⟩
  simp [states.fields, Field.untyped]

theorem readMethod_agree (scope : List CodeText) (className : Option CodeText)
    (member functionNode name : SyntaxNode) (attributes : List Attribute)
    (states : state.Alike other) :
    Agree (fun a b _ => a.Alike b)
      (readMethod scope className member functionNode name attributes state)
      (readMethod scope className member functionNode name attributes other) session := by
  refine Agree.same_bind fun method _ _ => ?_
  rcases method with _ | method
  · exact Agree.pure states
  · exact Agree.pure ⟨states.builder, states.fields, by simp [states.methods], states.nested⟩

theorem readDeclarator_agree (scope : List CodeText) (className : Option CodeText)
    (cvQualifiers : CodeText) (types : type.Alike twin) (member : SyntaxNode)
    (own : List Attribute) (isStatic : Bool) (clause : Option SyntaxNode)
    (states : state.Alike other) (node : SyntaxNode) :
    Agree (fun a b _ => a.Alike b)
      (readDeclarator scope { className, cvQualifiers, type } member own isStatic clause state node)
      (readDeclarator scope { className, cvQualifiers, type := twin } member own isStatic clause
        other node) session := by
  unfold readDeclarator
  split
  · exact readMethod_agree _ _ _ _ _ _ states
  · rw [types.layout]
    refine Agree.same_bind fun info _ _ => ?_
    rcases info.function with _ | functionNode <;> rcases info.name with _ | name <;> dsimp only
    · exact Agree.pure states
    · split
      · exact Agree.pure states
      · exact readField_agree _ _ types _ _ _ _ states
    · exact Agree.pure states
    · exact readMethod_agree _ _ _ _ _ _ states

/-! ## Members -/

theorem readDeclarators_agree (scope : List CodeText) (className : Option CodeText)
    (member : SyntaxNode) (types : type.Alike twin) (states : state.Alike other) :
    Agree (fun a b _ => a.Alike b) (readDeclarators scope className member type state)
      (readDeclarators scope className member twin other) session := by
  have started : MemberState.Alike { state with nested := state.nested ++ type.nested }
      { other with nested := other.nested ++ twin.nested } :=
    ⟨states.builder, states.fields, states.methods, by rw [states.nested, types.nested]⟩
  unfold readDeclarators
  dsimp only
  refine Agree.same_bind fun own _ _ => Agree.same_bind fun qualifiers _ _ => ?_
  rcases (member.childrenBy "declarator").getLast? with _ | last <;> dsimp only
  · rw [types.anonymous]
    split
    · exact readField_agree _ _ types _ _ _ _ started
    · exact Agree.pure started
  · refine Agree.same_bind fun isStatic _ _ => ?_
    refine Agree.bind (Agree.foldlM (fun node _ _ _ states => ?_) _ started) fun _ _ _ states => ?_
    · exact readDeclarator_agree _ _ _ types _ _ _ _ states node
    · exact readDeclarator_agree _ _ _ types _ _ _ _ states last

theorem readMember_agree (scope : List CodeText) (className : Option CodeText)
    (member : SyntaxNode) (states : state.Alike other) :
    Agree (fun a b _ => a.Alike b) (readMember scope className state member)
      (readMember scope className other member) session := by
  have same (type : SpecifiedType) : type.Alike type := ⟨rfl, rfl, rfl, rfl⟩
  rw [readMember, readMember]
  split
  · split
    · exact Agree.same_bind fun type _ _ => readDeclarators_agree _ _ _ (same type) states
    · exact Agree.same_bind fun type _ _ => readDeclarators_agree _ _ _ (same type) states
  · split
    · refine Agree.same_bind fun records _ _ => Agree.pure ?_
      exact ⟨states.builder, states.fields, states.methods, by rw [states.nested]⟩
    · split
      · exact Agree.same_bind fun _ _ _ => Agree.pure states
      · split
        · exact Agree.same_bind fun _ _ _ => Agree.pure states
        · exact Agree.pure states

theorem readMember_typed {member type : SyntaxNode} (scope : List CodeText)
    (className : Option CodeText) (state : MemberState)
    (declares : member.isMemberDeclaration = true) (found : member.child? "type" = some type) :
    readMember scope className state member = (do
      readDeclarators scope className member (← readSpecifier scope type) state) := by
  rw [readMember, if_pos declares]
  split
  · rename_i same
    cases found.symm.trans same
    rfl
  · rename_i missing
    cases found.symm.trans missing

theorem readRecord_eq (scope : List CodeText) (given : Option CodeText) {node body : SyntaxNode}
    (found : node.child? "body" = some body) :
    readRecord scope given node = (do
      let head ← recordHead scope given node
      let plan ← recordPlan scope head node body
      let state ← body.items.foldlM (readMember (head.memberScope scope) head.writtenName)
        (plan.start (← types).model)
      finishRecord plan state) := by
  rw [readRecord]
  split
  · rename_i missing
    rw [missing] at found
    cases found
  · rename_i body' found'
    cases found.symm.trans found'
    simp only [List.foldlM_subtype, List.unattach_attach]

def soundPlan (scope : List CodeText) (head : RecordHead) (node body : SyntaxNode) :
    SessionPart RecordPlan := do
  (head.entry? .unresolved false false).forM define
  let bases ← bases node scope head.defaultAccess
  let declared ← (body.items.anyM SyntaxNode.marksVirtual : Except ReadFault Bool)
  return { head, bases, dynamic := declared || bases.any fun b => b.isVirtual || b.isDynamic }

def warnErrors (errors : Bool) (head : RecordHead) : SessionPart Unit :=
  if errors then
    report .warning ("Record " ++ (Text.proper? head.qualified).getD "<anonymous>" ++ " at " ++
      head.location.file ++ ":" ++ toString head.location.line ++ " has syntax errors")
  else pure ()

theorem recordPlan_eq (scope : List CodeText) (head : RecordHead) (node body : SyntaxNode) :
    recordPlan scope head node body = (do
      warnErrors body.hasError head
      soundPlan scope head node body) := by
  unfold recordPlan warnErrors
  cases body.hasError <;> rfl

theorem synonym_eq {node name descriptor type : SyntaxNode} (scope : List CodeText)
    (name_found : node.child? "name" = some name)
    (descriptor_found : node.child? "type" = some descriptor)
    (type_found : descriptor.child? "type" = some type) :
    synonym scope node = (do
      let resolved ← readSpecifier scope type
      let info ← declarator (descriptor.child? "declarator") resolved.layout
      define
        { name := Name.qualify scope (← name.text), kind := .synonym, layout := info.layout,
          attributes := if info.derived then [] else resolved.attributes }) := by
  rw [synonym]
  split
  · rename_i other same_name same
    cases name_found.symm.trans same_name
    cases descriptor_found.symm.trans same
    split
    · rename_i same_type
      cases type_found.symm.trans same_type
      rfl
    · rename_i missing
      cases type_found.symm.trans missing
  · rename_i missing
    exact absurd descriptor_found (missing name descriptor name_found)

/-! ## Names of types -/

theorem isRecord_eq_false {node : SyntaxNode} (kind : node.isKind typeNameKinds = true) :
    node.isRecord = false := by
  have kinds : node.kind = "type_identifier" ∨ node.kind = "qualified_identifier" ∨
      node.kind = "template_type" := by
    simpa [SyntaxNode.isKind, typeNameKinds] using kind
  rcases kinds with kind | kind | kind <;> simp [SyntaxNode.isRecord, kind, recordKinds]

theorem readSpecifier_named {node : SyntaxNode} {text : CodeText} {type : KnownType}
    (scope : List CodeText) (kind : node.isKind typeNameKinds = true)
    (text_eq : node.text = .ok text)
    (found : session.types.lookup (Name.normalizeSpelling text) scope = some type) :
    (readSpecifier scope node).run session =
      (.ok { spelling := Name.normalizeSpelling text, layout := type.layout,
             attributes := type.attributes }, session) := by
  have kinds : node.kind = "type_identifier" ∨ node.kind = "qualified_identifier" ∨
      node.kind = "template_type" := by
    simpa [SyntaxNode.isKind, typeNameKinds] using kind
  have notRecord : node.isRecord = false := isRecord_eq_false kind
  have notPrimitive : node.isKind ["primitive_type", "sized_type_specifier"] = false := by
    rcases kinds with kind | kind | kind <;> simp [SyntaxNode.isKind, kind]
  have notEnumeration : (node.kind == "enum_specifier") = false := by
    rcases kinds with kind | kind | kind <;> simp [kind]
  rw [readSpecifier, run_bind]
  simp only [text_eq, plainType, namedType, notRecord, notPrimitive, notEnumeration, kind,
    Bool.false_and, Bool.false_eq_true, ↓reduceIte]
  change (resolve (Name.normalizeSpelling text) scope >>= _).run session = _
  rw [run_bind, resolve_known found]
  rfl

end SessionPart

end TypeCatalog
