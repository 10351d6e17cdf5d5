import TypeCatalog.Proofs.SecureReading
import TypeCatalog.Proofs.YieldedRecords

/-!
# Parts of a session that only look at the types

Functions, fields, bases and types that are not defined in place are looked up
and enter nothing, whether they can be read or not.  So the declarators of a
member find the same types as its specifier.
-/

namespace TypeCatalog

open Text (CodeText)

/-- Whether a type specifier enters the type that it names: a record or enumeration with a
body. -/
def SyntaxNode.isDefinedInPlace (type : SyntaxNode) : Bool :=
  (type.isRecord || type.kind == "enum_specifier") && (type.child? "body").isSome

namespace SessionPart

variable {α β : Type} {file : CodeText} {types middle after : KnownTypes} {part : SessionPart α}
  {next : α → SessionPart β} {scope : List CodeText}

/-! ## What parts come to -/

theorem ComesTo.bind {a : α} {result : Except SessionFault β}
    (first : part.ComesTo file types (.ok a) middle)
    (rest : (next a).ComesTo file middle result after) :
    (part >>= next).ComesTo file types result after := by
  intro reports
  obtain ⟨later, ran⟩ := first reports
  rw [run_bind, ran]
  exact rest later

theorem ComesTo.fails {fault : SessionFault}
    (failed : part.ComesTo file types (.error fault) after) :
    (part >>= next).ComesTo file types (.error fault) after := by
  intro reports
  obtain ⟨later, ran⟩ := failed reports
  exact ⟨later, by rw [run_bind, ran]⟩

theorem ComesTo.result_eq {result : Except SessionFault α} {session : Session}
    (ran : part.ComesTo session.file session.types result after) :
    (part.run session).1 = result := by
  obtain ⟨later, ran⟩ := ran session.reports
  rw [ran]

/-! ## Rules -/

/-- A part of a session that leaves the known types as they are, also when it fails, and goes
by nothing that was reported. -/
def Looks (part : SessionPart α) : Prop :=
  ∀ file types, ∃ result, part.ComesTo file types result types

theorem Looks.pure (a : α) : Looks (pure a) :=
  fun _ _ => ⟨.ok a, fun reports => ⟨reports, rfl⟩⟩

theorem Looks.bind (first : Looks part) (rest : ∀ a, Looks (next a)) : Looks (part >>= next) := by
  intro file types
  obtain ⟨result, ran⟩ := first file types
  cases result with
  | error fault => exact ⟨.error fault, ran.fails⟩
  | ok a =>
      obtain ⟨result, went⟩ := rest a file types
      exact ⟨result, ran.bind went⟩

theorem Looks.reading (reading : Except ReadFault α) : Looks (liftM reading) :=
  fun _ _ => ⟨reading.mapError .node, fun reports => ⟨reports, rfl⟩⟩

theorem Looks.placing (placing : Except LayoutFault α) : Looks (liftM placing) :=
  fun _ _ => ⟨placing.mapError .layout, fun reports => ⟨reports, rfl⟩⟩

theorem Looks.composes : Composes fun α (part : SessionPart α) => Looks part where
  pure := .pure
  bind := .bind

/-! ## Steps of a session -/

theorem report_looks (level : Level) (message channel : CodeText) :
    Looks (report level message channel) :=
  fun _ _ => ⟨.ok (), fun reports => ⟨reports.push _, rfl⟩⟩

theorem types_looks : Looks SessionPart.types :=
  fun _ table => ⟨.ok table, fun reports => ⟨reports, rfl⟩⟩

theorem location_looks (node : SyntaxNode) : Looks (location node) :=
  fun file _ => ⟨.ok ⟨file, node.line⟩, fun reports => ⟨reports, rfl⟩⟩

theorem resolve_looks (spelling : CodeText) (scope : List CodeText) :
    Looks (resolve spelling scope) := by
  have found : Looks (do return (← SessionPart.types).resolve spelling scope) :=
    types_looks.bind fun table => .pure _
  unfold resolve
  refine types_looks.bind fun table => ?_
  dsimp only
  split
  · exact (report_looks _ _ _).bind fun _ => found
  · exact found

/-! ## Declarators and functions -/

theorem declaredBy_looks (declared name : Option SyntaxNode) (chain : DeclaratorChain) :
    Looks (declaredBy declared name chain) := by
  have ended : Looks (do
      let suffix ← (textAroundName declared name : Except ReadFault CodeText)
      return ({ name, suffix, layout := chain.layout, function := chain.function,
                derived := chain.derived, attributes := chain.attributes } : DeclaredEntity)) :=
    (Looks.reading _).bind fun _ => .pure _
  unfold declaredBy
  dsimp only
  split
  · exact (report_looks _ _ _).bind fun _ => ended
  · exact ended

theorem declarator_looks (declared : Option SyntaxNode) (base : Layout) :
    Looks (declarator declared base) := by
  refine types_looks.bind fun table => ?_
  cases declared with
  | none => exact declaredBy_looks none none { layout := base }
  | some node =>
      refine (Looks.reading _).bind ?_
      intro found
      exact declaredBy_looks (some node) found.1 found.2

theorem readParameter_looks (list : ParameterList) (node : SyntaxNode) :
    Looks (readParameter scope list node) := by
  unfold readParameter
  refine (Looks.reading _).bind fun text => ?_
  dsimp only
  split
  · exact .pure _
  refine (resolve_looks _ _).bind fun found => (declarator_looks _ _).bind fun info => ?_
  refine (Looks.reading _).bind fun qualifiers => (Looks.reading _).bind fun name => ?_
  exact (Looks.reading _).bind fun own => .pure _

theorem parameters_looks (list : Option SyntaxNode) : Looks (parameters scope list) := by
  cases list with
  | none => exact .pure _
  | some node =>
      refine Looks.composes.foldlM (fun child _ list => ?_) _
      split
      · exact .pure _
      split
      · exact readParameter_looks _ _
      · exact .pure _

theorem isKnownMember_looks (name : CodeText) : Looks (isKnownMember scope name) := by
  refine types_looks.bind fun table => ?_
  split <;> exact .pure _

theorem function_looks (declaration functionNode nameNode : SyntaxNode)
    (className : Option CodeText) (externC : Bool) (outer : List Attribute) :
    Looks (function declaration functionNode nameNode scope className externC outer) := by
  have rest (finish : FunctionTraits → List Attribute → List Attribute → ParameterList →
      Location → Option Function) : Looks (do
        let written ←
          (FunctionTraits.written className.isSome declaration functionNode : Except ReadFault _)
        let own ← declaration.attributes
        let attributes ← functionNode.attributes
        let list ← parameters scope (functionNode.child? "parameters")
        let place ← location nameNode
        return finish written own attributes list place) := by
    refine (Looks.reading _).bind fun _ => (Looks.reading _).bind fun _ => ?_
    refine (Looks.reading _).bind fun _ => (parameters_looks _).bind fun list => ?_
    exact (location_looks _).bind fun place => .pure _
  unfold function
  refine (Looks.reading _).bind fun name => ?_
  dsimp only
  split
  · refine (isKnownMember_looks _).bind fun known => ?_
    split
    · exact (report_looks _ _ _).bind fun _ => .pure _
    · exact rest _
  · exact rest _

/-! ## Members -/

theorem fieldName_looks (name : Option SyntaxNode) : Looks (fieldName name) := by
  cases name with
  | none => exact .pure none
  | some node =>
      unfold fieldName
      dsimp only
      split
      · exact .pure none
      · exact (Looks.reading _).bind fun text => .pure _

theorem fieldWidth_looks (clause : Option SyntaxNode) : Looks (fieldWidth clause) := by
  cases clause with
  | none => exact .pure none
  | some clause => exact .reading _

theorem warnWidth_looks (unknown : Bool) (className name : Option CodeText) :
    Looks (warnWidth unknown className name) := by
  cases unknown
  · exact .pure ()
  · exact report_looks _ _ _

theorem readField_looks (context : FieldContext) (name : Option SyntaxNode)
    (info : Option DeclaredEntity) (attributes : List Attribute) (clause : Option SyntaxNode)
    (state : MemberState) : Looks (readField context name info attributes clause state) := by
  rw [readField_eq]
  refine (fieldName_looks name).bind fun name => (fieldWidth_looks clause).bind fun width => ?_
  refine (warnWidth_looks _ _ _).bind fun _ => ?_
  exact (Looks.placing _).bind fun offset => .pure _

theorem readMethod_looks (className : Option CodeText) (member functionNode name : SyntaxNode)
    (attributes : List Attribute) (state : MemberState) :
    Looks (readMethod scope className member functionNode name attributes state) := by
  refine (function_looks _ _ _ _ _ _).bind fun method => ?_
  cases method <;> exact .pure _

theorem readDeclarator_looks (context : FieldContext) (member : SyntaxNode)
    (own : List Attribute) (isStatic : Bool) (clause : Option SyntaxNode) (state : MemberState)
    (node : SyntaxNode) :
    Looks (readDeclarator scope context member own isStatic clause state node) := by
  unfold readDeclarator
  split
  · exact readMethod_looks _ _ _ _ _ _
  refine (declarator_looks _ _).bind fun info => ?_
  split
  · exact readMethod_looks _ _ _ _ _ _
  · split
    · exact .pure state
    · exact readField_looks _ _ _ _ _ _
  · exact .pure state

theorem readDeclarators_looks (className : Option CodeText) (member : SyntaxNode)
    (type : SpecifiedType) (state : MemberState) :
    Looks (readDeclarators scope className member type state) := by
  unfold readDeclarators
  refine (Looks.reading _).bind fun own => (Looks.reading _).bind fun qualifiers => ?_
  dsimp only
  split
  · split
    · exact readField_looks _ _ _ _ _ _
    · exact .pure _
  · refine (Looks.reading _).bind fun isStatic => ?_
    exact (Looks.composes.foldlM (fun node _ state => readDeclarator_looks _ _ _ _ _ _ _) _).bind
      fun state => readDeclarator_looks _ _ _ _ _ _ _

/-! ## Types that are not defined in place -/

theorem namedType_looks (spelling name : CodeText) : Looks (namedType scope spelling name) :=
  (resolve_looks name scope).bind fun _ => .pure _

theorem plainType_looks {node : SyntaxNode} (spelling : CodeText)
    (apart : node.isDefinedInPlace = false) : Looks (plainType scope spelling node) := by
  unfold plainType
  split
  · exact types_looks.bind fun table => .pure _
  split
  · split
    · exact .pure _
    · exact (Looks.reading _).bind fun text => namedType_looks _ _
  split
  · rename_i enumeration
    split
    · rename_i body
      simp [SyntaxNode.isDefinedInPlace, enumeration, body] at apart
    · exact (Looks.reading _).bind fun text => (resolve_looks _ _).bind fun _ => .pure _
  split
  · exact namedType_looks _ _
  · exact (report_looks _ _ _).bind fun _ => .pure _

theorem readSpecifier_plain {node : SyntaxNode} (scope : List CodeText)
    (apart : node.isDefinedInPlace = false) :
    readSpecifier scope node = (do
      plainType scope (Name.normalizeSpelling (← node.text)) node) := by
  have undefined : (node.isRecord && (node.child? "body").isSome) = false := by
    cases record : node.isRecord
    · rfl
    · simpa [SyntaxNode.isDefinedInPlace, record] using apart
  rw [readSpecifier]
  simp only [undefined, Bool.false_eq_true, ↓reduceIte]

theorem readSpecifier_looks {node : SyntaxNode} (apart : node.isDefinedInPlace = false) :
    Looks (readSpecifier scope node) := by
  rw [readSpecifier_plain scope apart]
  exact (Looks.reading _).bind fun text => plainType_looks _ apart

theorem readSpecifier_gives_none {node : SyntaxNode} (apart : node.isDefinedInPlace = false) :
    Gives (readSpecifier scope node) fun type => type.nested = [] := by
  rw [readSpecifier_plain scope apart]
  exact .after fun text => plainType_gives _ _ _

theorem readRecord_single {node body member type : SyntaxNode} (scope : List CodeText)
    (given : Option CodeText) (found : node.child? "body" = some body)
    (items_eq : body.items = [member]) (declares : member.isMemberDeclaration = true)
    (typed : member.child? "type" = some type) (apart : type.isDefinedInPlace = false) :
    readRecord scope given node = (do
      let head ← recordHead scope given node
      let plan ← recordPlan scope head node body
      let table ← SessionPart.types
      let type ← plainType (head.memberScope scope) (Name.normalizeSpelling (← type.text)) type
      let state ← readDeclarators (head.memberScope scope) head.writtenName member type
        (plan.start table.model)
      finishRecord plan state) := by
  rw [readRecord_eq scope given found, items_eq]
  simp only [List.foldlM_cons, List.foldlM_nil, bind_pure, bind_assoc,
    readMember_typed _ _ _ declares typed, readSpecifier_plain _ apart]

/-! ## Bases and heads of records -/

theorem closeBase_looks (record : SyntaxNode) (access : Access) (bases : List KnownBase)
    (specifier : BaseSpecifier) : Looks (closeBase record scope access bases specifier) := by
  unfold closeBase
  split
  · exact .pure _
  refine (Looks.reading _).bind fun text => (resolve_looks _ _).bind fun found => ?_
  dsimp only
  split
  · exact (Looks.reading _).bind fun name => (report_looks _ _ _).bind fun _ => .pure _
  · exact .pure _

theorem readBaseNode_looks (record : SyntaxNode) (access : Access)
    (state : List KnownBase × BaseSpecifier) (node : SyntaxNode) :
    Looks (readBaseNode record scope access state node) := by
  obtain ⟨bases, specifier⟩ := state
  unfold readBaseNode
  dsimp only
  split
  · exact (closeBase_looks _ _ _ _).bind fun _ => .pure _
  split
  · exact .pure _
  refine (Looks.reading _).bind fun text => ?_
  split
  · split
    · exact .pure _
    · exact (report_looks _ _ _).bind fun _ => .pure _
  split
  · exact .pure _
  split <;> exact .pure _

theorem bases_looks (record : SyntaxNode) (access : Access) :
    Looks (bases record scope access) := by
  unfold bases
  split
  · exact .pure _
  · exact (Looks.composes.foldlM (fun node _ state => readBaseNode_looks _ _ _ _) _).bind
      fun state => closeBase_looks _ _ _ _

theorem recordHead_looks (scope : List CodeText) (given : Option CodeText) (node : SyntaxNode) :
    Looks (recordHead scope given node) := by
  have rest (writtenName : Option CodeText) : Looks (do
      return {
        kind := (recordKinds.lookup node.kind).getD ""
        writtenName
        qualified := (Text.proper? writtenName).map (Name.qualify scope)
        attributes := ← node.attributes
        location := ← location ((node.child? "name").getD node) : RecordHead }) :=
    (Looks.reading _).bind fun attributes => (location_looks _).bind fun place => .pure _
  unfold recordHead
  dsimp only
  split
  · exact (Looks.reading _).bind fun text => rest _
  · exact rest _

theorem givenName_looks (record : SyntaxNode) (declarators : List SyntaxNode) :
    Looks (givenName record declarators) := by
  unfold givenName
  split
  · refine (declarator_looks _ _).bind fun info => ?_
    split
    · split
      · exact .pure _
      · exact (Looks.reading _).bind fun text => .pure _
    · exact .pure _
  · exact .pure _

/-! ## Items -/

theorem declaredFunction_looks (item : Item) (declared : Option SyntaxNode) :
    Looks (declaredFunction item declared) := by
  refine (declarator_looks _ _).bind fun info => ?_
  split
  · exact function_looks _ _ _ _ _ _
  dsimp only
  split
  · exact (report_looks _ _ _).bind fun _ => .pure _
  · exact .pure _

end SessionPart

end TypeCatalog
