import TypeCatalog.Proofs.BaseReading
import TypeCatalog.Proofs.MemberReading

/-!
# Synonyms of records

A synonym carries the layout and the attributes of its record, and neither of
its flags.  A record keeps its layout when the type of a member, or a base, is
a synonym instead of the record itself, unless the base is not virtual and the
record is dynamic or empty.
-/

namespace TypeCatalog

open Text (CodeText)

/-! ## Registering synonyms -/

theorem DeclaratorChain.apply_underived {chain next : DeclaratorChain} {pointer : Layout}
    {node : SyntaxNode} (applied : chain.apply pointer node = .ok next)
    (underived : next.derived = false) : chain.derived = false ∧ next.layout = chain.layout := by
  unfold apply at applied
  split at applied
  · cases applied
    cases underived
  split at applied
  · cases applied
    cases underived
  split at applied
  · rcases count : node.elementCount with fault | count
    · rw [count] at applied
      cases applied
    · rw [count] at applied
      cases applied
      cases underived
  split at applied
  · rcases attributes : node.attributes with fault | attributes
    · rw [attributes] at applied
      cases applied
    · rw [attributes] at applied
      cases applied
      exact ⟨underived, rfl⟩
  split at applied
  · cases applied
    exact ⟨underived, rfl⟩
  · cases applied
    exact ⟨underived, rfl⟩

theorem DeclaratorChain.follow_underived {chain next : DeclaratorChain} {pointer : Layout}
    {node : SyntaxNode} {name : Option SyntaxNode}
    (followed : chain.follow pointer node = .ok (name, next)) (underived : next.derived = false) :
    chain.derived = false ∧ next.layout = chain.layout := by
  induction chain, node using follow.induct with
  | case1 chain node named =>
      rw [follow, if_pos named] at followed
      cases followed
      exact ⟨underived, rfl⟩
  | case2 chain node unnamed ih =>
      rw [follow, if_neg unnamed] at followed
      rcases applied : chain.apply pointer node with fault | middle
      · rw [applied] at followed
        cases followed
      · rw [applied] at followed
        have first {last : DeclaratorChain}
            (kept : middle.derived = false ∧ last.layout = middle.layout) :
            chain.derived = false ∧ last.layout = chain.layout := by
          have step := apply_underived applied kept.1
          exact ⟨step.1, kept.2.trans step.2⟩
        simp only [bind, Except.bind] at followed
        split at followed
        · cases followed
          exact first ⟨underived, rfl⟩
        · rename_i inner found
          exact first (ih middle inner found followed)

namespace SessionPart

variable {session : Session} {scope : List CodeText} {record : KnownType}

theorem declarator_underived {node : SyntaxNode} {base : Layout} {info : DeclaredEntity}
    {after : Session} (ran : (declarator (some node) base).run session = (.ok info, after))
    (underived : info.derived = false) :
    info.layout = base ∧ after.types = session.types := by
  have table : types.run session = (.ok session.types, session) := rfl
  simp only [declarator, run_bind, table, run_reading] at ran
  rcases followed : DeclaratorChain.follow { layout := base } session.types.pointer node with
    fault | ⟨name, chain⟩
  · rw [followed] at ran
    cases ran
  · simp only [followed, Except.mapError] at ran
    have given (suffix : CodeText) (after ending : Session) (kept : after.types = session.types)
        (result : ((.ok ⟨name, chain.layout, suffix, chain.function, chain.derived,
          chain.attributes⟩, after) : Except SessionFault DeclaredEntity × Session) =
            (.ok info, ending)) :
        info.layout = base ∧ ending.types = session.types := by
      cases result
      exact ⟨(DeclaratorChain.follow_underived followed underived).2, kept⟩
    rcases around : textAroundName (some node) name with fault | suffix <;>
      rcases unhandled : chain.unhandled with _ | kind <;>
      simp only [unhandled, around, run_bind, run_reading, Except.mapError] at ran
    · cases ran
    · cases ran
    · exact given suffix session after rfl ran
    · refine given suffix _ after ?_ ran
      rfl

theorem declarator_name {node : SyntaxNode} {suffix : CodeText} (base : Layout)
    (named : node.isKind nameKinds = true)
    (around : textAroundName (some node) (some node) = .ok suffix) :
    (declarator (some node) base).run session =
      (.ok ⟨some node, base, suffix, none, false, []⟩, session) := by
  have followed (chain : DeclaratorChain) (pointer : Layout) :
      chain.follow pointer node = .ok (some node, chain) := by
    rw [DeclaratorChain.follow, if_pos named]
    rfl
  simp only [declarator, run_bind, run_types, run_reading, followed, Except.mapError, around]
  rfl

theorem synonym_registers {node name descriptor type : SyntaxNode} {text spelled : CodeText}
    (name_found : node.child? "name" = some name)
    (descriptor_found : node.child? "type" = some descriptor)
    (type_found : descriptor.child? "type" = some type)
    (plain : descriptor.child? "declarator" = none) (text_eq : name.text = .ok text)
    (kind : type.isKind typeNameKinds = true) (spelled_eq : type.text = .ok spelled)
    (found : session.types.lookup (Name.normalizeSpelling spelled) scope = some record) :
    (synonym scope node).run session =
      (define (record.synonym (Name.qualify scope text))).run session := by
  have reading := readSpecifier_named scope kind spelled_eq found
  have declared : (declarator none record.layout).run session =
      (.ok ⟨none, record.layout, "", none, false, []⟩, session) := rfl
  rw [synonym_eq scope name_found descriptor_found type_found, run_bind, reading, plain]
  simp only [run_bind, declared, run_reading, text_eq, Except.mapError, Bool.false_eq_true,
    ↓reduceIte]
  rfl

theorem typeDefinition_registers {node type declared name : SyntaxNode} {text spelled : CodeText}
    {info : DeclaredEntity} {middle : Session} (type_found : node.child? "type" = some type)
    (kind : type.isKind typeNameKinds = true) (spelled_eq : type.text = .ok spelled)
    (found : session.types.lookup (Name.normalizeSpelling spelled) scope = some record)
    (declarators : node.childrenBy "declarator" = [declared])
    (declares : (declarator (some declared) record.layout).run session = (.ok info, middle))
    (underived : info.derived = false) (named : info.name = some name)
    (text_eq : name.text = .ok text) :
    middle.types = session.types ∧
      (typeDefinition scope node).run session =
        (do define (record.synonym (Name.qualify scope text)); return []).run middle := by
  obtain ⟨layout_eq, kept⟩ := declarator_underived declares underived
  refine ⟨kept, ?_⟩
  have reading := readSpecifier_named scope kind spelled_eq found
  have notRecord : type.isRecord = false := isRecord_eq_false kind
  have registered : (synonyms scope record.layout record.attributes [declared]).run session =
      (define (record.synonym (Name.qualify scope text))).run middle := by
    change ((declarator (some declared) record.layout >>= _) >>= fun _ => pure ()).run session = _
    obtain ⟨after, entered, -⟩ := @run_define middle (record.synonym (Name.qualify scope text))
    rw [entered]
    simp only [KnownType.synonym] at entered
    simp only [run_bind, declares, named, run_reading, text_eq, Except.mapError, underived,
      layout_eq, Bool.false_eq_true, ↓reduceIte, entered]
    rfl
  rw [typeDefinition]
  split
  · rename_i missing
    cases type_found.symm.trans missing
  · rename_i same
    cases type_found.symm.trans same
    simp only [notRecord, Bool.false_and, Bool.false_eq_true, ↓reduceIte, run_bind, reading,
      declarators, registered]

end SessionPart

/-! ## Definitions that differ in a name -/

structure SyntaxNode.SameHead (first second : SyntaxNode) : Prop where
  kind : first.kind = second.kind
  name : first.child? "name" = second.child? "name"
  attributes : first.attributes = second.attributes
  line : first.line = second.line

structure SyntaxNode.SameMember (first second : SyntaxNode) : Prop where
  reads : ∀ scope className state,
    SessionPart.readMember scope className state first =
      SessionPart.readMember scope className state second
  virtual : first.marksVirtual = second.marksVirtual

structure SyntaxNode.RetypedMember (first second type twin : SyntaxNode) : Prop where
  declares : first.isMemberDeclaration = true
  twin_declares : second.isMemberDeclaration = true
  type : first.child? "type" = some type
  twin_type : second.child? "type" = some twin
  reads : ∀ scope className type state,
    SessionPart.readDeclarators scope className first type state =
      SessionPart.readDeclarators scope className second type state
  virtual : first.marksVirtual = second.marksVirtual

def RecordHead.declared (head : RecordHead) (table : KnownTypes) : KnownTypes :=
  ((head.entry? .unresolved false false).map table.define).getD table

/-- Records of the same layout: their sizes and fields are the same, apart from how the types
of fields are spelled. -/
structure Record.SameLayout (first second : Record) : Prop where
  size : first.size = second.size
  align : first.align = second.align
  fields : first.fields.items.map Field.untyped = second.fields.items.map Field.untyped

/-! ## Exchanging the type of a member -/

structure SyntaxNode.SameDeclaration (first second : SyntaxNode) : Prop where
  kind : first.kind = second.kind
  attributes : first.attributes = second.attributes
  qualifiers : first.cvQualifiers = second.cvQualifiers
  width : first.widthClause? = second.widthClause?
  declarators : first.childrenBy "declarator" = second.childrenBy "declarator"
  storage : first.hasStorageClass "static" = second.hasStorageClass "static"
  traits : ∀ isMethod function,
    FunctionTraits.written isMethod first function = FunctionTraits.written isMethod second function

theorem SyntaxNode.SameDeclaration.readDeclarators_eq {first second : SyntaxNode}
    (same : first.SameDeclaration second) (scope : List CodeText) (className : Option CodeText)
    (type : SpecifiedType) (state : MemberState) :
    SessionPart.readDeclarators scope className first type state =
      SessionPart.readDeclarators scope className second type state := by
  have functions : SessionPart.function first = SessionPart.function second := by
    funext
    simp only [SessionPart.function, same.traits, same.attributes]
  have declarators (context : FieldContext) :
      SessionPart.readDeclarator scope context first =
        SessionPart.readDeclarator scope context second := by
    funext
    simp only [SessionPart.readDeclarator, SessionPart.readMethod, functions, same.kind]
  simp only [SessionPart.readDeclarators, same.attributes, same.qualifiers, same.width,
    same.declarators, same.storage, declarators]

structure SyntaxNode.IsTypeName (node : SyntaxNode) : Prop where
  kind : node.isKind typeNameKinds = true
  named : node.isNamed = true
  field : node.data.field = "type"

theorem SyntaxNode.IsTypeName.kind_ne {node : SyntaxNode} (name : node.IsTypeName) {kind : String}
    (apart : kind ∉ typeNameKinds) : (node.kind == kind) = false := by
  refine beq_false_of_ne fun same => apart ?_
  rw [← same]
  exact List.contains_iff_mem.mp name.kind

theorem SyntaxNode.IsTypeName.isKind_eq_false {node : SyntaxNode} (name : node.IsTypeName)
    {kinds : List String} (apart : ∀ kind ∈ kinds, kind ∉ typeNameKinds) :
    node.isKind kinds = false := by
  rw [isKind, List.contains_eq_mem, decide_eq_false_iff_not]
  exact fun mem => apart _ mem (List.contains_iff_mem.mp name.kind)

section Exchange

variable {data other : NodeData} {front back : List SyntaxNode} {type synonym : SyntaxNode}

theorem anyM_exchange {p : SyntaxNode → Except ReadFault Bool} (skips : p type = .ok false)
    (skips_synonym : p synonym = .ok false) :
    (front ++ type :: back).anyM p = (front ++ synonym :: back).anyM p := by
  induction front with
  | nil => simp only [List.nil_append, List.anyM, skips, skips_synonym]
  | cons node rest ih => simp only [List.cons_append, List.anyM, ih]

theorem foldlM_exchange {α : Type} {step : α → SyntaxNode → Except ReadFault α}
    (skips : ∀ a, step a type = .ok a) (skips_synonym : ∀ a, step a synonym = .ok a) (start : α) :
    (front ++ type :: back).foldlM step start = (front ++ synonym :: back).foldlM step start := by
  simp only [List.foldlM_append, List.foldlM_cons, skips, skips_synonym]

theorem SyntaxNode.sameDeclaration_exchange (kind : data.kind = other.kind)
    (name : type.IsTypeName) (synonym_name : synonym.IsTypeName) :
    SameDeclaration (.mk data (front ++ type :: back)) (.mk other (front ++ synonym :: back)) := by
  -- no reading of the declaration but that of its type stops at the name of a type
  have filters (p : SyntaxNode → Bool)
      (skips : ∀ node : SyntaxNode, node.IsTypeName → p node = false) :
      (SyntaxNode.mk data (front ++ type :: back)).children.filter p =
        (SyntaxNode.mk other (front ++ synonym :: back)).children.filter p := by
    simp [children, skips type name, skips synonym synonym_name]
  have finds (p : SyntaxNode → Bool)
      (skips : ∀ node : SyntaxNode, node.IsTypeName → p node = false) :
      (SyntaxNode.mk data (front ++ type :: back)).children.find? p =
        (SyntaxNode.mk other (front ++ synonym :: back)).children.find? p := by
    simp [children, skips type name, skips synonym synonym_name]
  have ofKind (kind : String) (apart : kind ∉ typeNameKinds) :=
    filters (·.kind == kind) fun node held => held.kind_ne apart
  refine ⟨kind, ?_, ?_, ?_, ?_, ?_, ?_⟩
  · rw [attributes, ofKind _ (by decide), attributes]
  · rw [cvQualifiers, ofKind _ (by decide), cvQualifiers]
  · rw [widthClause?, widthClause?, childOfKind?, childOfKind?,
      finds (·.kind == "bitfield_clause") fun node held => held.kind_ne (by decide),
      filters (·.isError) fun node held => held.kind_ne (by decide)]
  · exact filters _ fun node held => by simp [held.field]
  · have skips (node : SyntaxNode) (held : node.IsTypeName) := held.kind_ne
      (by decide : "storage_class_specifier" ∉ typeNameKinds)
    apply anyM_exchange <;> simp only [skips _ name, skips _ synonym_name, Bool.false_eq_true,
      ↓reduceIte] <;> rfl
  · intro isMethod function
    have skips (node : SyntaxNode) (held : node.IsTypeName) (flags : FunctionTraits) :
        FunctionTraits.addSpecifier isMethod flags node = .ok flags := by
      have plain : node.isKind specifierKinds = false := held.isKind_eq_false (by decide)
      have kept : (node.kind == "delete_method_clause") = false := held.kind_ne (by decide)
      simp only [FunctionTraits.addSpecifier, kept, held.named, plain, Bool.false_eq_true,
        ↓reduceIte, Bool.not_false, Bool.and_self]
      rfl
    simp only [FunctionTraits.written, children,
      foldlM_exchange (skips type name) (skips synonym synonym_name)]

theorem SyntaxNode.retypedMember_exchange (kind : data.kind = other.kind)
    (declares : (SyntaxNode.mk data (front ++ type :: back)).isMemberDeclaration = true)
    (first : ∀ node ∈ front, node.data.field ≠ "type")
    (name : type.IsTypeName) (synonym_name : synonym.IsTypeName) :
    RetypedMember (.mk data (front ++ type :: back)) (.mk other (front ++ synonym :: back))
      type synonym := by
  have typed (node : SyntaxNode) (data : NodeData) (held : node.IsTypeName) :
      (SyntaxNode.mk data (front ++ node :: back)).child? "type" = some node := by
    have none_before : front.find? (·.data.field == "type") = none := by
      simpa using first
    simp [child?, children, none_before, held.field]
  have same := @sameDeclaration_exchange data other front back type synonym kind name synonym_name
  refine ⟨declares, ?_, typed type data name, typed synonym other synonym_name,
    same.readDeclarators_eq, ?_⟩
  · rwa [isMemberDeclaration, isKind, ← same.kind]
  · have declares_eq : (SyntaxNode.mk other (front ++ synonym :: back)).isMemberDeclaration =
        (SyntaxNode.mk data (front ++ type :: back)).isMemberDeclaration := by
      rw [isMemberDeclaration, isMemberDeclaration, isKind, isKind, same.kind]
    have plain (node : SyntaxNode) (held : node.IsTypeName) : node.isKind virtualKinds = false :=
      held.isKind_eq_false (by decide)
    simp only [marksVirtual, declares_eq, same.declarators, children]
    rw [anyM_exchange] <;> simp only [plain _ name, plain _ synonym_name, name.named,
      synonym_name.named, Bool.false_eq_true, ↓reduceIte] <;> rfl

end Exchange

/-! ## Layouts -/

namespace SessionPart

variable {session : Session} {scope : List CodeText} {given : Option CodeText} {record : KnownType}
  {table : KnownTypes} {first second body other : SyntaxNode} {head : RecordHead}

theorem recordHead_eq (heads : first.SameHead second) :
    recordHead scope given first = recordHead scope given second := by
  have places : location first = location second := by
    unfold location
    rw [heads.line]
  unfold recordHead
  simp only [heads.name, heads.attributes, heads.kind]
  rcases second.child? "name" with _ | name
  · simp only [Option.getD_none, places]
  · rfl

/-- A base clause with the names of synonyms gives bases of the same shapes, unless a flag of
the record counts. -/
theorem shapes_agree (name_eq : first.child? "name" = second.child? "name") (access : Access)
    {clause twin : SyntaxNode} (found : first.childOfKind? "base_class_clause" = some clause)
    (twin_found : second.childOfKind? "base_class_clause" = some twin)
    (nodes : List.Forall₂ (BaseNode table scope record) clause.children twin.children)
    (types_eq : session.types = table)
    (spared : record.dynamic = false ∧ record.empty = false ∨ ∀ known after,
      (bases first scope access).run session = (.ok known, after) →
      ∀ base ∈ known, base.entry = some record → base.isVirtual = true) :
    Agree (fun a b _ => a.map KnownBase.shape = b.map KnownBase.shape) (bases first scope access)
      (bases second scope access) session := by
  refine (bases_agree name_eq access found twin_found nodes types_eq).mono
    fun known twins after ran related => ?_
  refine shapes_eq related.1 fun base mem renamed => ?_
  rcases spared with unflagged | virtual
  · exact .inr unflagged
  · exact .inl (virtual _ _ ran base mem renamed)

theorem finishRecord_result (plan : RecordPlan) (state : MemberState) :
    ((finishRecord plan state).run session).1 =
      .ok { record := plan.complete (plan.finish state).finish state, nested := state.nested } := by
  obtain ⟨after, entered, -⟩ := @run_defineAny session
    (plan.head.entry? (plan.finish state).finish plan.dynamic (plan.isEmpty (plan.finish state)))
  simp only [finishRecord, run_bind, entered]
  rfl

theorem finishRecord_sameLayout {plan twin : RecordPlan} {state counterpart : MemberState}
    {later : Session} (states : state.Alike counterpart)
    (shapes : plan.bases.map KnownBase.shape = twin.bases.map KnownBase.shape) :
    SameResult (fun a b => a.record.SameLayout b.record) ((finishRecord plan state).run session).1
      ((finishRecord twin counterpart).run later).1 := by
  rw [finishRecord_result, finishRecord_result,
    RecordPlan.finish_eq_of_shapes shapes states.builder]
  exact .ok ⟨rfl, rfl, states.fields⟩

structure PlansAgree (plan twin : RecordPlan) : Prop where
  head : plan.head = twin.head
  dynamic : plan.dynamic = twin.dynamic
  shapes : plan.bases.map KnownBase.shape = twin.bases.map KnownBase.shape

theorem anyM_marksVirtual {items twins : List SyntaxNode}
    (same : List.Forall₂ (fun a b : SyntaxNode => a.marksVirtual = b.marksVirtual) items twins) :
    items.anyM SyntaxNode.marksVirtual = twins.anyM SyntaxNode.marksVirtual := by
  induction same with
  | nil => rfl
  | cons head _ ih => simp only [List.anyM, head, ih]

theorem any_dynamic_eq (bases : List KnownBase) :
    (bases.any fun b => b.isVirtual || b.isDynamic) =
      (bases.map KnownBase.shape).any fun shape => shape.virtual || shape.dynamic := by
  rw [List.any_map]
  congr 1
  funext known
  cases virtual : known.isVirtual <;> simp [KnownBase.shape, virtual]

theorem types_of_warnErrors {errors : Bool} {after : Session}
    (ran : (warnErrors errors head).run session = (.ok (), after)) :
    after.types = session.types := by
  cases errors with
  | false =>
      cases ran
      rfl
  | true => exact types_of_report ran

theorem soundPlan_agree
    (virtual : List.Forall₂ (fun a b : SyntaxNode => a.marksVirtual = b.marksVirtual)
      body.items other.items)
    (bases : ∀ session : Session, session.types = table →
      Agree (fun a b _ => a.map KnownBase.shape = b.map KnownBase.shape)
        (bases first scope head.defaultAccess) (SessionPart.bases second scope head.defaultAccess)
        session)
    (types_eq : head.declared session.types = table) :
    Agree (fun a b _ => PlansAgree a b) (soundPlan scope head first body)
      (soundPlan scope head second other) session := by
  unfold soundPlan
  rw [anyM_marksVirtual virtual]
  refine Agree.same_bind fun _ after ran => ?_
  obtain ⟨_, entered, declared⟩ := @run_defineAny session (head.entry? .unresolved false false)
  rw [entered] at ran
  cases ran
  refine Agree.bind (bases _ (declared.trans types_eq)) fun read twins _ shapes => ?_
  refine Agree.same_bind fun virtual _ _ => Agree.pure ⟨rfl, ?_, shapes⟩
  simp only [any_dynamic_eq, shapes]

theorem recordPlan_agree
    (errors : body.hasError = other.hasError)
    (virtual : List.Forall₂ (fun a b : SyntaxNode => a.marksVirtual = b.marksVirtual)
      body.items other.items)
    (bases : ∀ session : Session, session.types = table →
      Agree (fun a b _ => a.map KnownBase.shape = b.map KnownBase.shape)
        (bases first scope head.defaultAccess) (SessionPart.bases second scope head.defaultAccess)
        session)
    (types_eq : head.declared session.types = table) :
    Agree (fun a b _ => PlansAgree a b) (recordPlan scope head first body)
      (recordPlan scope head second other) session := by
  simp only [recordPlan_eq, errors]
  refine Agree.same_bind fun _ after ran => soundPlan_agree virtual bases ?_
  rw [types_of_warnErrors ran, types_eq]

theorem types_of_soundPlan {plan : RecordPlan} {after : Session}
    (ran : (soundPlan scope head first body).run session = (.ok plan, after)) :
    after.types = head.declared session.types := by
  obtain ⟨entered, defined, declared⟩ :=
    @run_defineAny session (head.entry? .unresolved false false)
  rw [soundPlan, run_bind, defined] at ran
  dsimp only at ran
  rcases read : (bases first scope head.defaultAccess).run entered with ⟨fault | known, later⟩
  · rw [run_bind, read] at ran
    cases ran
  · rw [run_bind, read] at ran
    dsimp only at ran
    rw [run_bind, run_reading] at ran
    rcases marked : body.items.anyM SyntaxNode.marksVirtual with fault | virtual
    · rw [marked] at ran
      cases ran
    · rw [marked] at ran
      cases ran
      rw [types_of_bases read, declared]
      rfl

theorem types_of_recordPlan {plan : RecordPlan} {after : Session}
    (ran : (recordPlan scope head first body).run session = (.ok plan, after)) :
    after.types = head.declared session.types := by
  rcases warned : (warnErrors body.hasError head).run session with ⟨fault | ⟨⟩, start⟩
  · rw [recordPlan_eq, run_bind, warned] at ran
    cases ran
  · rw [recordPlan_eq, run_bind, warned] at ran
    rw [types_of_soundPlan ran, types_of_warnErrors warned]

theorem foldlM_readMember_eq {items twins : List SyntaxNode}
    (same : List.Forall₂ SyntaxNode.SameMember items twins) (scope : List CodeText)
    (className : Option CodeText) (state : MemberState) :
    items.foldlM (readMember scope className) state =
      twins.foldlM (readMember scope className) state := by
  induction same generalizing state with
  | nil => rfl
  | cons member _ ih =>
      rw [List.foldlM_cons, List.foldlM_cons, member.reads]
      exact congrArg _ (funext ih)

theorem readMember_retyped {member twin type synonym : SyntaxNode} (className : Option CodeText)
    (retyped : member.RetypedMember twin type synonym)
    (names : NamesSynonym session.types scope record Name.normalizeSpelling type synonym)
    (state : MemberState) :
    Agree (fun a b _ => a.Alike b) (readMember scope className state member)
      (readMember scope className state twin) session := by
  obtain ⟨text, text_eq, found⟩ := names.names
  obtain ⟨twin_text, name, twin_eq, twin_found⟩ := names.twin_names
  have reading := readSpecifier_named scope names.kind text_eq found
  have twin_reading := readSpecifier_named scope names.twin_kind twin_eq twin_found
  have same : state.Alike state := ⟨rfl, rfl, rfl, rfl⟩
  rw [readMember_typed scope className state retyped.declares retyped.type,
    readMember_typed scope className state retyped.twin_declares retyped.twin_type]
  unfold Agree
  rw [run_bind, run_bind, reading, twin_reading]
  simp only [retyped.reads]
  exact readDeclarators_agree scope className twin ⟨rfl, rfl, rfl, rfl⟩ same

theorem readMembers_retyped {member twin type synonym : SyntaxNode} {after rest : List SyntaxNode}
    (className : Option CodeText) (retyped : member.RetypedMember twin type synonym)
    (others : List.Forall₂ SyntaxNode.SameMember after rest)
    (names : NamesSynonym session.types scope record Name.normalizeSpelling type synonym)
    (state : MemberState) :
    Agree (fun a b _ => a.Alike b) ((member :: after).foldlM (readMember scope className) state)
      ((twin :: rest).foldlM (readMember scope className) state) session := by
  rw [List.foldlM_cons, List.foldlM_cons]
  refine Agree.bind (readMember_retyped className retyped names state) fun _ _ _ states => ?_
  rw [foldlM_readMember_eq others]
  exact Agree.foldlM (fun member _ _ _ states => readMember_agree _ _ member states) rest states

end SessionPart

open SessionPart in
/-- Two definitions of a record that differ in the name of a synonym, which one of them has
where the other has the name of the record itself. -/
inductive Retyped (scope : List CodeText) (given : Option CodeText) (session : Session)
    (record : KnownType) (first second : SyntaxNode) : Prop
  | member {body other type synonym member twin : SyntaxNode} {before after rest : List SyntaxNode}
      (heads : first.SameHead second)
      (clauses : first.childOfKind? "base_class_clause" = second.childOfKind? "base_class_clause")
      (found : first.child? "body" = some body) (twin_found : second.child? "body" = some other)
      (errors : body.hasError = other.hasError)
      (items : body.items = before ++ member :: after)
      (twin_items : other.items = before ++ twin :: rest)
      (others : List.Forall₂ SyntaxNode.SameMember after rest)
      (retyped : member.RetypedMember twin type synonym)
      -- names are looked up when the members before have been read
      (names : ∀ head plan state start middle reached,
        (recordHead scope given first).run session = (.ok head, start) →
        (recordPlan scope head first body).run start = (.ok plan, middle) →
        (before.foldlM (readMember (head.memberScope scope) head.writtenName)
          (plan.start middle.types.model)).run middle = (.ok state, reached) →
        NamesSynonym reached.types (head.memberScope scope) record Name.normalizeSpelling type
          synonym)
  | base {body other clause twin : SyntaxNode} {table : KnownTypes}
      (heads : first.SameHead second)
      (found : first.child? "body" = some body) (twin_found : second.child? "body" = some other)
      (errors : body.hasError = other.hasError)
      (items : List.Forall₂ SyntaxNode.SameMember body.items other.items)
      (clause_found : first.childOfKind? "base_class_clause" = some clause)
      (twin_clause : second.childOfKind? "base_class_clause" = some twin)
      (declared : ∀ head start, (recordHead scope given first).run session = (.ok head, start) →
        head.declared start.types = table)
      (nodes : List.Forall₂ (BaseNode table scope record) clause.children twin.children)
      -- the flags of the record do not count, or there are none
      (spared : record.dynamic = false ∧ record.empty = false ∨
        ∀ access before, before.types = table → ∀ known after,
          (bases first scope access).run before = (.ok known, after) →
          ∀ base ∈ known, base.entry = some record → base.isVirtual = true)

namespace SessionPart

variable {scope : List CodeText} {given : Option CodeText} {session : Session}
  {record : KnownType} {first second : SyntaxNode}

/-- A record by the name of a synonym leaves the size, the alignment and all fields of a record
as they are, with the vtable pointer among them. -/
theorem sameLayout_of_retyped (retyped : Retyped scope given session record first second) :
    SameResult (fun a b => a.record.SameLayout b.record)
      ((readRecord scope given first).run session).1
      ((readRecord scope given second).run session).1 := by
  cases retyped with
  | @member body other type synonym member twin before after rest heads clauses found twin_found
      errors items twin_items others retyped names =>
      -- all is the same up to the member, and from there on records in the making are alike
      have virtual : List.Forall₂ (fun a b : SyntaxNode => a.marksVirtual = b.marksVirtual)
          body.items other.items := by
        have early : List.Forall₂ (fun a b : SyntaxNode => a.marksVirtual = b.marksVirtual)
            before before := List.forall₂_same.mpr fun _ _ => rfl
        rw [items, twin_items]
        have later := others.imp fun _ _ same => same.virtual
        exact List.rel_append early (.cons retyped.virtual later)
      have plans (head : RecordHead) :
          recordPlan scope head second other = recordPlan scope head first body := by
        simp only [recordPlan, errors, anyM_marksVirtual virtual, bases_eq heads.name clauses]
      rw [readRecord_eq scope given found, readRecord_eq scope given twin_found,
        recordHead_eq heads]
      refine SameResult.same_bind fun head start begun => ?_
      simp only [plans]
      refine SameResult.same_bind fun plan middle planned => ?_
      refine SameResult.same_bind fun table same known => ?_
      cases known
      simp only [items, twin_items, List.foldlM_append, bind_assoc]
      refine SameResult.same_bind fun state reached early => ?_
      rw [← recordHead_eq heads] at begun
      refine Agree.result (readMembers_retyped head.writtenName retyped others
        (names _ _ _ _ _ _ begun planned early) state) ?_
      exact fun _ _ _ states => finishRecord_sameLayout states rfl
  | @base body other clause twin table heads found twin_found errors items clause_found twin_clause
      declared nodes spared =>
      -- the bases have the same shapes, so the record starts and ends as before
      have virtual := items.imp fun _ _ same => same.virtual
      rw [readRecord_eq scope given found, readRecord_eq scope given twin_found,
        ← recordHead_eq heads]
      refine SameResult.same_bind fun head start begun => ?_
      have shapes (session : Session) (types_eq : session.types = table) :=
        shapes_agree heads.name head.defaultAccess clause_found twin_clause nodes types_eq
          (spared.imp_right fun virtual => virtual _ _ types_eq)
      refine Agree.result (recordPlan_agree errors virtual shapes (declared head start begun))
        fun plan twin middle plans => ?_
      refine SameResult.same_bind fun table same known => ?_
      cases known
      rw [RecordPlan.start_eq_of_shapes plans.head plans.dynamic plans.shapes,
        foldlM_readMember_eq items]
      refine SameResult.same_bind fun state _ _ => ?_
      exact finishRecord_sameLayout ⟨rfl, rfl, rfl, rfl⟩ plans.shapes

end SessionPart

/-! ## Records and their synonyms -/

namespace SessionPart

def fullRecord : KnownType :=
  { name := "P", kind := .record, layout := ⟨some 4, some 4⟩ }

def emptyRecord : KnownType :=
  { name := "E", kind := .record, layout := ⟨some 1, some 1⟩, empty := true }

def twoRecords : Session where
  file := "t.h"
  types := ({ model := .lp64 : KnownTypes }.define fullRecord).define emptyRecord

def letterNode (kind field : String) (letter : UInt8) : SyntaxNode :=
  .mk { kind, field, named := true, bytes := some [letter] } []

def usingNode (name type : UInt8) : SyntaxNode :=
  .mk { kind := "alias_declaration", named := true }
    [letterNode "type_identifier" "name" name,
      .mk { kind := "type_descriptor", field := "type", named := true }
        [letterNode "type_identifier" "type" type]]

def typedefNode (name type : UInt8) : SyntaxNode :=
  .mk { kind := "type_definition", named := true }
    [letterNode "type_identifier" "type" type, letterNode "type_identifier" "declarator" name]

def fieldNode (type : UInt8) : SyntaxNode :=
  .mk { kind := "field_declaration", named := true }
    [letterNode "type_identifier" "type" type, letterNode "field_identifier" "declarator" 120]

def structNode (bases fields : List UInt8) : SyntaxNode :=
  .mk { kind := "struct_specifier", named := true }
    [letterNode "type_identifier" "name" 68,
      .mk { kind := "base_class_clause" }
        ((bases.map (letterNode "type_identifier" "")).intersperse (.mk { kind := "," } [])),
      .mk { kind := "field_declaration_list", field := "body", named := true }
        (fields.map fieldNode)]

/-- The session after `using Q = P;` and `typedef E F;`. -/
def withSynonyms : Session :=
  ((do synonym [] (usingNode 81 80); typeDefinition [] (typedefNode 70 69)).run twoRecords).2

theorem withSynonyms_eq :
    withSynonyms = ((do
      define (fullRecord.synonym (Name.qualify [] "Q"))
      define (emptyRecord.synonym (Name.qualify [] "F"))).run twoRecords).2 := by
  obtain ⟨middle, entered, types_eq⟩ :=
    @run_define twoRecords (fullRecord.synonym (Name.qualify [] "Q"))
  have first : (synonym [] (usingNode 81 80)).run twoRecords =
      (define (fullRecord.synonym (Name.qualify [] "Q"))).run twoRecords :=
    synonym_registers rfl rfl rfl rfl rfl rfl rfl rfl
  have known : middle.types.lookup (Name.normalizeSpelling "E") [] = some emptyRecord := by
    rw [types_eq]
    rfl
  have second : (typeDefinition [] (typedefNode 70 69)).run middle =
      (do define (emptyRecord.synonym (Name.qualify [] "F")); return []).run middle :=
    (typeDefinition_registers rfl rfl rfl known rfl (declarator_name emptyRecord.layout rfl rfl)
      rfl rfl rfl).2
  obtain ⟨after, last, -⟩ := @run_define middle (emptyRecord.synonym (Name.qualify [] "F"))
  simp only [withSynonyms, run_bind, first, entered, second, last]
  rfl

/-- A synonym of an empty record takes space as a base, while the record itself takes none. -/
theorem emptySynonym_takes_space :
    withSynonyms.types.lookup "F" [] = some (emptyRecord.synonym "F") ∧
      ((readRecord [] none (structNode [80, 69] [])).run withSynonyms).1.toOption.map
        (·.record.size) = some (some 4) ∧
      ((readRecord [] none (structNode [80, 70] [])).run withSynonyms).1.toOption.map
        (·.record.size) = some (some 8) := by
  rw [readRecord_eq [] none rfl, readRecord_eq [] none rfl, withSynonyms_eq]
  decide +kernel

theorem namesSynonym_letters {table : KnownTypes} {scope : List CodeText}
    {spell : CodeText → CodeText} (field : String)
    (found : table.lookup (spell "P") scope = some fullRecord)
    (twin_found : table.lookup (spell "Q") scope = some (fullRecord.synonym "Q")) :
    NamesSynonym table scope fullRecord spell (letterNode "type_identifier" field 80)
      (letterNode "type_identifier" field 81) := by
  exact ⟨rfl, rfl, ⟨"P", rfl, found⟩, ⟨"Q", "Q", rfl, twin_found⟩⟩

theorem retyped_base :
    Retyped [] none withSynonyms fullRecord (structNode [80] []) (structNode [81] []) := by
  have names : NamesSynonym
      (withSynonyms.types.define { name := "D", kind := .record, layout := .unresolved }) []
      fullRecord Name.normalize (letterNode "type_identifier" "" 80)
      (letterNode "type_identifier" "" 81) := by
    refine namesSynonym_letters "" ?_ ?_ <;> rw [withSynonyms_eq] <;> rfl
  refine .base ⟨rfl, rfl, rfl, rfl⟩ rfl rfl rfl .nil rfl rfl ?_
    (.cons (.renamed names (by decide) (by decide)) .nil) (.inl ⟨rfl, rfl⟩)
  rintro head start ran
  cases ran
  rfl

theorem retyped_member :
    Retyped [] none withSynonyms fullRecord (structNode [] [80]) (structNode [] [81]) := by
  have typeName (letter : UInt8) : (letterNode "type_identifier" "type" letter).IsTypeName :=
    ⟨rfl, rfl, rfl⟩
  have exchanged : (fieldNode 80).RetypedMember (fieldNode 81)
      (letterNode "type_identifier" "type" 80) (letterNode "type_identifier" "type" 81) :=
    @SyntaxNode.retypedMember_exchange _ _ [] _ _ _ rfl rfl (by simp) (typeName 80) (typeName 81)
  refine .member ⟨rfl, rfl, rfl, rfl⟩ rfl rfl rfl rfl (List.nil_append _).symm
    (List.nil_append _).symm .nil exchanged ?_
  intro head plan state start middle reached begun planned early
  cases begun
  cases early
  refine namesSynonym_letters "type" ?_ ?_ <;> rw [types_of_recordPlan planned, withSynonyms_eq] <;>
    rfl

theorem synonymOfFull_keeps_layout :
    ((readRecord [] none (structNode [80] [])).run withSynonyms).1.toOption.map
        (·.record.size) = some (some 4) ∧
      SameResult (fun a b => a.record.SameLayout b.record)
        ((readRecord [] none (structNode [80] [])).run withSynonyms).1
        ((readRecord [] none (structNode [81] [])).run withSynonyms).1 ∧
      SameResult (fun a b => a.record.SameLayout b.record)
        ((readRecord [] none (structNode [] [80])).run withSynonyms).1
        ((readRecord [] none (structNode [] [81])).run withSynonyms).1 := by
  refine ⟨?_, sameLayout_of_retyped retyped_base, sameLayout_of_retyped retyped_member⟩
  rw [readRecord_eq [] none rfl, withSynonyms_eq]
  decide +kernel

end SessionPart

end TypeCatalog
