import TypeCatalog.Layout.Placement
import TypeCatalog.Proofs.YieldedRecords

/-!
# Runs that read a record

A record with a body is read in stages: its name, its bases, its members one
after the other, and its layout.  Each member adds fields, which are placed
behind what came before, and methods, which are read from the declarators of a
member declaration.
-/

namespace TypeCatalog

open Text (CodeText)

/-! ## From a declarator to a function -/

inductive SyntaxNode.OnChain : SyntaxNode → SyntaxNode → Prop
  | self (node : SyntaxNode) : OnChain node node
  | inner {node inner link : SyntaxNode} (unnamed : node.isKind nameKinds = false)
      (found : node.innerDeclarator? = some inner) (on : OnChain inner link) : OnChain node link

theorem DeclaratorChain.apply_function {chain next : DeclaratorChain} {pointer : Layout}
    {node function : SyntaxNode} (applied : chain.apply pointer node = .ok next)
    (held : next.function = some function) : chain.function = some function ∨ function = node := by
  unfold apply at applied
  split at applied
  · cases applied
    exact .inr (Option.some.inj held).symm
  split at applied
  · cases applied
    cases held
  split at applied
  · rcases counted : node.elementCount with fault | count <;> rw [counted] at applied <;>
      cases applied
    cases held
  split at applied
  · rcases read : node.attributes with fault | attributes <;> rw [read] at applied <;>
      cases applied
    exact .inl held
  split at applied
  · cases applied
    exact .inl held
  · cases applied
    exact .inl held

theorem DeclaratorChain.follow_function {chain last : DeclaratorChain} {pointer : Layout}
    {node function : SyntaxNode} {name : Option SyntaxNode}
    (followed : chain.follow pointer node = .ok (name, last))
    (held : last.function = some function) :
    chain.function = some function ∨ node.OnChain function := by
  rw [follow] at followed
  split at followed
  · cases followed
    exact .inl held
  rename_i unnamed
  rcases applied : chain.apply pointer node with fault | next
  · rw [applied] at followed
    cases followed
  rw [applied] at followed
  have first (held : next.function = some function) :
      chain.function = some function ∨ node.OnChain function := by
    rcases apply_function applied held with before | rfl
    · exact .inl before
    · exact .inr (.self _)
  simp only [bind, Except.bind] at followed
  split at followed
  · cases followed
    exact first held
  · rename_i inner found
    have smaller := SyntaxNode.sizeOf_innerDeclarator?_lt found
    rcases follow_function followed held with before | on
    · exact first before
    · exact .inr (.inner (by simpa using unnamed) found on)
termination_by sizeOf node

inductive SyntaxNode.DeclaresMethod (node : SyntaxNode) : SyntaxNode → Prop
  | chain {function : SyntaxNode} (on : node.OnChain function) : DeclaresMethod node function
  | conversion (kind : node.kind = "operator_cast") :
      DeclaresMethod node ((node.descendant? "abstract_function_declarator").getD node)

structure Function.DeclaredBy (className : CodeText) (member functionNode : SyntaxNode)
    (method : Function) : Prop where
  virtual : ∃ written, FunctionTraits.written true member functionNode = .ok written ∧
    method.flags.virtual = written.virtual
  kind : ∃ list : ParameterList, method.parameters.items = list.parameters ∧
    (method.constructorKind = none ∨ method.constructorKind = constructorKind? list className)

def Function.DeclaredAmong (members : List SyntaxNode) (className : CodeText)
    (method : Function) : Prop :=
  ∃ member ∈ members, member.isMemberDeclaration = true ∧
    ∃ node ∈ member.childrenBy "declarator", ∃ functionNode, node.DeclaresMethod functionNode ∧
      method.DeclaredBy className member functionNode

/-! ## What members add -/

namespace Field

def layout (field : Field) : Layout :=
  ⟨field.type.size, field.type.align⟩

def placement (field : Field) : Placement :=
  match field.bitWidth with
  | some width => .bitfield field.layout width field.name.isSome
  | none => .field field.layout

end Field

/-- Fields are placed one after the other.  With a bit-field of unknown width all offsets are
given up before it is placed. -/
inductive LayoutBuilder.Lays : LayoutBuilder → List Field → LayoutBuilder → Prop
  | nil (builder : LayoutBuilder) : Lays builder [] builder
  | field {builder next last : LayoutBuilder} {field : Field} {rest : List Field}
      (placed : builder.place field.placement = (.ok field.bitOffset, next))
      (later : Lays next rest last) : Lays builder (field :: rest) last
  | unsized {builder next last : LayoutBuilder} {field : Field} {rest : List Field}
      (width : field.bitWidth = none)
      (placed : builder.giveUp.place field.placement = (.ok field.bitOffset, next))
      (later : Lays next rest last) : Lays builder (field :: rest) last

theorem LayoutBuilder.Lays.append {builder next last : LayoutBuilder} {fields more : List Field}
    (first : Lays builder fields next) (second : Lays next more last) :
    Lays builder (fields ++ more) last := by
  induction first with
  | nil => exact second
  | field placed _ ih => exact .field placed (ih second)
  | unsized width placed _ ih => exact .unsized width placed (ih second)

structure MemberState.Extends (isMethod : Function → Prop) (state after : MemberState) :
    Prop where
  fields : ∃ fields, after.fields = state.fields ++ fields ∧
    (∀ field ∈ fields, field.artificial = false) ∧ state.builder.Lays fields after.builder
  methods : ∃ methods, after.methods = state.methods ++ methods ∧
    ∀ method ∈ methods, isMethod method

namespace MemberState.Extends

variable {isMethod : Function → Prop} {state middle after : MemberState}

theorem of_eq (fields : after.fields = state.fields) (methods : after.methods = state.methods)
    (builder : after.builder = state.builder) : Extends isMethod state after where
  fields := ⟨[], by simp [fields], by simp, builder ▸ .nil _⟩
  methods := ⟨[], by simp [methods], by simp⟩

theorem trans (first : Extends isMethod state middle) (second : Extends isMethod middle after) :
    Extends isMethod state after := by
  obtain ⟨fields, fields_eq, declared, laid⟩ := first.fields
  obtain ⟨more, more_eq, later, laid_later⟩ := second.fields
  obtain ⟨methods, methods_eq, read⟩ := first.methods
  obtain ⟨others, others_eq, read_later⟩ := second.methods
  constructor
  · refine ⟨fields ++ more, by simp [more_eq, fields_eq], ?_, laid.append laid_later⟩
    simpa only [List.forall_mem_append] using ⟨declared, later⟩
  · refine ⟨methods ++ others, by simp [others_eq, methods_eq], ?_⟩
    simpa only [List.forall_mem_append] using ⟨read, read_later⟩

end MemberState.Extends

theorem KnownTypes.find?_define (table : KnownTypes) {entry : KnownType}
    (record : entry.kind = .record) :
    (table.define entry).find? (Name.normalize entry.name) = some entry := by
  have replaced : table.keepsRecord entry = false := by
    unfold keepsRecord
    split
    · simp [record]
    · rfl
  simp [define, replaced, find?, insert]

def RecordPlan.entry? (plan : RecordPlan) (state : MemberState) : Option KnownType :=
  let builder := plan.finish state
  plan.head.entry? builder.finish plan.dynamic (plan.isEmpty builder)

namespace SessionPart

theorem Gives.foldlM_related {α β : Type} {rel : β → β → Prop} (refl : ∀ a, rel a a)
    (trans : ∀ {a b c}, rel a b → rel b c → rel a c) {step : β → α → SessionPart β}
    {items : List α} (steps : ∀ item ∈ items, ∀ a, Gives (step a item) (rel a)) (a : β) :
    Gives (items.foldlM step a) (rel a) :=
  Gives.composes.foldlM (fun item listed b before =>
    (steps item listed b).mono fun _ after => trans before after) (refl a)

theorem declarator_follows (node : SyntaxNode) (base : Layout) :
    Gives (declarator (some node) base) fun info => ∃ pointer chain,
      ({ layout := base } : DeclaratorChain).follow pointer node = .ok (info.name, chain) ∧
        info.function = chain.function ∧ info.derived = chain.derived := by
  unfold declarator
  refine Gives.after fun table => Gives.bind (.reading _) fun followed chain_eq => ?_
  have ends : ∃ pointer chain,
      ({ layout := base } : DeclaratorChain).follow pointer node = .ok (followed.1, chain) ∧
        followed.2.function = chain.function ∧ followed.2.derived = chain.derived :=
    ⟨table.pointer, followed.2, chain_eq, rfl, rfl⟩
  dsimp only
  split
  · exact .after fun _ => .after fun suffix => .pure ends
  · exact .after fun suffix => .pure ends

theorem declarator_gives (node : SyntaxNode) (base : Layout) :
    Gives (declarator (some node) base) fun info =>
      ∀ function, info.function = some function → node.OnChain function := by
  refine (declarator_follows node base).mono fun info ends function held => ?_
  obtain ⟨pointer, chain, followed, function_eq, -⟩ := ends
  rcases DeclaratorChain.follow_function followed (function_eq ▸ held) with none | on
  · cases none
  · exact on

theorem Gives.placing {α : Type} (placing : Except LayoutFault α) :
    Gives (liftM placing) fun a => placing = .ok a := by
  rcases placing with fault | value <;> rintro session a after ran <;> cases ran
  rfl

theorem readField_extends {isMethod : Function → Prop} (context : FieldContext)
    (name : Option SyntaxNode) (info : Option DeclaredEntity) (attributes : List Attribute)
    (clause : Option SyntaxNode) (state : MemberState) :
    Gives (readField context name info attributes clause state) (state.Extends isMethod) := by
  rw [readField_eq]
  refine Gives.after fun name => Gives.after fun width => Gives.after fun _ => ?_
  dsimp only
  refine Gives.bind (.placing _) fun offset placed_eq => Gives.pure ⟨⟨_, rfl, ?_, ?_⟩, [], by simp⟩
  · simp
  · rcases width with _ | width
    · rcases unknown : clause.isSome with _ | _
      · simp only [unknown, placed, Bool.false_and, Bool.false_eq_true, ↓reduceIte] at placed_eq ⊢
        exact .field (congrArg (·, _) placed_eq) (.nil _)
      · simp only [unknown, placed, Option.isNone_none, Bool.and_true, ↓reduceIte] at placed_eq ⊢
        exact .unsized rfl (congrArg (·, _) placed_eq) (.nil _)
    · simp only [placed, Option.isNone_some, Bool.and_false, Bool.false_eq_true, ↓reduceIte]
        at placed_eq ⊢
      exact .field (Prod.ext placed_eq rfl) (.nil _)

theorem function_gives (member functionNode nameNode : SyntaxNode) (scope : List CodeText)
    (className : CodeText) (outer : List Attribute) :
    Gives (function member functionNode nameNode scope (some className) false outer)
      fun result => ∀ method, result = some method →
        method.DeclaredBy className member functionNode := by
  unfold function
  refine Gives.after fun name => ?_
  simp only [Option.isNone_some, Bool.false_and, Bool.false_eq_true, ↓reduceIte,
    Option.isSome_some, Option.getD_some]
  refine Gives.bind (.reading _) fun written written_eq => ?_
  refine Gives.after fun own => Gives.after fun further => Gives.after fun list => ?_
  refine Gives.after fun place => Gives.pure ?_
  rintro method ⟨⟩
  exact ⟨⟨written, written_eq, rfl⟩, list, rfl, (ite_eq_or_eq _ _ _).symm⟩

section

variable {members : List SyntaxNode} {className : Option CodeText} {member : SyntaxNode}
  (listed : member ∈ members) (declares : member.isMemberDeclaration = true)
include listed declares

theorem readMethod_extends (scope : List CodeText) {node functionNode : SyntaxNode}
    (held : node ∈ member.childrenBy "declarator") (leads : node.DeclaresMethod functionNode)
    (name : SyntaxNode) (attributes : List Attribute) (state : MemberState) :
    Gives (readMethod scope className member functionNode name attributes state)
      (state.Extends (·.DeclaredAmong members (className.getD ""))) := by
  refine Gives.bind (function_gives _ _ _ _ _ _) fun result read => ?_
  rcases result with _ | method
  · exact .pure (.of_eq rfl rfl rfl)
  · refine .pure ⟨⟨[], by simp, by simp, .nil _⟩, [method], rfl, ?_⟩
    simpa using ⟨member, listed, declares, node, held, functionNode, leads, read method rfl⟩

theorem readDeclarator_extends (scope : List CodeText) (context : FieldContext)
    (own : List Attribute) (isStatic : Bool) (clause : Option SyntaxNode) {node : SyntaxNode}
    (held : node ∈ member.childrenBy "declarator") (state : MemberState) :
    Gives (readDeclarator scope context member own isStatic clause state node)
      (state.Extends (·.DeclaredAmong members (context.className.getD ""))) := by
  unfold readDeclarator
  split
  · rename_i kind
    exact readMethod_extends listed declares scope held (.conversion (beq_iff_eq.mp kind)) _ _ state
  · refine Gives.bind (declarator_gives node _) fun info on => ?_
    split
    · rename_i functionNode name function_eq name_eq
      exact readMethod_extends listed declares scope held (.chain (on _ function_eq)) _ _ state
    · split
      · exact .pure (.of_eq rfl rfl rfl)
      · exact readField_extends _ _ _ _ _ state
    · exact .pure (.of_eq rfl rfl rfl)

theorem readDeclarators_extends (scope : List CodeText) (type : SpecifiedType)
    (state : MemberState) :
    Gives (readDeclarators scope className member type state)
      (state.Extends (·.DeclaredAmong members (className.getD ""))) := by
  have named : (Text.proper? className).getD "" = className.getD "" := by
    rcases className with _ | _ | _ <;> rfl
  have typed : state.Extends (·.DeclaredAmong members (className.getD ""))
      { state with nested := state.nested ++ type.nested } := .of_eq rfl rfl rfl
  have kept {part : SessionPart MemberState}
      (gives : Gives part (MemberState.Extends (·.DeclaredAmong members (className.getD ""))
        { state with nested := state.nested ++ type.nested })) :
      Gives part (state.Extends (·.DeclaredAmong members (className.getD ""))) :=
    gives.mono fun after later => typed.trans later
  unfold readDeclarators
  refine Gives.after fun own => Gives.after fun qualifiers => ?_
  dsimp only
  split
  · split
    · exact kept (readField_extends _ _ _ _ _ _)
    · exact .pure (.of_eq rfl rfl rfl)
  · rename_i last last_eq
    refine kept (Gives.after fun isStatic => ?_)
    have each (clause : Option SyntaxNode) {node : SyntaxNode}
        (held : node ∈ member.childrenBy "declarator") (state : MemberState) :=
      named ▸ readDeclarator_extends listed declares scope
        { className := Text.proper? className, cvQualifiers := qualifiers, type } own isStatic
        clause held state
    refine Gives.bind (Gives.foldlM_related (fun state => .of_eq rfl rfl rfl) .trans
      (fun node held state => each none (List.dropLast_subset _ held) state) _)
      fun middle early => ?_
    exact (each _ (List.mem_of_getLast? last_eq) middle).mono fun after late => early.trans late

end

theorem readMember_extends (scope : List CodeText) (className : Option CodeText)
    {members : List SyntaxNode} {member : SyntaxNode} (listed : member ∈ members)
    (state : MemberState) :
    Gives (readMember scope className state member)
      (state.Extends (·.DeclaredAmong members (className.getD ""))) := by
  rw [readMember]
  split
  · rename_i declares
    split
    · exact .after fun type => readDeclarators_extends listed declares scope type state
    · exact .after fun type => readDeclarators_extends listed declares scope type state
  split
  · exact .after fun records => .pure (.of_eq rfl rfl rfl)
  split
  · exact .after fun _ => .pure (.of_eq rfl rfl rfl)
  · split
    · exact .after fun _ => .pure (.of_eq rfl rfl rfl)
    · exact .pure (.of_eq rfl rfl rfl)

theorem readMembers_extends (scope : List CodeText) (className : Option CodeText)
    (members : List SyntaxNode) (state : MemberState) :
    Gives (members.foldlM (readMember scope className) state)
      (state.Extends (·.DeclaredAmong members (className.getD ""))) :=
  Gives.foldlM_related (fun _ => .of_eq rfl rfl rfl) .trans
    (fun _ listed state => readMember_extends scope className listed state) state

/-! ## Stages -/

theorem types_of_finishRecord {plan : RecordPlan} {state : MemberState} {session after : Session}
    {built : RecordReading}
    (ran : (finishRecord plan state).run session = (.ok built, after)) :
    after.types = ((plan.entry? state).map session.types.define).getD session.types := by
  obtain ⟨entered, defined, declared⟩ := @run_defineAny session (plan.entry? state)
  change ((plan.entry? state).forM define >>= fun _ => _).run session = _ at ran
  rw [run_bind, defined] at ran
  cases ran
  exact declared

theorem recordHead_reads (scope : List CodeText) (given : Option CodeText) (node : SyntaxNode) :
    Gives (recordHead scope given node) fun head =>
      head.kind = (recordKinds.lookup node.kind).getD "" ∧
        head.qualified = head.ownName.map (Name.qualify scope) := by
  unfold recordHead
  dsimp only
  split
  · exact .after fun _ => .after fun _ => .after fun _ => .after fun _ => .pure ⟨rfl, rfl⟩
  · exact .after fun _ => .after fun _ => .after fun _ => .pure ⟨rfl, rfl⟩

structure RecordRun (scope : List CodeText) (given : Option CodeText) (node body : SyntaxNode)
    (session : Session) (built : RecordReading) (after : Session) where
  head : RecordHead
  headed : Session
  plan : RecordPlan
  planned : Session
  state : MemberState
  read : Session
  heads : (recordHead scope given node).run session = (.ok head, headed)
  plans : (recordPlan scope head node body).run headed = (.ok plan, planned)
  reads : (body.items.foldlM (readMember (head.memberScope scope) head.writtenName)
    (plan.start planned.types.model)).run planned = (.ok state, read)
  finishes : (finishRecord plan state).run read = (.ok built, after)

variable {scope : List CodeText} {given : Option CodeText} {node body : SyntaxNode}
  {session after : Session} {built : RecordReading}

theorem nonempty_recordRun (found : node.child? "body" = some body)
    (ran : (readRecord scope given node).run session = (.ok built, after)) :
    Nonempty (RecordRun scope given node body session built after) := by
  rw [readRecord_eq scope given found, run_bind] at ran
  rcases heads : (recordHead scope given node).run session with ⟨fault | head, headed⟩ <;>
    rw [heads] at ran
  · cases ran
  dsimp only at ran
  rw [run_bind] at ran
  rcases plans : (recordPlan scope head node body).run headed with ⟨fault | plan, planned⟩ <;>
    rw [plans] at ran
  · cases ran
  dsimp only at ran
  rw [run_bind, run_types] at ran
  dsimp only at ran
  rw [run_bind] at ran
  rcases reads : (body.items.foldlM (readMember (head.memberScope scope) head.writtenName)
    (plan.start planned.types.model)).run planned with ⟨fault | state, read⟩ <;> rw [reads] at ran
  · cases ran
  exact ⟨{ head, headed, plan, planned, state, read, heads, plans, reads, finishes := ran }⟩

namespace RecordRun

variable (run : RecordRun scope given node body session built after)
include run

theorem plan_head : run.plan.head = run.head :=
  recordPlan_gives _ _ _ _ _ _ _ run.plans

theorem extends_start : (run.plan.start run.planned.types.model).Extends
    (·.DeclaredAmong body.items (run.head.writtenName.getD "")) run.state :=
  readMembers_extends _ _ _ _ _ _ _ run.reads

theorem built_eq : built =
    { record := run.plan.complete (run.plan.finish run.state).finish run.state,
      nested := run.state.nested } := by
  have result := @finishRecord_result run.read run.plan run.state
  rw [run.finishes] at result
  exact Except.ok.inj result

theorem record_eq :
    built.record = run.plan.complete (run.plan.finish run.state).finish run.state :=
  congrArg RecordReading.record run.built_eq

theorem methods_declared : ∀ method ∈ built.record.methods.items,
    method.DeclaredAmong body.items (run.head.writtenName.getD "") := by
  obtain ⟨methods, methods_eq, declared⟩ := run.extends_start.methods
  have none_before : (run.plan.start run.planned.types.model).methods = [] := by
    unfold RecordPlan.start
    split <;> rfl
  rw [run.record_eq]
  change ∀ method ∈ run.state.methods, _
  rwa [methods_eq, none_before, List.nil_append]

theorem head_kind : run.plan.head.kind = (recordKinds.lookup node.kind).getD "" := by
  rw [run.plan_head]
  exact (recordHead_reads _ _ _ _ _ _ run.heads).1

theorem head_qualified :
    run.plan.head.qualified = run.plan.head.ownName.map (Name.qualify scope) := by
  rw [run.plan_head]
  exact (recordHead_reads _ _ _ _ _ _ run.heads).2

theorem entry?_eq {name : CodeText} (named : Text.proper? built.record.name = some name) :
    run.plan.entry? run.state = some
      { name, kind := .record, layout := (run.plan.finish run.state).finish,
        attributes := run.plan.head.attributes, dynamic := run.plan.dynamic,
        empty := run.plan.isEmpty (run.plan.finish run.state) } := by
  rw [run.record_eq] at named
  change (Text.proper? run.plan.head.qualified).map _ = _
  rw [show Text.proper? run.plan.head.qualified = some name from named]
  rfl

theorem types_eq :
    after.types = ((run.plan.entry? run.state).map run.read.types.define).getD run.read.types :=
  types_of_finishRecord run.finishes

theorem find?_entry {name : CodeText} (named : Text.proper? built.record.name = some name) :
    after.types.find? (Name.normalize name) = run.plan.entry? run.state := by
  rw [run.types_eq, run.entry?_eq named]
  exact KnownTypes.find?_define _ rfl

end RecordRun

end SessionPart

end TypeCatalog
