import Mathlib.Data.List.Forall2
import TypeCatalog.Proofs.LoopRules
import TypeCatalog.Proofs.RecordDefinitions
import TypeCatalog.Proofs.Synonyms
import TypeCatalog.Syntax.Source

/-!
# Every definition yields one record

Each way of reading a part of a tree hands on the records of the parts inside
it, so the complete records that come out of a tree belong one by one to its
definitions, in order.  The type of a synonym is read and its records are
dropped, and a template declaration is left at its first child; no other
definition is lost.
-/

namespace TypeCatalog

open Text (CodeText)

/-! ## Records and their definitions -/

structure SyntaxNode.Defines (node : SyntaxNode) (record : Record) : Prop where
  complete : record.complete = true
  kind : ∃ kind, recordKinds.lookup node.kind = some kind ∧ record.kind = kind
  attributes : node.attributes = .ok record.attributes
  line : record.location.line = ((node.child? "name").getD node).line
  name : ∀ name, node.child? "name" = some name → ∃ scope text, name.text = .ok text ∧
    record.name = (Text.proper? (some (Name.normalize text))).map (Name.qualify scope)

abbrev ReadFrom (sites : List SyntaxNode) (records : List Record) : Prop :=
  List.Forall₂ SyntaxNode.Defines sites records

theorem ReadFrom.append {sites more : List SyntaxNode} {records others : List Record}
    (read : ReadFrom sites records) (later : ReadFrom more others) :
    ReadFrom (sites ++ more) (records ++ others) :=
  List.rel_append read later

def Declaration.definition? : Declaration → Option Record
  | record declaration => if declaration.complete then some declaration else none
  | _ => none

def Group.completeRecords (group : Group) : List Record :=
  group.filterMap Declaration.definition?

def Extraction.completeRecords (extraction : Extraction) : List Record :=
  extraction.groups.flatMap Group.completeRecords

theorem Group.completeRecords_append (first second : Group) :
    completeRecords (first ++ second) = completeRecords first ++ completeRecords second :=
  List.filterMap_append

theorem Group.completeRecords_records (records : List Record) :
    completeRecords (records.map .record) = records.filter (·.complete) := by
  induction records with
  | nil => rfl
  | cons record rest ih =>
    rcases complete : record.complete with _ | _ <;>
      simp_all [completeRecords, Declaration.definition?]

theorem Group.completeRecords_functions (functions : List Function) :
    completeRecords (functions.map .function) = [] := by
  induction functions with
  | nil => rfl
  | cons function rest ih => simp [completeRecords, Declaration.definition?]

theorem ReadFrom.filter_complete {sites : List SyntaxNode} {records : List Record}
    (read : ReadFrom sites records) : records.filter (·.complete) = records := by
  induction read with
  | nil => rfl
  | cons defines _ ih => rw [List.filter_cons_of_pos defines.complete, ih]

namespace SessionPart

variable {α β : Type}

/-! ## Results of parts -/

/-- Whatever a part of a session gives, from any session on, has a property. -/
def Gives (part : SessionPart α) (post : α → Prop) : Prop :=
  ∀ session a after, part.run session = (.ok a, after) → post a

theorem Gives.pure {post : α → Prop} {a : α} (holds : post a) : Gives (pure a) post := by
  rintro session _ after ran
  cases ran
  exact holds

theorem Gives.anything (part : SessionPart α) : Gives part fun _ => True :=
  fun _ _ _ _ => trivial

theorem Gives.mono {part : SessionPart α} {post weaker : α → Prop} (gives : Gives part post)
    (weaken : ∀ a, post a → weaker a) : Gives part weaker :=
  fun session a after ran => weaken a (gives session a after ran)

theorem Gives.bind {part : SessionPart α} {next : α → SessionPart β} {post : α → Prop}
    {last : β → Prop} (gives : Gives part post) (rest : ∀ a, post a → Gives (next a) last) :
    Gives (part >>= next) last := by
  intro session b after ran
  rw [run_bind] at ran
  rcases first : part.run session with ⟨fault | a, middle⟩ <;> rw [first] at ran
  · cases ran
  · exact rest a (gives session a middle first) middle b after ran

theorem Gives.composes : ComposesWith fun α post (part : SessionPart α) => Gives part post where
  pure := .pure
  bind := .bind

theorem Gives.after {part : SessionPart α} {next : α → SessionPart β} {last : β → Prop}
    (rest : ∀ a, Gives (next a) last) : Gives (part >>= next) last :=
  Gives.bind (.anything part) fun a _ => rest a

theorem Gives.reading (reading : Except ReadFault α) :
    Gives (liftM reading) fun a => reading = .ok a := by
  rintro session a after ran
  rw [run_reading] at ran
  rcases reading with fault | value
  · cases ran
  · cases ran
    rfl

/-! ## Members -/

def Adds (sites : List SyntaxNode) (state after : MemberState) : Prop :=
  ∃ records, after.nested = state.nested ++ records ∧ ReadFrom sites records

theorem Adds.of_eq {state after : MemberState} (same : after.nested = state.nested) :
    Adds [] state after :=
  ⟨[], by rw [same, List.append_nil], .nil⟩

theorem Adds.trans {sites more : List SyntaxNode} {state middle after : MemberState}
    (first : Adds sites state middle) (second : Adds more middle after) :
    Adds (sites ++ more) state after := by
  obtain ⟨records, middle_eq, read⟩ := first
  obtain ⟨others, after_eq, later⟩ := second
  exact ⟨records ++ others, by rw [after_eq, middle_eq, List.append_assoc], read.append later⟩

theorem Gives.foldlM {step : MemberState → α → SessionPart MemberState}
    {sites : α → List SyntaxNode} {items : List α}
    (steps : ∀ item ∈ items, ∀ state, Gives (step state item) (Adds (sites item) state))
    (state : MemberState) : Gives (items.foldlM step state) (Adds (items.flatMap sites) state) := by
  induction items generalizing state with
  | nil => exact .pure (.of_eq rfl)
  | cons item rest ih =>
    rw [List.foldlM_cons, List.flatMap_cons]
    refine Gives.bind (steps item List.mem_cons_self state) fun middle added => ?_
    exact (ih (fun item later => steps item (List.mem_cons_of_mem _ later)) middle).mono
      fun after more => added.trans more

theorem readField_gives (context : FieldContext) (name : Option SyntaxNode)
    (info : Option DeclaredEntity) (attributes : List Attribute) (clause : Option SyntaxNode)
    (state : MemberState) :
    Gives (readField context name info attributes clause state) (Adds [] state) := by
  rw [readField_eq]
  exact .after fun name => .after fun width => .after fun _ => .after fun offset =>
    .pure (.of_eq rfl)

theorem readMethod_gives (scope : List CodeText) (className : Option CodeText)
    (member functionNode name : SyntaxNode) (attributes : List Attribute) (state : MemberState) :
    Gives (readMethod scope className member functionNode name attributes state)
      (Adds [] state) := by
  refine Gives.after fun method => ?_
  rcases method with _ | method
  · exact .pure (.of_eq rfl)
  · exact .pure (.of_eq rfl)

theorem readDeclarator_gives (scope : List CodeText) (context : FieldContext) (member : SyntaxNode)
    (own : List Attribute) (isStatic : Bool) (clause : Option SyntaxNode) (state : MemberState)
    (node : SyntaxNode) :
    Gives (readDeclarator scope context member own isStatic clause state node)
      (Adds [] state) := by
  unfold readDeclarator
  split
  · exact readMethod_gives _ _ _ _ _ _ state
  · refine Gives.after fun info => ?_
    split
    · exact readMethod_gives _ _ _ _ _ _ state
    · split
      · exact .pure (.of_eq rfl)
      · exact readField_gives _ _ _ _ _ state
    · exact .pure (.of_eq rfl)

theorem readDeclarators_keeps (scope : List CodeText) (className : Option CodeText)
    (member : SyntaxNode) (type : SpecifiedType) (state : MemberState) :
    Gives (readDeclarators scope className member type state)
      (Adds [] { state with nested := state.nested ++ type.nested }) := by
  unfold readDeclarators
  refine Gives.after fun own => Gives.after fun qualifiers => ?_
  dsimp only
  split
  · split
    · exact readField_gives _ _ _ _ _ _
    · exact .pure (.of_eq rfl)
  · refine Gives.after fun isStatic => ?_
    refine Gives.bind (Gives.foldlM (fun node _ state =>
      readDeclarator_gives scope _ member own isStatic none state node) _) fun middle early => ?_
    refine (readDeclarator_gives _ _ _ _ _ _ middle _).mono fun after late => ?_
    rw [List.flatMap_eq_nil_iff.mpr fun _ _ => rfl] at early
    exact early.trans late

theorem readDeclarators_gives {sites : List SyntaxNode} (scope : List CodeText)
    (className : Option CodeText) (member : SyntaxNode) {type : SpecifiedType}
    (read : ReadFrom sites type.nested) (state : MemberState) :
    Gives (readDeclarators scope className member type state) (Adds sites state) := by
  have typed : Adds sites state { state with nested := state.nested ++ type.nested } :=
    ⟨type.nested, rfl, read⟩
  refine (readDeclarators_keeps scope className member type state).mono fun after added => ?_
  simpa using typed.trans added

/-! ## Records -/

theorem location_gives (node : SyntaxNode) :
    Gives (location node) fun place => place.line = node.line := by
  rintro session place after ran
  cases ran
  rfl

theorem recordHead_gives {node : SyntaxNode} (scope : List CodeText) (given : Option CodeText)
    (isRecord : node.isRecord = true) :
    Gives (recordHead scope given node) fun head =>
      ∀ (plan : RecordPlan) layout state, plan.head = head →
        node.Defines (plan.complete layout state) := by
  obtain ⟨kind, kind_eq⟩ := Option.isSome_iff_exists.mp isRecord
  have rest (writtenName : Option CodeText)
      (written : ∀ name, node.child? "name" = some name → ∃ text, name.text = .ok text ∧
        writtenName = some (Name.normalize text)) :
      Gives (do
        return {
          kind := (recordKinds.lookup node.kind).getD ""
          writtenName
          qualified := (Text.proper? writtenName).map (Name.qualify scope)
          attributes := ← node.attributes
          location := ← location ((node.child? "name").getD node) : RecordHead })
        fun head => ∀ (plan : RecordPlan) layout state, plan.head = head →
          node.Defines (plan.complete layout state) := by
    refine Gives.bind (.reading node.attributes) fun attributes attributes_eq => ?_
    refine Gives.bind (location_gives _) fun place line_eq => Gives.pure ?_
    rintro plan layout state rfl_head
    refine ⟨rfl, ⟨kind, kind_eq, ?_⟩, ?_, ?_, fun name found => ?_⟩ <;>
      simp only [RecordPlan.complete, rfl_head]
    · rw [kind_eq, Option.getD_some]
    · exact attributes_eq
    · exact line_eq
    · obtain ⟨text, text_eq, rfl⟩ := written name found
      exact ⟨scope, text, text_eq, rfl⟩
  unfold recordHead
  dsimp only
  split
  · rename_i name found
    refine Gives.bind (.reading name.text) fun text text_eq => ?_
    rw [pure_bind]
    refine rest _ fun other same => ?_
    cases found.symm.trans same
    exact ⟨text, text_eq, rfl⟩
  · rename_i missing
    rw [pure_bind]
    exact rest _ fun name found => by cases found.symm.trans missing

theorem recordPlan_gives (scope : List CodeText) (head : RecordHead) (node body : SyntaxNode) :
    Gives (recordPlan scope head node body) fun plan => plan.head = head := by
  have rest : Gives (do
      (head.entry? .unresolved false false).forM define
      let bases ← bases node scope head.defaultAccess
      let declared ← (body.items.anyM SyntaxNode.marksVirtual : Except ReadFault Bool)
      return { head, bases, dynamic := declared || bases.any fun b => b.isVirtual || b.isDynamic :
        RecordPlan }) fun plan => plan.head = head :=
    .after fun _ => .after fun bases => .after fun declared => .pure rfl
  unfold recordPlan
  dsimp only
  split
  · exact .after fun _ => rest
  · exact rest

theorem finishRecord_gives (plan : RecordPlan) (state : MemberState) :
    Gives (finishRecord plan state) fun built =>
      (∃ layout, built.record = plan.complete layout state) ∧ built.nested = state.nested := by
  intro session built after ran
  have result := @finishRecord_result session plan state
  rw [ran] at result
  cases result
  exact ⟨⟨_, rfl⟩, rfl⟩

theorem start_nested (plan : RecordPlan) (model : DataModel) : (plan.start model).nested = [] := by
  unfold RecordPlan.start
  split <;> rfl

structure Built (node : SyntaxNode) (built : RecordReading) : Prop where
  nested : ReadFrom (node.nestedDefinitions .followed) built.nested
  defined : node.isDefinition = true → node.Defines built.record
  declared : node.isDefinition = false → built.record.complete = false

theorem Built.all {node : SyntaxNode} {built : RecordReading} (reading : Built node built)
    (defined : node.isDefinition = true) :
    ReadFrom (node.typeDefinitions .followed true) built.all := by
  rw [SyntaxNode.typeDefinitions, defined]
  exact reading.nested.append (.cons (reading.defined defined) .nil)

theorem namedType_gives (scope : List CodeText) (spelling name : CodeText) :
    Gives (namedType scope spelling name) fun type => type.nested = [] :=
  .after fun _ => .pure rfl

theorem plainType_gives (scope : List CodeText) (spelling : CodeText) (node : SyntaxNode) :
    Gives (plainType scope spelling node) fun type => type.nested = [] := by
  unfold plainType
  split
  · exact .after fun _ => .pure rfl
  split
  · split
    · exact .pure rfl
    · exact .after fun _ => namedType_gives _ _ _
  split
  · split
    · refine Gives.after fun layout => ?_
      split
      · exact .after fun _ => .pure rfl
      · exact .after fun _ => .pure rfl
    · exact .after fun _ => .after fun _ => .pure rfl
  split
  · exact namedType_gives _ _ _
  · exact .after fun _ => .pure rfl

-- The four ways of reading call each other, so their rules are proved together, by the measure
-- that the readings themselves decrease.
mutual

theorem readSpecifier_gives (scope : List CodeText) (node : SyntaxNode) :
    Gives (readSpecifier scope node) fun type =>
      ReadFrom (node.typeDefinitions .followed false) type.nested := by
  rw [readSpecifier]
  refine Gives.after fun text => ?_
  rcases defined : node.isDefinition with _ | _
  · rw [if_neg (by simpa [SyntaxNode.isDefinition] using defined),
      SyntaxNode.typeDefinitions_of_undefined _ _ defined]
    refine (plainType_gives _ _ node).mono fun type nested_eq => ?_
    rw [nested_eq]
    exact .nil
  · have parts : node.isRecord = true ∧ (node.child? "body").isSome = true := by
      simpa [SyntaxNode.isDefinition] using defined
    rw [if_pos (by simp [parts]), SyntaxNode.typeDefinitions]
    refine Gives.bind (readRecord_gives scope none parts.1) fun built reading => ?_
    split
    · rename_i name found
      refine Gives.after fun text => Gives.pure ?_
      rw [found, defined]
      exact reading.nested.append (.cons (reading.defined defined) .nil)
    · rename_i missing
      rw [missing, defined]
      refine Gives.pure ?_
      simpa [RecordReading.specifiedType] using reading.nested
termination_by (sizeOf node, 1)
decreasing_by exact Prod.Lex.right _ (by omega)

theorem readRecord_gives {node : SyntaxNode} (scope : List CodeText) (given : Option CodeText)
    (isRecord : node.isRecord = true) : Gives (readRecord scope given node) (Built node) := by
  rcases found : node.child? "body" with _ | body
  · have undefined : node.isDefinition = false := by simp [SyntaxNode.isDefinition, found]
    rw [readRecord]
    refine Gives.after fun head => ?_
    split
    · refine Gives.pure ⟨?_, fun defined => ?_, fun _ => rfl⟩
      · rw [SyntaxNode.nestedDefinitions_of_undefined _ undefined]
        exact .nil
      · cases undefined.symm.trans defined
    · rename_i same
      cases found.symm.trans same
  · have defined : node.isDefinition = true := by simp [SyntaxNode.isDefinition, isRecord, found]
    have members_eq : node.members = body.items := by
      simp [SyntaxNode.members, isRecord, found]
    rw [readRecord_eq scope given found]
    refine Gives.bind (recordHead_gives scope given isRecord) fun head defines => ?_
    refine Gives.bind (recordPlan_gives scope head node body) fun plan head_eq => ?_
    refine Gives.after fun table => ?_
    refine Gives.bind (Gives.foldlM (fun member listed state =>
      readMember_gives (head.memberScope scope) head.writtenName state member) _)
      fun state added => ?_
    refine (finishRecord_gives plan state).mono fun built finished => ?_
    obtain ⟨⟨layout, record_eq⟩, nested_eq⟩ := finished
    obtain ⟨records, state_eq, read⟩ := added
    refine ⟨?_, fun _ => ?_, fun undefined => ?_⟩
    · rw [nested_eq, state_eq, start_nested, SyntaxNode.nestedDefinitions_eq, members_eq]
      exact read
    · rw [record_eq]
      exact defines plan layout state head_eq
    · cases defined.symm.trans undefined
termination_by (sizeOf node, 0)
decreasing_by
  have inside := SyntaxNode.sizeOf_items_lt listed
  have outside := SyntaxNode.sizeOf_child?_lt found
  exact Prod.Lex.left _ _ (by omega)

theorem readMember_gives (scope : List CodeText) (className : Option CodeText)
    (state : MemberState) (member : SyntaxNode) :
    Gives (readMember scope className state member)
      (Adds (member.memberDefinitions .followed) state) := by
  rw [SyntaxNode.memberDefinitions_eq, readMember]
  split
  · rename_i declares
    have type_eq : member.memberType? .followed = member.child? "type" :=
      if_pos (by simp [declares])
    have notTypedef : (member.kind == "type_definition") = false := by
      refine beq_false_of_ne fun kind => ?_
      simp [SyntaxNode.isMemberDeclaration, SyntaxNode.isKind, kind] at declares
    rw [type_eq, notTypedef]
    split
    · rename_i type found
      rw [found]
      have := SyntaxNode.sizeOf_child?_lt found
      refine Gives.bind (readSpecifier_gives scope type) fun resolved read => ?_
      exact readDeclarators_gives scope className member read state
    · rename_i missing
      rw [missing, pure_bind]
      exact readDeclarators_gives scope className member .nil state
  rename_i undeclared
  split
  · rename_i kind
    have type_eq : member.memberType? .followed = member.child? "type" := if_pos (by simp [kind])
    rw [type_eq, kind]
    exact Gives.bind (typeDefinition_gives scope member) fun records read =>
      .pure ⟨records, rfl, read⟩
  rename_i notTypedef
  have type_eq : member.memberType? .followed = none := by
    simp [SyntaxNode.memberType?, undeclared, notTypedef]
  rw [type_eq]
  split
  -- a synonym: whatever its type defines is read and dropped
  · exact .after fun _ => .pure (.of_eq rfl)
  · split
    · exact .after fun _ => .pure (.of_eq rfl)
    · exact .pure (.of_eq rfl)
termination_by (sizeOf member, 1)
decreasing_by
  · exact Prod.Lex.right _ (by omega)
  · exact Prod.Lex.left _ _ (by assumption)

theorem typeDefinition_gives (scope : List CodeText) (node : SyntaxNode) :
    Gives (typeDefinition scope node) fun records =>
      ReadFrom ((node.child? "type").elim [] (SyntaxNode.typeDefinitions .followed true))
        records := by
  rw [typeDefinition]
  split
  · rename_i missing
    rw [missing]
    exact .after fun _ => .pure .nil
  · rename_i type found
    have := SyntaxNode.sizeOf_child?_lt found
    rw [found, Option.elim_some]
    split
    · rename_i defined
      have isRecord : type.isRecord = true := by simp_all
      refine Gives.after fun given => ?_
      refine Gives.bind (readRecord_gives scope given isRecord) fun built reading => ?_
      exact .after fun _ => .pure (reading.all defined)
    · rename_i undefined
      have undefined : type.isDefinition = false := by
        simpa [SyntaxNode.isDefinition] using undefined
      refine Gives.bind (readSpecifier_gives scope type) fun resolved read => ?_
      rw [SyntaxNode.typeDefinitions_of_undefined _ _ undefined] at read ⊢
      exact .after fun _ => .pure read
termination_by (sizeOf node, 0)
decreasing_by all_goals exact Prod.Lex.left _ _ (by assumption)

end

/-! ## Items -/

abbrev Completes (sites : List SyntaxNode) (group : Group) : Prop :=
  ReadFrom sites (Group.completeRecords group)

theorem Built.completes {node : SyntaxNode} {built : RecordReading} (reading : Built node built) :
    Completes (node.typeDefinitions .followed true) (built.all.map .record) := by
  unfold Completes
  rw [Group.completeRecords_records]
  rcases defined : node.isDefinition with _ | _
  · have nested := reading.nested
    rw [SyntaxNode.nestedDefinitions_of_undefined _ defined] at nested
    rw [SyntaxNode.typeDefinitions_of_undefined _ _ defined, RecordReading.all,
      List.forall₂_nil_left_iff.mp nested]
    simp [reading.declared defined]
  · have read := reading.all defined
    rwa [read.filter_complete]

theorem completes_functions (functions : List Function) :
    Completes [] (functions.map .function) := by
  unfold Completes
  rw [Group.completeRecords_functions]
  exact .nil

theorem leadingType_gives (item : Item) :
    Gives (leadingType item) (Completes
      ((item.node.child? "type").elim [] (SyntaxNode.typeDefinitions .followed true))) := by
  unfold leadingType
  split
  · rename_i missing
    rw [missing]
    exact .pure .nil
  rename_i type found
  rw [found, Option.elim_some]
  split
  · rename_i isRecord
    split
    · exact Gives.bind (readRecord_gives item.scope none isRecord) fun built reading =>
        .pure reading.completes
    · rename_i bare
      have undefined : type.isDefinition = false := by
        simp_all [SyntaxNode.isDefinition]
      rw [SyntaxNode.typeDefinitions_of_undefined _ _ undefined]
      exact .pure .nil
  · rename_i notRecord
    have undefined : type.isDefinition = false := by
      simp [SyntaxNode.isDefinition, notRecord]
    rw [SyntaxNode.typeDefinitions_of_undefined _ _ undefined]
    split
    · exact .after fun _ => .pure .nil
    · exact .pure .nil

theorem declaration_gives (item : Item) :
    Gives (declaration item) (Completes
      ((item.node.child? "type").elim [] (SyntaxNode.typeDefinitions .followed true))) := by
  refine Gives.bind (leadingType_gives item) fun leading read => ?_
  refine Gives.after fun functions => Gives.pure ?_
  unfold Completes
  rw [Group.completeRecords_append, Group.completeRecords_functions, List.append_nil]
  exact read

theorem group_template {item : Item} {inner : SyntaxNode}
    (kind : item.node.kind = "template_declaration")
    (found : item.node.namedChildren.find? (·.kind != "template_parameter_list") = some inner) :
    group item = group { item with node := inner } := by
  rw [group, if_pos (beq_iff_eq.mpr kind)]
  split
  · rename_i same
    cases found.symm.trans same
    rfl
  · rename_i missing
    cases found.symm.trans missing

theorem group_single_gives {item : Item} (single : item.node.kind ≠ "template_declaration") :
    Gives (group item) (Completes (item.node.itemDefinitions .followed)) := by
  rw [group, if_neg (by simpa using single)]
  split
  · rename_i isRecord
    rw [SyntaxNode.itemDefinitions_record _ isRecord]
    exact Gives.bind (readRecord_gives item.scope none isRecord) fun built reading =>
      .pure reading.completes
  rename_i notRecord
  have other (notDeclaration : item.node.kind ≠ "declaration")
      (notTypedef : item.node.kind ≠ "type_definition") :
      item.node.itemDefinitions .followed = [] :=
    SyntaxNode.itemDefinitions_other single (by simpa using notRecord) notDeclaration notTypedef
  split
  · rename_i kind
    have kind : item.node.kind = "enum_specifier" := by simpa using kind
    rw [other (by simp [kind]) (by simp [kind])]
    exact .after fun _ => .pure .nil
  split
  · rename_i kind
    have kind : item.node.kind = "function_definition" := by simpa using kind
    rw [other (by simp [kind]) (by simp [kind])]
    exact .after fun function => .pure (completes_functions _)
  split
  · rename_i kind
    rw [SyntaxNode.itemDefinitions_typed _ (.inl (by simpa using kind))]
    exact declaration_gives item
  rename_i notDeclaration
  split
  · rename_i kind
    rw [SyntaxNode.itemDefinitions_typed _ (.inr (by simpa using kind))]
    refine Gives.bind (typeDefinition_gives item.scope item.node) fun records read => .pure ?_
    unfold Completes
    rwa [Group.completeRecords_records, read.filter_complete]
  rename_i notTypedef
  rw [other (by simpa using notDeclaration) (by simpa using notTypedef)]
  split
  · exact .after fun _ => .pure .nil
  · exact .pure .nil

theorem group_gives (item : Item) :
    Gives (group item) (Completes (item.node.itemDefinitions .followed)) := by
  by_cases kind : item.node.kind = "template_declaration"
  · rw [SyntaxNode.itemDefinitions_template _ kind]
    rcases found : item.node.namedChildren.find? (·.kind != "template_parameter_list") with
      _ | inner
    · have held : item.node.templated .followed = [] := by
        simp [SyntaxNode.templated, found]
      rw [held, List.flatMap_nil, group, if_pos (beq_iff_eq.mpr kind)]
      split
      · rename_i same
        cases found.symm.trans same
      · exact .pure .nil
    · have smaller := SyntaxNode.sizeOf_namedChildren_lt (List.mem_of_find?_eq_some found)
      have held : item.node.templated .followed = [inner] := by
        simp [SyntaxNode.templated, found]
      rw [held, List.flatMap_singleton, group_template kind found]
      exact group_gives { item with node := inner }
  · exact group_single_gives kind
termination_by sizeOf item.node

end SessionPart

/-! ## Files -/

/-- Items that lead to definitions.  Nothing is said about what comes after a fault. -/
inductive Leads : List (Except ReadFault Item) → List SyntaxNode → Prop
  | nil : Leads [] []
  | item {item : Item} {rest : List (Except ReadFault Item)} {sites : List SyntaxNode}
      (later : Leads rest sites) :
      Leads (.ok item :: rest) (item.node.itemDefinitions .followed ++ sites)
  | fault {fault : ReadFault} {rest : List (Except ReadFault Item)} {sites : List SyntaxNode} :
      Leads (.error fault :: rest) sites

theorem Leads.append {items more : List (Except ReadFault Item)} {sites others : List SyntaxNode}
    (first : Leads items sites) (second : Leads more others) :
    Leads (items ++ more) (sites ++ others) := by
  induction first with
  | nil => exact second
  | item _ ih =>
    rw [List.append_assoc]
    exact .item ih
  | fault => exact .fault

theorem Leads.flatMap {items : SyntaxNode → List (Except ReadFault Item)}
    {sites : SyntaxNode → List SyntaxNode} (children : List SyntaxNode)
    (each : ∀ child ∈ children, Leads (items child) (sites child)) :
    Leads (children.flatMap items) (children.flatMap sites) := by
  induction children with
  | nil => exact .nil
  | cons child rest ih =>
    rw [List.flatMap_cons, List.flatMap_cons]
    exact (each child List.mem_cons_self).append
      (ih fun child later => each child (List.mem_cons_of_mem _ later))

theorem Item.all_leads (scope : List CodeText) (externC : Bool) (container : SyntaxNode) :
    Leads (Item.all scope externC container) (container.definitions .followed) := by
  rw [Item.all, SyntaxNode.definitions]
  simp only [List.flatMap_subtype, List.unattach_attach]
  refine Leads.flatMap _ fun child listed => ?_
  have smaller := SyntaxNode.sizeOf_items_lt listed
  have single (node : SyntaxNode) (externC : Bool) :
      Leads [.ok { node, scope, externC }] (node.itemDefinitions .followed) := by
    simpa using Leads.item Leads.nil
  split
  · rename_i kind
    rw [SyntaxNode.childDefinitions_namespace _ (beq_iff_eq.mp kind)]
    split
    · exact .fault
    split
    · rename_i body found
      have inner := SyntaxNode.sizeOf_child?_lt found
      rw [found]
      exact Item.all_leads _ _ body
    · rename_i missing
      rw [missing]
      exact .nil
  rename_i notNamespace
  split
  · rename_i kind
    rw [SyntaxNode.childDefinitions_linkage _ (beq_iff_eq.mp kind)]
    split
    · exact .fault
    split
    · rename_i body found
      have inner := SyntaxNode.sizeOf_child?_lt found
      rw [found, Option.elim_some]
      split
      · rename_i list
        have listKind : body.isKind ["translation_unit", "declaration_list"] = true := by
          simp [SyntaxNode.isKind, beq_iff_eq.mp list]
        rw [if_pos (by simp [list]), SyntaxNode.childDefinitions_list _ listKind]
        exact Item.all_leads _ _ body
      · rename_i item
        rw [if_neg (by simpa using item)]
        exact single body _
    · rename_i missing
      rw [missing]
      exact .nil
  rename_i notLinkage
  split
  · rename_i kind
    rw [SyntaxNode.childDefinitions_list _ kind]
    exact Item.all_leads _ _ child
  · rename_i notList
    have itemKind : child.isKind SyntaxNode.containerKinds = false := by
      simp_all [SyntaxNode.isKind, SyntaxNode.containerKinds]
    rw [SyntaxNode.childDefinitions_item _ itemKind]
    exact single child _
termination_by sizeOf container
decreasing_by all_goals omega

namespace Session

theorem readItems_completes {items : List (Except ReadFault Item)} {sites : List SyntaxNode}
    (leads : Leads items sites) (session : Session) :
    ∃ read unread, sites = read ++ unread ∧
      ReadFrom read ((session.readItems items).1.flatMap Group.completeRecords) ∧
      ((session.readItems items).2.1 = none → unread = []) := by
  induction leads generalizing session with
  | nil => exact ⟨[], [], rfl, .nil, fun _ => rfl⟩
  | fault => exact ⟨[], _, rfl, .nil, fun none => by cases none⟩
  | @item item rest sites later ih =>
    rcases ran : (SessionPart.group item).run session with ⟨fault | group, after⟩
    · simp only [readItems, readItem, ran, Except.mapError]
      exact ⟨[], _, rfl, .nil, fun none => by cases none⟩
    · obtain ⟨read, unread, rfl, records, whole⟩ := ih after
      have first := SessionPart.group_gives item session group after ran
      refine ⟨_ ++ read, unread, (List.append_assoc _ _ _).symm, ?_, ?_⟩
      · simp only [readItems, readItem, ran, Except.mapError]
        split
        · rename_i empty
          have none_read : group = [] := List.isEmpty_iff.mp empty
          subst none_read
          exact first.append records
        · exact first.append records
      · simpa only [readItems, readItem, ran, Except.mapError] using whole

end Session

/-- The complete records that are read from a tree belong, one by one and in order, to the
definitions in the places that are followed, up to the first fault. -/
theorem extract_completes (file : CodeText) (types : KnownTypes) (tree : SyntaxNode) :
    ∃ read unread, tree.definitions .followed = read ++ unread ∧
      ReadFrom read (extract file types tree).completeRecords ∧
      ((extract file types tree).fault = none → unread = []) :=
  Session.readItems_completes (Item.all_leads [] false tree) { file, types }

/-! ## All definitions of a file -/

/-- The definitions that are followed yield one complete record each, up to the first fault, and
no other complete record comes out.  In a plain tree these are all definitions. -/
theorem definitions_yielded_once (file : CodeText) (types : KnownTypes) (tree : SyntaxNode) :
    (tree.definitions .everywhere).Sublist tree.nodes ∧
      (tree.Plain → tree.definitions .everywhere = tree.definitions .followed) ∧
      ∃ read unread, tree.definitions .followed = read ++ unread ∧
        List.Forall₂ SyntaxNode.Defines read (extract file types tree).completeRecords ∧
        ((extract file types tree).fault = none → unread = []) :=
  ⟨tree.definitions_sublist .everywhere, tree.definitions_of_plain,
    extract_completes file types tree⟩

section

open SessionPart

def bodyNode (field : String) (name : UInt8) (members : List SyntaxNode) : SyntaxNode :=
  .mk { kind := "struct_specifier", field, named := true }
    [letterNode "type_identifier" "name" name,
      .mk { kind := "field_declaration_list", field := "body", named := true } members]

theorem typeDefinitions_bodyNode (reach : Reach) (unnamed : Bool) (field : String)
    (name : UInt8) :
    (bodyNode field name []).typeDefinitions reach unnamed = [bodyNode field name []] := by
  have none_inside : (bodyNode field name []).nestedDefinitions reach = [] :=
    SyntaxNode.nestedDefinitions_eq _ _
  rw [SyntaxNode.typeDefinitions, none_inside]
  cases unnamed <;> rfl

def innerField : SyntaxNode :=
  .mk { kind := "field_declaration", named := true }
    [bodyNode "type" 69 [], letterNode "field_identifier" "declarator" 101]

/-- `template <class T> struct D { struct E {} e; };` -/
def nestedTemplate : SyntaxNode :=
  .mk { kind := "template_declaration", named := true }
    [.mk { kind := "template_parameter_list", named := true } [], bodyNode "" 68 [innerField]]

def plainFile : SyntaxNode :=
  .mk { kind := "translation_unit" } [nestedTemplate]

theorem plainFile_plain : plainFile.Plain := by
  have parameters : (SyntaxNode.mk { kind := "template_parameter_list", named := true } []).Plain :=
    SyntaxNode.plain_of_kinds (by decide)
  have record : (bodyNode "" 68 [innerField]).Plain :=
    SyntaxNode.plain_of_kinds (by decide)
  have template : nestedTemplate.IsPlain :=
    ⟨fun kind => absurd kind (by decide), fun _ => rfl, fun kind => absurd kind (by decide)⟩
  refine (SyntaxNode.isPlain_of_kind rfl).plain (List.forall_mem_singleton.mpr ?_)
  exact template.plain (List.forall_mem_cons.mpr ⟨parameters, List.forall_mem_singleton.mpr record⟩)

theorem plainFile_definitions :
    plainFile.definitions .everywhere = [bodyNode "type" 69 [], bodyNode "" 68 [innerField]] := by
  have inner : innerField.memberDefinitions .everywhere = [bodyNode "type" 69 []] :=
    (SyntaxNode.memberDefinitions_eq _ _).trans (typeDefinitions_bodyNode _ _ _ _)
  have nested : (bodyNode "" 68 [innerField]).nestedDefinitions .everywhere =
      [bodyNode "type" 69 []] := by
    rw [SyntaxNode.nestedDefinitions_eq]
    change [innerField].flatMap _ = _
    rw [List.flatMap_singleton, inner]
  change [nestedTemplate].flatMap _ = _
  rw [List.flatMap_singleton, SyntaxNode.childDefinitions_item _ rfl,
    SyntaxNode.itemDefinitions_template _ rfl]
  change [bodyNode "" 68 [innerField]].flatMap _ = _
  rw [List.flatMap_singleton, SyntaxNode.itemDefinitions_record _ rfl, SyntaxNode.typeDefinitions,
    nested]
  rfl

theorem plainFile_read : (extract "t.h" { model := .lp64 } plainFile).fault = none := by
  have items_eq : Item.all [] false plainFile = [.ok { node := nestedTemplate }] := by
    rw [Item.all]
    rfl
  have inner (scope : List CodeText) (className : Option CodeText) (state : MemberState) :=
    @readMember_typed innerField (bodyNode "type" 69 []) scope className state rfl rfl
  have group_eq : group { node := nestedTemplate } = (do
      return (← readRecord [] none (bodyNode "" 68 [innerField])).all.map .record) := by
    rw [group_template rfl rfl, group]
    rfl
  have members_eq :
      (SyntaxNode.mk { kind := "field_declaration_list", field := "body", named := true }
        [innerField]).items = [innerField] := rfl
  rw [extract, items_eq]
  simp only [Session.readItems, Session.readItem, group_eq]
  rw [@readRecord_eq [] none (bodyNode "" 68 [innerField]) _ rfl]
  simp only [members_eq, List.foldlM_cons, List.foldlM_nil, inner, readSpecifier,
    fun scope => @readRecord_eq scope none (bodyNode "type" 69 []) _ rfl]
  decide +kernel

theorem plainFile_yields_both :
    plainFile.Plain ∧ (extract "t.h" { model := .lp64 } plainFile).fault = none ∧
      List.Forall₂ SyntaxNode.Defines [bodyNode "type" 69 [], bodyNode "" 68 [innerField]]
        (extract "t.h" { model := .lp64 } plainFile).completeRecords := by
  obtain ⟨-, followed, read, unread, split, records, whole⟩ :=
    definitions_yielded_once "t.h" { model := .lp64 } plainFile
  rw [← followed plainFile_plain, whole plainFile_read, List.append_nil,
    plainFile_definitions] at split
  rw [split]
  exact ⟨plainFile_plain, plainFile_read, records⟩

def synonymOfRecord : SyntaxNode :=
  .mk { kind := "alias_declaration", named := true }
    [letterNode "type_identifier" "name" 65,
      .mk { kind := "type_descriptor", field := "type", named := true } [bodyNode "type" 66 []]]

def commentedTemplate : SyntaxNode :=
  .mk { kind := "template_declaration", named := true }
    [.mk { kind := "template_parameter_list", named := true } [],
      .mk { kind := "comment", named := true } [], bodyNode "" 67 []]

def lossyFile : SyntaxNode :=
  .mk { kind := "translation_unit" } [synonymOfRecord, commentedTemplate]

theorem lossyFile_definitions :
    lossyFile.definitions .everywhere = [bodyNode "type" 66 [], bodyNode "" 67 []] := by
  have first : synonymOfRecord.childDefinitions .everywhere = [bodyNode "type" 66 []] := by
    rw [SyntaxNode.childDefinitions_item _ rfl, SyntaxNode.itemDefinitions_single _ (by decide)]
    exact typeDefinitions_bodyNode _ _ _ _
  have second : commentedTemplate.childDefinitions .everywhere = [bodyNode "" 67 []] := by
    rw [SyntaxNode.childDefinitions_item _ rfl, SyntaxNode.itemDefinitions_template _ rfl]
    change [bodyNode "" 67 []].flatMap _ = _
    rw [List.flatMap_singleton, SyntaxNode.itemDefinitions_record _ rfl, typeDefinitions_bodyNode]
  change [synonymOfRecord, commentedTemplate].flatMap _ = _
  rw [List.flatMap_cons, List.flatMap_singleton, first, second, List.singleton_append]

/-- A record that is defined in a synonym, or after a comment in a template declaration, gets
lost without a fault. -/
theorem lossyFile_yields_nothing :
    lossyFile.definitions .everywhere = [bodyNode "type" 66 [], bodyNode "" 67 []] ∧
      (extract "t.h" { model := .lp64 } lossyFile).groups = [] ∧
      (extract "t.h" { model := .lp64 } lossyFile).fault = none := by
  have items_eq : Item.all [] false lossyFile =
      [.ok { node := synonymOfRecord }, .ok { node := commentedTemplate }] := by
    rw [Item.all]
    rfl
  have first : group { node := synonymOfRecord } =
      (do synonym [] synonymOfRecord; return []) := by
    rw [group]
    rfl
  have second (session : Session) :
      (group { node := commentedTemplate }).run session = (.ok [], session) := by
    rw [group_template rfl rfl, group]
    rfl
  refine ⟨lossyFile_definitions, ?_⟩
  rw [extract, items_eq]
  simp only [Session.readItems, Session.readItem, second]
  rw [first, synonym_eq [] rfl rfl rfl, readSpecifier,
    @readRecord_eq [] none (bodyNode "type" 66 []) _ rfl]
  decide +kernel

end

end TypeCatalog
