import TypeCatalog.Proofs.LookingParts
import TypeCatalog.Proofs.NormalForm
import TypeCatalog.Proofs.RecordNames
import TypeCatalog.Proofs.TextParts

/-!
# Records after an item that is given up

Whether an item can be read or not, each record that was known before is still
known, unless the item has a definition of the same name.  A definition enters
its record without a layout before its members are read, and if they cannot be
read it stays without one.
-/

namespace TypeCatalog

open Text (CodeText joinWith joinWith_append)

/-! ## Records of a table -/

namespace KnownTypes

def HasRecord (table : KnownTypes) (key : CodeText) (entry : KnownType) : Prop :=
  table.find? key = some entry ∧ entry.kind = .record

/-- Every record of a table is known in another, unless one that may be entered took its name. -/
def Keeps (enters : KnownType → Prop) (before after : KnownTypes) : Prop :=
  ∀ key entry, before.HasRecord key entry → ∃ new, after.HasRecord key new ∧
    (new = entry ∨ enters new ∧ Name.normalize new.name = key)

variable {enters : KnownType → Prop} {table middle after : KnownTypes} {entry : KnownType}
  {key : CodeText}

theorem Keeps.refl (table : KnownTypes) : table.Keeps enters table :=
  fun _ entry known => ⟨entry, known, .inl rfl⟩

theorem Keeps.trans (first : table.Keeps enters middle) (second : middle.Keeps enters after) :
    table.Keeps enters after := by
  intro key entry known
  obtain ⟨new, known, kept⟩ := first key entry known
  obtain ⟨last, known, same | replaced⟩ := second key new known
  · exact ⟨last, known, same ▸ kept⟩
  · exact ⟨last, known, .inr replaced⟩

theorem find?_insert_of_ne (table : KnownTypes) (entry : KnownType) {other : CodeText}
    (ne : other ≠ key) : (table.insert key entry).find? other = table.find? other := by
  have kept (entries : List (CodeText × KnownType)) :
      (entries.filter (·.1 != key)).lookup other = entries.lookup other := by
    induction entries with
    | nil => rfl
    | cons pair rest ih =>
        obtain ⟨name, present⟩ := pair
        rw [List.filter_cons, List.lookup_cons]
        split
        · rw [List.lookup_cons, ih]
        · rename_i dropped
          have same : name = key := by simpa using dropped
          rw [ih, beq_eq_false_iff_ne.mpr (same ▸ ne)]
  rw [find?, insert, List.lookup_cons, beq_eq_false_iff_ne.mpr ne]
  exact kept table.entries

/-- A record is not replaced by what is entered under another name or is no record. -/
theorem HasRecord.define (known : table.HasRecord key entry) {new : KnownType}
    (other : new.kind = .record → key ≠ Name.normalize new.name) :
    (table.define new).HasRecord key entry := by
  obtain ⟨found, record⟩ := known
  refine ⟨?_, record⟩
  by_cases same : key = Name.normalize new.name
  · have keeps : table.keepsRecord new = true := by
      have apart : new.kind ≠ .record := fun kind => other kind same
      simp [keepsRecord, ← same, found, record, apart]
    rwa [KnownTypes.define, if_pos keeps]
  · rw [KnownTypes.define]
    split
    · exact found
    · rwa [find?_insert_of_ne _ _ same]

theorem Keeps.define {new : KnownType} (entered : new.kind = .record → enters new)
    (table : KnownTypes) : table.Keeps enters (table.define new) := by
  intro key entry known
  by_cases replaced : new.kind = .record ∧ key = Name.normalize new.name
  · obtain ⟨record, rfl⟩ := replaced
    exact ⟨new, ⟨find?_define table record, record⟩, .inr ⟨entered record, rfl⟩⟩
  · exact ⟨entry, known.define fun record same => replaced ⟨record, same⟩, .inl rfl⟩

end KnownTypes

/-! ## Parts of a session -/

namespace SessionPart

variable {α β : Type} {enters : KnownType → Prop} {scope : List CodeText}

def Keeps (enters : KnownType → Prop) (part : SessionPart α) : Prop :=
  ∀ session : Session, session.types.Keeps enters (part.run session).2.types

theorem Looks.types_eq {part : SessionPart α} (looks : Looks part) (session : Session) :
    (part.run session).2.types = session.types := by
  obtain ⟨result, comes⟩ := looks session.file session.types
  obtain ⟨later, ran⟩ := comes session.reports
  rw [ran]

theorem Looks.keeps {part : SessionPart α} (looks : Looks part) : Keeps enters part := by
  intro session
  rw [looks.types_eq]
  exact .refl _

namespace Keeps

theorem bind {part : SessionPart α} {next : α → SessionPart β} (first : Keeps enters part)
    (rest : ∀ a, Keeps enters (next a)) : Keeps enters (part >>= next) := by
  intro session
  have kept := first session
  rw [run_bind]
  rcases ran : part.run session with ⟨fault | a, middle⟩ <;> rw [ran] at kept
  · exact kept
  · exact kept.trans (rest a middle)

theorem pure (a : α) : Keeps enters (pure a) :=
  (Looks.pure a).keeps

theorem reading (reading : Except ReadFault α) : Keeps enters (liftM reading) :=
  (Looks.reading reading).keeps

theorem discard {part : SessionPart α} (keeps : Keeps enters part) :
    Keeps enters (discard part) :=
  keeps.bind fun _ => .pure _

theorem composes (enters : KnownType → Prop) :
    Composes fun α (part : SessionPart α) => Keeps enters part where
  pure := pure
  bind := bind

theorem define {entry : KnownType} (entered : entry.kind = .record → enters entry) :
    Keeps enters (define entry) := by
  intro session
  obtain ⟨after, ran, types_eq⟩ := @run_define session entry
  rw [ran, types_eq]
  exact .define entered _

end Keeps

/-! ## Types that are no records -/

theorem synonyms_keeps (layout : Layout) (attributes : List Attribute)
    (declarators : List SyntaxNode) :
    Keeps enters (synonyms scope layout attributes declarators) := by
  refine (Keeps.composes enters).forM fun node _ => (declarator_looks _ _).keeps.bind fun info => ?_
  split
  · exact .pure _
  · exact (Keeps.reading _).bind fun text => .define nofun

theorem enumeration_keeps (node : SyntaxNode) : Keeps enters (enumeration node scope) := by
  have rest (layout : Layout) : Keeps enters (keepEnumeration node scope layout) := by
    unfold keepEnumeration
    dsimp only
    split
    · exact (Keeps.reading _).bind fun text => (Keeps.define nofun).bind fun _ => .pure _
    · exact .pure _
  refine types_looks.keeps.bind fun table => ?_
  dsimp only
  split
  · exact (Keeps.reading _).bind fun text => rest _
  · exact rest _

theorem plainType_keeps (spelling : CodeText) (node : SyntaxNode) :
    Keeps enters (plainType scope spelling node) := by
  unfold plainType
  split
  · exact types_looks.keeps.bind fun table => .pure _
  split
  · split
    · exact .pure _
    · exact (Keeps.reading _).bind fun text => (namedType_looks _ _).keeps
  split
  · split
    · refine (enumeration_keeps node).bind fun layout => ?_
      dsimp only
      split
      · exact (Keeps.reading _).bind fun text => .pure _
      · exact .pure _
    · exact (Keeps.reading _).bind fun text => (resolve_looks _ _).keeps.bind fun _ => .pure _
  split
  · exact (namedType_looks _ _).keeps
  · exact (report_looks _ _ _).keeps.bind fun _ => .pure _

theorem recordPlan_types_eq (scope : List CodeText) (head : RecordHead) (node body : SyntaxNode)
    (session : Session) :
    ((recordPlan scope head node body).run session).2.types = head.declared session.types := by
  have rest : Looks (do
      let bases ← bases node scope head.defaultAccess
      let declared ← (body.items.anyM SyntaxNode.marksVirtual : Except ReadFault Bool)
      return ({ head, bases,
                dynamic := declared || bases.any fun b => b.isVirtual || b.isDynamic } :
        RecordPlan)) :=
    (bases_looks _ _).bind fun bases => (Looks.reading _).bind fun declared => .pure _
  obtain ⟨start, warned, types_eq⟩ : ∃ start,
      (warnErrors body.hasError head).run session = (.ok (), start) ∧
        start.types = session.types := by
    unfold warnErrors
    split <;> exact ⟨_, rfl, rfl⟩
  obtain ⟨entered, defined, declared⟩ := @run_defineAny start (head.entry? .unresolved false false)
  rw [recordPlan_eq, run_bind, warned]
  dsimp only
  rw [soundPlan, run_bind, defined]
  refine (rest.types_eq entered).trans ?_
  rw [declared, types_eq]
  rfl

end SessionPart

/-! ## Definitions -/

/-- The layouts that are left behind when a definition is read, to its end or not. -/
inductive Leaves (scope : List CodeText) (given : Option CodeText) (node : SyntaxNode) :
    Layout → Prop
  | finished {session after : Session} {built : RecordReading}
      (ran : (SessionPart.readRecord scope given node).run session = (.ok built, after)) :
      Leaves scope given node built.layout
  | givenUp {session after : Session} {fault : SessionFault}
      (ran : (SessionPart.readRecord scope given node).run session = (.error fault, after)) :
      Leaves scope given node .unresolved

/-- A record that a tree enters: one of its definitions is read in a scope inside a given one. -/
inductive Enters (root : SyntaxNode) (outer : List CodeText) (new : KnownType) : Prop
  | intro {node : SyntaxNode} {scope : List CodeText} {given : Option CodeText} {own : CodeText}
      (inside : node ∈ root.nodes) (defines : node.isDefinition = true) (within : outer <+: scope)
      (named : Text.proper? (node.writtenName given) = some own)
      (name_eq : new.name = Name.qualify scope own) (leaves : Leaves scope given node new.layout)

theorem Name.qualify_ne_nil (scope : List CodeText) {text : CodeText}
    (proper : normalize text ≠ []) : qualify scope (normalize text) ≠ [] := by
  intro empty
  have visible := congrArg (List.filter (!·.isBlank)) empty
  rw [qualify, filter_normalize, joinWith_append _ _ (List.cons_ne_nil _ [])] at visible
  have own : text.filter (!·.isBlank) = [] := by
    rw [← filter_normalize]
    split at visible
    · exact visible
    · exact (List.append_eq_nil_iff.mp (List.filter_append .. ▸ visible)).2
  rw [← map_tighten_rowOf, List.map_eq_nil_iff] at own
  exact proper (by rw [normalize_eq, own, shown_nil])

theorem Enters.name_ne {root : SyntaxNode} {scope : List CodeText} {own : CodeText}
    {new : KnownType}
    (entered : Enters root (scope ++ [own]) new) :
    Name.normalize new.name ≠ Name.normalize (Name.qualify scope own) := by
  obtain ⟨-, -, ⟨further, rfl⟩, -, name_eq, -⟩ := entered
  rename_i inner
  have longer : joinWith Name.scopeSeparator (scope ++ [own] ++ further ++ [inner]) =
      joinWith Name.scopeSeparator (scope ++ [own]) ++
        (Name.scopeSeparator ++ joinWith Name.scopeSeparator (further ++ [inner])) := by
    rw [List.append_assoc, joinWith_append _ _ (by simp), if_neg (by simp), List.append_assoc]
  have separated : Name.scopeSeparator.filter (!·.isBlank) = Name.scopeSeparator := by decide
  intro same
  have visible := congrArg (List.filter (!·.isBlank)) same
  rw [name_eq] at visible
  simp only [Name.qualify, Name.filter_normalize, longer, List.filter_append, separated,
    List.append_right_eq_self] at visible
  cases visible

namespace SessionPart

open SyntaxNode

variable {root node : SyntaxNode} {outer scope : List CodeText} {given : Option CodeText}

theorem recordHead_entry? {session headed : Session} {head : RecordHead}
    (heads : (recordHead scope given node).run session = (.ok head, headed)) {layout : Layout}
    {dynamic empty : Bool} {entry : KnownType}
    (entered : head.entry? layout dynamic empty = some entry) :
    ∃ own, Text.proper? (node.writtenName given) = some own ∧
      entry.name = Name.qualify scope own := by
  obtain ⟨name, named, rfl⟩ := Option.map_eq_some_iff.mp entered
  have qualified := (Option.filter_eq_some_iff.mp named).1
  rw [(recordHead_reads _ _ _ _ _ _ heads).2] at qualified
  obtain ⟨own, own_eq, rfl⟩ := Option.map_eq_some_iff.mp qualified
  rw [RecordHead.ownName, recordHead_writtenName _ _ _ _ _ _ heads] at own_eq
  exact ⟨own, own_eq, rfl⟩

theorem finishRecord_succeeds (plan : RecordPlan) (state : MemberState) (session : Session) :
    ∃ built after, (finishRecord plan state).run session = (.ok built, after) := by
  obtain ⟨entered, defined, -⟩ := @run_defineAny session (plan.entry? state)
  change ∃ built after, ((plan.entry? state).forM define >>= fun _ => _).run session = _
  rw [run_bind, defined]
  exact ⟨_, _, rfl⟩

section Stages

variable {body : SyntaxNode} {enters : KnownType → Prop} {session after : Session}

theorem keeps_of_failed (found : node.child? "body" = some body) {headed : Session}
    {head : RecordHead} {fault : SessionFault}
    (members : ∀ inner ∈ body.items, ∀ className state,
      Keeps enters (readMember (head.memberScope scope) className state inner))
    (heads : (recordHead scope given node).run session = (.ok head, headed))
    (ran : (readRecord scope given node).run session = (.error fault, after)) :
    (head.declared session.types).Keeps enters after.types := by
  have head_types := (recordHead_looks scope given node).types_eq session
  rw [heads] at head_types
  rw [readRecord_eq scope given found, run_bind, heads] at ran
  dsimp only at ran head_types
  have plan_types := recordPlan_types_eq scope head node body headed
  rw [run_bind] at ran
  rcases plans : (recordPlan scope head node body).run headed with ⟨reason | plan, planned⟩ <;>
    rw [plans] at ran plan_types <;> dsimp only at ran plan_types
  · cases ran
    rw [plan_types, head_types]
    exact .refl _
  rw [run_bind, run_types] at ran
  dsimp only at ran
  have kept := (Keeps.composes _).foldlM (members · · head.writtenName)
    (plan.start planned.types.model) planned
  rw [run_bind] at ran
  rcases reads : (body.items.foldlM (readMember (head.memberScope scope) head.writtenName)
    (plan.start planned.types.model)).run planned with ⟨reason | state, read⟩ <;>
    rw [reads] at ran kept <;> dsimp only at ran kept
  · cases ran
    rwa [plan_types, head_types] at kept
  · obtain ⟨built, last, finished⟩ := finishRecord_succeeds plan state read
    rw [finished] at ran
    cases ran

theorem RecordRun.keeps_members {built : RecordReading}
    (run : RecordRun scope given node body session built after)
    (members : ∀ inner ∈ body.items, ∀ className state,
      Keeps enters (readMember (run.head.memberScope scope) className state inner)) :
    (run.head.declared session.types).Keeps enters run.read.types := by
  have head_types := (recordHead_looks scope given node).types_eq session
  rw [run.heads] at head_types
  have kept := (Keeps.composes _).foldlM (members · · run.head.writtenName)
    (run.plan.start run.planned.types.model) run.planned
  rw [run.reads] at kept
  rwa [types_of_recordPlan run.plans, head_types] at kept

end Stages

theorem enters_of_failed {session headed after : Session} {head : RecordHead}
    {fault : SessionFault} {entry : KnownType} (inside : node ∈ root.nodes)
    (defines : node.isDefinition = true) (within : outer <+: scope)
    (heads : (recordHead scope given node).run session = (.ok head, headed))
    (ran : (readRecord scope given node).run session = (.error fault, after))
    (entered : head.entry? .unresolved false false = some entry) : Enters root outer entry := by
  obtain ⟨own, named, name_eq⟩ := recordHead_entry? heads entered
  obtain ⟨name, -, rfl⟩ := Option.map_eq_some_iff.mp entered
  exact .intro inside defines within named name_eq (.givenUp ran)

theorem RecordRun.enters {body : SyntaxNode} {session after : Session} {built : RecordReading}
    (run : RecordRun scope given node body session built after) {entry : KnownType}
    (inside : node ∈ root.nodes) (defines : node.isDefinition = true) (within : outer <+: scope)
    (ran : (readRecord scope given node).run session = (.ok built, after))
    (entered : run.plan.entry? run.state = some entry) : Enters root outer entry := by
  rw [RecordPlan.entry?, run.plan_head] at entered
  obtain ⟨own, named, name_eq⟩ := recordHead_entry? run.heads entered
  obtain ⟨name, -, rfl⟩ := Option.map_eq_some_iff.mp entered
  have layout_eq : built.layout = (run.plan.finish run.state).finish := by
    rw [RecordReading.layout, run.record_eq]
    rfl
  exact .intro inside defines within named name_eq (layout_eq ▸ .finished ran)

theorem readRecord_keeps_of_members {body : SyntaxNode} (inside : node ∈ root.nodes)
    (isRecord : node.isRecord = true) (found : node.child? "body" = some body)
    (within : outer <+: scope)
    (members : ∀ inner ∈ body.items, ∀ head : RecordHead, ∀ className state,
      Keeps (Enters root outer) (readMember (head.memberScope scope) className state inner)) :
    Keeps (Enters root outer) (readRecord scope given node) := by
  have defines : node.isDefinition = true := by
    rw [SyntaxNode.isDefinition, isRecord, found]
    rfl
  intro session
  rcases ran : (readRecord scope given node).run session with ⟨fault | built, after⟩
  · have head_types := (recordHead_looks scope given node).types_eq session
    rcases heads : (recordHead scope given node).run session with ⟨reason | head, headed⟩
    · rw [heads] at head_types
      rw [readRecord_eq scope given found, run_bind, heads] at ran
      cases ran
      rw [head_types]
      exact .refl _
    · have kept := keeps_of_failed found (members · · head) heads ran
      refine KnownTypes.Keeps.trans ?_ kept
      rw [RecordHead.declared]
      rcases entered : head.entry? .unresolved false false with _ | entry
      · exact .refl _
      · exact .define (fun _ => enters_of_failed inside defines within heads ran entered) _
  · obtain ⟨run⟩ := nonempty_recordRun found ran
    have kept := run.keeps_members (members · · run.head)
    rw [run.types_eq]
    rcases named : Text.proper? run.head.qualified with _ | name
    · have unnamed : run.plan.entry? run.state = none := by
        rw [RecordPlan.entry?, run.plan_head, RecordHead.entry?, named]
        rfl
      rw [RecordHead.declared, RecordHead.entry?, named] at kept
      rwa [unnamed]
    · obtain ⟨final, entered, name_eq, record⟩ : ∃ final,
          run.plan.entry? run.state = some final ∧ final.name = name ∧ final.kind = .record := by
        rw [RecordPlan.entry?, run.plan_head, RecordHead.entry?, named]
        exact ⟨_, rfl, rfl, rfl⟩
      rw [entered]
      intro key entry known
      by_cases own : key = Name.normalize name
      · rw [own, ← name_eq]
        exact ⟨final, ⟨KnownTypes.find?_define _ record, record⟩,
          .inr ⟨run.enters inside defines within ran entered, rfl⟩⟩
      · -- neither the record without its layout nor the one with it took the name
        rw [RecordHead.declared, RecordHead.entry?, named] at kept
        obtain ⟨new, known, replaced⟩ := kept key entry (known.define fun _ => own)
        exact ⟨new, known.define fun _ => name_eq ▸ own, replaced⟩

-- The readings call each other, so what they keep is proved together.
mutual

theorem readSpecifier_keeps {node : SyntaxNode} (inside : node ∈ root.nodes)
    {scope : List CodeText} (within : outer <+: scope) :
    Keeps (Enters root outer) (readSpecifier scope node) := by
  rw [readSpecifier]
  refine (Keeps.reading _).bind fun text => ?_
  dsimp only
  split
  · rename_i defined
    have isRecord : node.isRecord = true := by simp_all
    refine (readRecord_keeps inside isRecord within none).bind fun built => ?_
    split
    · exact (Keeps.reading _).bind fun name => .pure _
    · exact .pure _
  · exact plainType_keeps _ _
termination_by (sizeOf node, 1)
decreasing_by exact Prod.Lex.right _ (by omega)

theorem readRecord_keeps {node : SyntaxNode} (inside : node ∈ root.nodes)
    (isRecord : node.isRecord = true) {scope : List CodeText} (within : outer <+: scope)
    (given : Option CodeText) : Keeps (Enters root outer) (readRecord scope given node) := by
  rcases found : node.child? "body" with _ | body
  · rw [readRecord]
    refine (recordHead_looks scope given node).keeps.bind fun head => ?_
    split
    · exact .pure _
    · rename_i same
      cases found.symm.trans same
  · have below := mem_nodes_of_child? inside found
    refine readRecord_keeps_of_members inside isRecord found within
      fun member listed head className state => ?_
    exact readMember_keeps (mem_nodes_of_items below listed)
      (within.trans (List.prefix_append _ _)) className state
termination_by (sizeOf node, 0)
decreasing_by
  have inner := SyntaxNode.sizeOf_items_lt listed
  have outer := SyntaxNode.sizeOf_child?_lt found
  exact Prod.Lex.left _ _ (by omega)

theorem readMember_keeps {member : SyntaxNode} (inside : member ∈ root.nodes)
    {scope : List CodeText} (within : outer <+: scope) (className : Option CodeText)
    (state : MemberState) :
    Keeps (Enters root outer) (readMember scope className state member) := by
  rw [readMember]
  split
  · split
    · rename_i type found
      have smaller := SyntaxNode.sizeOf_child?_lt found
      refine (readSpecifier_keeps (mem_nodes_of_child? inside found) within).bind fun type => ?_
      exact (readDeclarators_looks _ _ _ _).keeps
    · rw [pure_bind]
      exact (readDeclarators_looks _ _ _ _).keeps
  split
  · exact (typeDefinition_keeps inside within).bind fun records => .pure _
  split
  · exact (synonym_keeps inside within).bind fun _ => .pure _
  split
  · exact (report_looks _ _ _).keeps.bind fun _ => .pure _
  · exact .pure _
termination_by (sizeOf member, 1)
decreasing_by
  · exact Prod.Lex.right _ (by omega)
  · exact Prod.Lex.right _ (by omega)
  · exact Prod.Lex.left _ _ smaller

theorem typeDefinition_keeps {node : SyntaxNode} (inside : node ∈ root.nodes)
    {scope : List CodeText} (within : outer <+: scope) :
    Keeps (Enters root outer) (typeDefinition scope node) := by
  rw [typeDefinition]
  split
  · exact (synonyms_keeps _ _ _).bind fun _ => .pure _
  rename_i type found
  have smaller := SyntaxNode.sizeOf_child?_lt found
  have below := mem_nodes_of_child? inside found
  split
  · rename_i defined
    have isRecord : type.isRecord = true := by simp_all
    refine (givenName_looks _ _).keeps.bind fun given => ?_
    refine (readRecord_keeps below isRecord within given).bind fun built => ?_
    exact (synonyms_keeps _ _ _).bind fun _ => .pure _
  · refine (readSpecifier_keeps below within).bind fun resolved => ?_
    exact (synonyms_keeps _ _ _).bind fun _ => .pure _
termination_by (sizeOf node, 0)
decreasing_by all_goals exact Prod.Lex.left _ _ smaller

theorem synonym_keeps {node : SyntaxNode} (inside : node ∈ root.nodes) {scope : List CodeText}
    (within : outer <+: scope) : Keeps (Enters root outer) (synonym scope node) := by
  have rest (name descriptor : SyntaxNode) (type : SpecifiedType) : Keeps (Enters root outer) (do
      let info ← declarator (descriptor.child? "declarator") type.layout
      define
        { name := Name.qualify scope (← name.text), kind := .synonym, layout := info.layout,
          attributes := if info.derived then [] else type.attributes }) :=
    (declarator_looks _ _).keeps.bind fun info => (Keeps.reading _).bind fun text => .define nofun
  rw [synonym]
  split
  · rename_i name descriptor named outside
    have below := mem_nodes_of_child? inside outside
    split
    · rename_i type found
      have smaller : sizeOf type < sizeOf node :=
        Nat.lt_trans (SyntaxNode.sizeOf_child?_lt found) (SyntaxNode.sizeOf_child?_lt outside)
      refine (readSpecifier_keeps (mem_nodes_of_child? below found) within).bind fun type => ?_
      exact rest name descriptor type
    · rw [pure_bind]
      exact rest name descriptor _
  · exact .pure _
termination_by (sizeOf node, 0)
decreasing_by exact Prod.Lex.left _ _ smaller

end

/-! ## Definitions that are given up -/

/-- A definition that is given up among its members stays known without a layout. -/
theorem hasRecord_of_failed {body : SyntaxNode} (found : node.child? "body" = some body)
    {session headed after : Session} {head : RecordHead} {fault : SessionFault}
    {entry : KnownType}
    (heads : (recordHead scope given node).run session = (.ok head, headed))
    (ran : (readRecord scope given node).run session = (.error fault, after))
    (entered : head.entry? .unresolved false false = some entry) :
    after.types.HasRecord (Name.normalize entry.name) entry := by
  obtain ⟨own, named, name_eq⟩ := recordHead_entry? heads entered
  have record : entry.kind = .record := by
    obtain ⟨name, -, rfl⟩ := Option.map_eq_some_iff.mp entered
    rfl
  have scope_eq : head.memberScope scope = scope ++ [own] := by
    rw [RecordHead.memberScope, RecordHead.ownName, recordHead_writtenName _ _ _ _ _ _ heads, named]
    rfl
  have kept : (head.declared session.types).Keeps (Enters body (scope ++ [own])) after.types :=
    keeps_of_failed found (fun inner listed className state => scope_eq ▸
      readMember_keeps (mem_nodes_of_items body.self_mem_nodes listed) List.prefix_rfl className
        state) heads ran
  have known : (head.declared session.types).HasRecord (Name.normalize entry.name) entry := by
    rw [RecordHead.declared, entered]
    exact ⟨KnownTypes.find?_define _ record, record⟩
  obtain ⟨new, known, same | ⟨inner, same⟩⟩ := kept _ _ known
  · rwa [same] at known
  · exact absurd (name_eq ▸ same) inner.name_ne

/-! ## Items -/

theorem leadingType_keeps {item : Item} (inside : item.node ∈ root.nodes) :
    Keeps (Enters root item.scope) (leadingType item) := by
  unfold leadingType
  split
  · exact .pure _
  rename_i type found
  split
  · rename_i isRecord
    split
    · exact (readRecord_keeps (mem_nodes_of_child? inside found) isRecord List.prefix_rfl
        none).bind fun built => .pure _
    · exact .pure _
  dsimp only
  split
  · exact (enumeration_keeps _).discard.bind fun _ => .pure _
  · exact .pure _

theorem declaration_keeps {item : Item} (inside : item.node ∈ root.nodes) :
    Keeps (Enters root item.scope) (declaration item) := by
  refine (leadingType_keeps inside).bind fun leading => ?_
  refine ((Keeps.composes _).filterMapM fun node _ => ?_).bind fun _ => .pure _
  exact (declaredFunction_looks item _).keeps

theorem group_keeps {item : Item} (inside : item.node ∈ root.nodes) :
    Keeps (Enters root item.scope) (group item) := by
  rw [group]
  dsimp only
  split
  · split
    · rename_i inner found
      have listed := List.mem_of_find?_eq_some found
      have smaller := SyntaxNode.sizeOf_namedChildren_lt listed
      have below : ({ item with node := inner } : Item).node ∈ root.nodes :=
        mem_nodes_of_named inside listed
      exact group_keeps below
    · exact .pure _
  split
  · rename_i isRecord
    exact (readRecord_keeps inside isRecord List.prefix_rfl none).bind fun built => .pure _
  split
  · exact (enumeration_keeps _).discard.bind fun _ => .pure _
  split
  · exact (declaredFunction_looks item _).keeps.bind fun _ => .pure _
  split
  · exact declaration_keeps inside
  split
  · exact (typeDefinition_keeps inside List.prefix_rfl).bind fun records => .pure _
  split
  · exact (synonym_keeps inside List.prefix_rfl).bind fun _ => .pure _
  · exact .pure _
termination_by sizeOf item.node

theorem group_record {item : Item} (isRecord : item.node.isRecord = true) :
    group item = (do return (← readRecord item.scope none item.node).all.map .record) := by
  have single : (item.node.kind == "template_declaration") = false := by
    rw [beq_eq_false_iff_ne]
    intro kind
    rw [SyntaxNode.isRecord, kind] at isRecord
    cases isRecord
  rw [group]
  simp [single, isRecord]

theorem exists_recordHead {name : SyntaxNode} {text : CodeText} {attributes : List Attribute}
    (session : Session) (named : node.child? "name" = some name) (written : name.text = .ok text)
    (attributed : node.attributes = .ok attributes) (proper : Name.normalize text ≠ []) :
    ∃ head, (recordHead scope none node).run session = (.ok head, session) ∧
      head.entry? .unresolved false false = some
        { name := Name.qualify scope (Name.normalize text), kind := .record, layout := .unresolved,
          attributes } := by
  have own : Text.proper? (some (Name.normalize text)) = some (Name.normalize text) := by
    simp [Text.proper?, proper]
  have qualified : Text.proper? (some (Name.qualify scope (Name.normalize text))) =
      some (Name.qualify scope (Name.normalize text)) := by
    simp [Text.proper?, Name.qualify_ne_nil scope proper]
  refine ⟨{ kind := (recordKinds.lookup node.kind).getD "", writtenName := some (Name.normalize text),
            qualified := some (Name.qualify scope (Name.normalize text)), attributes,
            location := ⟨session.file, name.line⟩ }, ?_, ?_⟩
  · simp only [recordHead, named, written, attributed]
    rw [run_bind]
    change (Except.ok ({ qualified := (Text.proper? _).map _, .. } : RecordHead), session) = _
    rw [own]
    rfl
  · rw [RecordHead.entry?, qualified]
    rfl

end SessionPart

namespace Session

variable {session after : Session} {item : Item} {fault : ItemFault}

theorem readRecord_of_failed (isRecord : item.node.isRecord = true)
    (failed : session.readItem (.ok item) = (.error fault, after)) :
    ∃ reason, (SessionPart.readRecord item.scope none item.node).run session =
      (.error reason, after) := by
  rw [readItem, SessionPart.group_record isRecord, SessionPart.run_bind] at failed
  rcases ran : (SessionPart.readRecord item.scope none item.node).run session with
    ⟨reason | built, later⟩ <;> rw [ran] at failed <;> cases failed
  exact ⟨reason, rfl⟩

/-- When an item cannot be read, every record that was known before is still known, unless one that
the item defines has its name; and a definition with a name that is itself the item is then known
without a layout. -/
theorem readItem_failed (failed : session.readItem (.ok item) = (.error fault, after)) :
    session.types.Keeps (Enters item.node item.scope) after.types ∧
      ∀ name text attributes, item.node.isDefinition = true →
        item.node.child? "name" = some name → name.text = .ok text → Name.normalize text ≠ [] →
        item.node.attributes = .ok attributes →
        after.types.HasRecord (Name.normalize (Name.qualify item.scope (Name.normalize text)))
          { name := Name.qualify item.scope (Name.normalize text), kind := .record,
            layout := .unresolved, attributes } := by
  constructor
  · have kept := SessionPart.group_keeps item.node.self_mem_nodes session
    have after_eq : after = ((SessionPart.group item).run session).2 :=
      (congrArg Prod.snd failed).symm
    rwa [← after_eq] at kept
  · intro name text attributes defines named written proper attributed
    obtain ⟨isRecord, body⟩ : item.node.isRecord = true ∧ ∃ body,
        item.node.child? "body" = some body := by
      simpa [SyntaxNode.isDefinition, Option.isSome_iff_exists] using defines
    obtain ⟨body, found⟩ := body
    obtain ⟨reason, ran⟩ := readRecord_of_failed isRecord failed
    obtain ⟨head, heads, entered⟩ :=
      @SessionPart.exists_recordHead item.node item.scope name text attributes session named written
        attributed proper
    have known := SessionPart.hasRecord_of_failed found heads ran entered
    exact known

end Session

namespace SessionPart

def brokenType : SyntaxNode :=
  .mk { kind := "type_identifier", field := "type", named := true, bytes := none } []

def brokenMember : SyntaxNode :=
  .mk { kind := "field_declaration", named := true }
    [brokenType, letterNode "field_identifier" "declarator" 120]

def brokenBody : SyntaxNode :=
  .mk { kind := "field_declaration_list", field := "body", named := true } [brokenMember]

/-- `struct S { T x; };` with a type that cannot be read. -/
def brokenRecord : SyntaxNode :=
  .mk { kind := "struct_specifier", named := true }
    [letterNode "type_identifier" "name" 83, brokenBody]

def knowsRecord : Session where
  file := "t.h"
  types := ({ model := .lp64 } : KnownTypes).define
    { name := "S", kind := .record, layout := ⟨some 4, some 4⟩ }

theorem brokenRecord_failed : ∃ fault after,
    knowsRecord.readItem (.ok { node := brokenRecord }) = (.error fault, after) ∧
      (after.types.lookup "S" []).map (·.layout) = some .unresolved := by
  have read : (knowsRecord.readItem (.ok { node := brokenRecord })).1.toOption.isNone = true ∧
      ((knowsRecord.readItem (.ok { node := brokenRecord })).2.types.lookup "S" []).map
        (·.layout) = some .unresolved := by
    rw [Session.readItem, group_record rfl,
      @readRecord_single brokenRecord brokenBody brokenMember brokenType [] none rfl rfl rfl rfl rfl]
    decide +kernel
  rcases ran : knowsRecord.readItem (.ok { node := brokenRecord }) with ⟨fault | group, after⟩ <;>
    rw [ran] at read
  · exact ⟨fault, after, rfl, read.2⟩
  · cases read.1

theorem brokenRecord_keeps : ∃ fault after,
    knowsRecord.readItem (.ok { node := brokenRecord }) = (.error fault, after) ∧
      knowsRecord.types.Keeps (Enters brokenRecord []) after.types ∧
      after.types.HasRecord "S" { name := "S", kind := .record, layout := .unresolved } := by
  obtain ⟨fault, after, failed, -⟩ := brokenRecord_failed
  obtain ⟨kept, lost⟩ := Session.readItem_failed failed
  exact ⟨fault, after, failed, kept,
    lost _ "S" [] rfl rfl (by decide +kernel) (by decide +kernel) rfl⟩

/-- A record of four bytes has no layout once it was defined again with a broken member. -/
theorem brokenRecord_loses_layout :
    (knowsRecord.types.lookup "S" []).map (·.layout) = some ⟨some 4, some 4⟩ ∧
      ∃ fault after, knowsRecord.readItem (.ok { node := brokenRecord }) = (.error fault, after) ∧
        (after.types.lookup "S" []).map (·.layout) = some .unresolved :=
  ⟨by decide +kernel, brokenRecord_failed⟩

end SessionPart

end TypeCatalog
