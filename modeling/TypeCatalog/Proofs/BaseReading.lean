import Mathlib.Data.List.Forall2
import Mathlib.Data.List.InsertIdx
import TypeCatalog.Proofs.SessionAgreement

/-!
# Bases by the names of synonyms

A base clause that has a synonym in the place of a record gives the same bases
in the same order, apart from the name.  The layout of the derived record
depends on the shapes of its bases only; a synonym has the shape of its record
unless that is dynamic or empty and not a virtual base.
-/

namespace TypeCatalog

open Text (CodeText)

/-! ## Synonyms -/

def KnownType.synonym (type : KnownType) (name : CodeText) : KnownType :=
  { name, kind := .synonym, layout := type.layout, attributes := type.attributes }

structure NamesSynonym (table : KnownTypes) (scope : List CodeText) (record : KnownType)
    (spell : CodeText → CodeText) (node twin : SyntaxNode) : Prop where
  kind : node.isKind typeNameKinds = true
  twin_kind : twin.isKind typeNameKinds = true
  names : ∃ text, node.text = .ok text ∧ table.lookup (spell text) scope = some record
  twin_names : ∃ text name, twin.text = .ok text ∧
    table.lookup (spell text) scope = some (record.synonym name)

inductive KnownBase.Renamed (record : KnownType) : KnownBase → KnownBase → Prop
  | same (known : KnownBase) : Renamed record known known
  | synonym {base : Base} (name : CodeText) :
      Renamed record ⟨base, some record⟩
        ⟨{ base with type := { base.type with name := some name } }, some (record.synonym name)⟩

/-! ## Base clauses -/

inductive BaseNode (table : KnownTypes) (scope : List CodeText) (record : KnownType) :
    SyntaxNode → SyntaxNode → Prop
  | same {node twin : SyntaxNode} (kind : node.kind = twin.kind) (text : node.text = twin.text) :
      BaseNode table scope record node twin
  | renamed {node twin : SyntaxNode}
      (names : NamesSynonym table scope record Name.normalize node twin)
      (named : node.text ≠ .ok "virtual") (twin_named : twin.text ≠ .ok "virtual") :
      BaseNode table scope record node twin

inductive BaseName (table : KnownTypes) (scope : List CodeText) (record : KnownType) :
    Option SyntaxNode → Option SyntaxNode → Prop
  | absent : BaseName table scope record none none
  | same {node twin : SyntaxNode} (text : node.text = twin.text) :
      BaseName table scope record (some node) (some twin)
  | renamed {node twin : SyntaxNode}
      (names : NamesSynonym table scope record Name.normalize node twin) :
      BaseName table scope record (some node) (some twin)

structure ClauseAlike (table : KnownTypes) (scope : List CodeText) (record : KnownType)
    (first second : List KnownBase × BaseSpecifier) : Prop where
  bases : List.Forall₂ (KnownBase.Renamed record) first.1 second.1
  access : first.2.access = second.2.access
  virtual : first.2.virtual = second.2.virtual
  name : BaseName table scope record first.2.name second.2.name

namespace SessionPart

variable {session : Session} {scope : List CodeText} {record : KnownType}

theorem closeBase_known {node name : SyntaxNode} {access : Access} {bases : List KnownBase}
    {specifier : BaseSpecifier} {text : CodeText} {type : KnownType}
    (named : specifier.name = some name) (text_eq : name.text = .ok text)
    (found : session.types.lookup (Name.normalize text) scope = some type) :
    (closeBase node scope access bases specifier).run session =
      (.ok (bases ++
        [⟨{ type :=
              { name := some type.name, size := type.layout.size, align := type.layout.align,
                attributes := type.attributes },
            access := some (specifier.access.getD access), virtual := specifier.virtual },
          some type⟩]), session) := by
  simp only [closeBase, named, run_bind, run_reading, text_eq, Except.mapError, resolve_known found,
    Option.isNone_some, Bool.false_eq_true, ↓reduceIte]
  rfl

variable {table : KnownTypes} {first second : SyntaxNode}

def BasesAgree (table : KnownTypes) (record : KnownType) (bases others : List KnownBase)
    (after : Session) : Prop :=
  List.Forall₂ (KnownBase.Renamed record) bases others ∧ after.types = table

theorem closeBase_agree (name_eq : first.child? "name" = second.child? "name") (access : Access)
    {clause twin : List KnownBase × BaseSpecifier}
    (alike : ClauseAlike table scope record clause twin) (types_eq : session.types = table) :
    Agree (BasesAgree table record) (closeBase first scope access clause.1 clause.2)
      (closeBase second scope access twin.1 twin.2) session := by
  obtain ⟨bases, specifier⟩ := clause
  obtain ⟨others, other⟩ := twin
  obtain ⟨related, access_eq, virtual_eq, names⟩ := alike
  obtain ⟨access₁, virtual₁, name₁⟩ := specifier
  obtain ⟨access₂, virtual₂, name₂⟩ := other
  dsimp only at access_eq virtual_eq names related
  subst access_eq virtual_eq
  cases names with
  | absent => exact Agree.pure ⟨related, types_eq⟩
  | same text =>
      simp only [closeBase, text, name_eq]
      refine Agree.same_bind fun spelled after read => ?_
      rw [← types_eq, ← types_of_reading read]
      refine Agree.same_bind fun result resolved found => ?_
      rw [← types_of_resolve found]
      have extended (known : KnownBase) : List.Forall₂ (KnownBase.Renamed record)
          (bases ++ [known]) (others ++ [known]) :=
        List.rel_append related (.cons (.same known) .nil)
      split
      · refine Agree.same_bind fun owner read found => ?_
        rw [← types_of_reading found]
        refine Agree.same_bind fun _ reported found => ?_
        rw [← types_of_report found]
        exact Agree.pure ⟨extended _, rfl⟩
      · exact Agree.pure ⟨extended _, rfl⟩
  | @renamed node twin names =>
      -- the entries of a record and of its synonym have the same layout and attributes
      obtain ⟨text, text_eq, found⟩ := names.names
      obtain ⟨twin_text, name, twin_eq, twin_found⟩ := names.twin_names
      rw [← types_eq] at found twin_found
      unfold Agree
      rw [closeBase_known rfl text_eq found, closeBase_known rfl twin_eq twin_found]
      exact .ok ⟨List.rel_append related (.cons (.synonym name) .nil), types_eq⟩

theorem readBaseNode_name {node : SyntaxNode} {text : CodeText}
    {clause : List KnownBase × BaseSpecifier} (access : Access)
    (kind : node.isKind typeNameKinds = true) (text_eq : node.text = .ok text)
    (named : text ≠ "virtual") :
    (readBaseNode first scope access clause node).run session =
      (.ok (clause.1, { clause.2 with name := some node }), session) := by
  have kinds : node.kind = "type_identifier" ∨ node.kind = "qualified_identifier" ∨
      node.kind = "template_type" := by
    simpa [SyntaxNode.isKind, typeNameKinds] using kind
  have notComma : (node.kind == ",") = false := by
    rcases kinds with kind | kind | kind <;> simp [kind]
  have notVirtual : node.isKind virtualKinds = false := by
    rcases kinds with kind | kind | kind <;> simp [SyntaxNode.isKind, virtualKinds, kind]
  have notAccess : (node.kind == "access_specifier") = false := by
    rcases kinds with kind | kind | kind <;> simp [kind]
  simp only [readBaseNode, notComma, notVirtual, notAccess, kind, Bool.false_eq_true, ↓reduceIte,
    run_bind, run_reading, text_eq, Except.mapError, beq_eq_false_iff_ne.mpr named]
  rfl

def ClausesAgree (table : KnownTypes) (scope : List CodeText) (record : KnownType)
    (clause twin : List KnownBase × BaseSpecifier) (after : Session) : Prop :=
  ClauseAlike table scope record clause twin ∧ after.types = table

theorem readBaseNode_agree (name_eq : first.child? "name" = second.child? "name") (access : Access)
    {clause twin : List KnownBase × BaseSpecifier} {node other : SyntaxNode}
    (alike : ClauseAlike table scope record clause twin) (types_eq : session.types = table)
    (nodes : BaseNode table scope record node other) :
    Agree (ClausesAgree table scope record) (readBaseNode first scope access clause node)
      (readBaseNode second scope access twin other) session := by
  cases nodes with
  | same kind text =>
      have kinds (list : List String) : node.isKind list = other.isKind list := by
        simp only [SyntaxNode.isKind, kind]
      simp only [readBaseNode, kind, kinds, text]
      split
      · refine Agree.bind (closeBase_agree name_eq access alike types_eq) fun _ _ _ closed => ?_
        exact Agree.pure ⟨⟨closed.1, rfl, rfl, .absent⟩, closed.2⟩
      split
      · exact Agree.pure ⟨⟨alike.bases, alike.access, rfl, alike.name⟩, types_eq⟩
      refine Agree.same_bind fun written after read => ?_
      rw [← types_of_reading read] at types_eq
      split
      · split
        · exact Agree.pure ⟨⟨alike.bases, rfl, alike.virtual, alike.name⟩, types_eq⟩
        · refine Agree.same_bind fun _ after reported => ?_
          rw [← types_of_report reported] at types_eq
          exact Agree.pure ⟨alike, types_eq⟩
      split
      · exact Agree.pure ⟨⟨alike.bases, alike.access, rfl, alike.name⟩, types_eq⟩
      split
      · exact Agree.pure ⟨⟨alike.bases, alike.access, alike.virtual, .same text⟩, types_eq⟩
      · exact Agree.pure ⟨alike, types_eq⟩
  | renamed names named twin_named =>
      obtain ⟨text, text_eq, -⟩ := names.names
      obtain ⟨twin_text, -, twin_eq, -⟩ := names.twin_names
      unfold Agree
      rw [readBaseNode_name access names.kind text_eq fun same => named (same ▸ text_eq),
        readBaseNode_name access names.twin_kind twin_eq fun same => twin_named (same ▸ twin_eq)]
      exact .ok ⟨⟨alike.bases, alike.access, alike.virtual, .renamed names⟩, types_eq⟩

theorem baseNodes_agree (name_eq : first.child? "name" = second.child? "name") (access : Access)
    {nodes twins : List SyntaxNode}
    (related : List.Forall₂ (BaseNode table scope record) nodes twins)
    {clause twin : List KnownBase × BaseSpecifier}
    (alike : ClauseAlike table scope record clause twin) (types_eq : session.types = table) :
    Agree (ClausesAgree table scope record) (nodes.foldlM (readBaseNode first scope access) clause)
      (twins.foldlM (readBaseNode second scope access) twin) session := by
  induction related generalizing clause twin session with
  | nil => exact Agree.pure ⟨alike, types_eq⟩
  | cons node _ ih =>
      rw [List.foldlM_cons, List.foldlM_cons]
      exact Agree.bind (readBaseNode_agree name_eq access alike types_eq node)
        fun _ _ _ read => ih read.1 read.2

theorem bases_agree (name_eq : first.child? "name" = second.child? "name") (access : Access)
    {clause twin : SyntaxNode} (found : first.childOfKind? "base_class_clause" = some clause)
    (twin_found : second.childOfKind? "base_class_clause" = some twin)
    (nodes : List.Forall₂ (BaseNode table scope record) clause.children twin.children)
    (types_eq : session.types = table) :
    Agree (BasesAgree table record) (bases first scope access) (bases second scope access)
      session := by
  simp only [bases, found, twin_found]
  have start : ClauseAlike table scope record ([], {}) ([], {}) := ⟨.nil, rfl, rfl, .absent⟩
  refine Agree.bind (baseNodes_agree name_eq access nodes start types_eq) fun _ _ _ read => ?_
  exact closeBase_agree name_eq access read.1 read.2

theorem types_of_bases {node : SyntaxNode} {access : Access} {known : List KnownBase}
    {after : Session} (ran : (bases node scope access).run session = (.ok known, after)) :
    after.types = session.types := by
  rcases found : node.childOfKind? "base_class_clause" with _ | clause
  · simp only [bases, found] at ran
    cases ran
    rfl
  · have nodes : List.Forall₂ (BaseNode session.types scope default) clause.children
        clause.children := List.forall₂_same.mpr fun _ _ => .same rfl rfl
    have agree : Agree (BasesAgree session.types default) (bases node scope access)
        (bases node scope access) session := bases_agree rfl access found found nodes rfl
    unfold Agree at agree
    rw [ran] at agree
    cases agree with
    | ok holds => exact holds.2

theorem bases_eq (name_eq : first.child? "name" = second.child? "name")
    (clauses : first.childOfKind? "base_class_clause" = second.childOfKind? "base_class_clause")
    (scope : List CodeText) (access : Access) :
    bases first scope access = bases second scope access := by
  have closes (known : List KnownBase) (specifier : BaseSpecifier) :
      closeBase first scope access known specifier =
        closeBase second scope access known specifier := by
    simp only [closeBase, name_eq]
  have reads : readBaseNode first scope access = readBaseNode second scope access := by
    funext clause node
    simp only [readBaseNode, closes]
  simp only [bases, clauses, reads, closes]

end SessionPart

/-! ## Shapes -/

/-- What a base means for the layout of a record; nothing but the layout counts of a virtual
one. -/
structure BaseShape where
  virtual : Bool
  dynamic : Bool
  empty : Bool
  layout : Layout

def KnownBase.shape (known : KnownBase) : BaseShape where
  virtual := known.isVirtual
  dynamic := !known.isVirtual && known.isDynamic
  empty := !known.isVirtual && known.isEmpty
  layout := known.layout

/-- A synonym has the shape of its record unless a flag of the record counts. -/
theorem KnownBase.Renamed.shape_eq {record : KnownType} {known other : KnownBase}
    (renamed : KnownBase.Renamed record known other)
    (spared : known.entry = some record →
      known.isVirtual = true ∨ record.dynamic = false ∧ record.empty = false) :
    known.shape = other.shape := by
  cases renamed with
  | same => rfl
  | @synonym base name =>
      rcases spared rfl with virtual | ⟨static, full⟩
      · have virtual : base.virtual = true := virtual
        simp [KnownBase.shape, KnownBase.isVirtual, virtual, KnownBase.layout, KnownType.synonym]
      · simp [KnownBase.shape, KnownBase.isVirtual, KnownBase.isDynamic, KnownBase.isEmpty, static,
          full, KnownBase.layout, KnownType.synonym]

theorem shapes_eq {record : KnownType} {bases others : List KnownBase}
    (renamed : List.Forall₂ (KnownBase.Renamed record) bases others)
    (spared : ∀ base ∈ bases, base.entry = some record →
      base.isVirtual = true ∨ record.dynamic = false ∧ record.empty = false) :
    bases.map KnownBase.shape = others.map KnownBase.shape := by
  induction renamed with
  | nil => rfl
  | cons base _ ih =>
      rw [List.map_cons, List.map_cons, base.shape_eq (spared _ (by simp)),
        ih fun other mem => spared other (by simp [mem])]

theorem map_firstToFront {α β : Type} {p : α → Bool} {q : β → Bool} {f : α → β} {items : List α}
    (agree : ∀ item ∈ items, p item = q (f item)) :
    (firstToFront p items).map f = firstToFront q (items.map f) := by
  have index_eq : (items.map f).findIdx? q = items.findIdx? p := by
    rw [List.findIdx?_map]
    induction items with
    | nil => rfl
    | cons item rest ih =>
        have later := ih fun other mem => agree other (by simp [mem])
        simp [List.findIdx?_cons, agree item (by simp), later]
  simp only [firstToFront, index_eq]
  rcases items.findIdx? p with _ | index
  · rfl
  · simp only [List.getElem?_map]
    rcases items[index]? with _ | item
    · rfl
    · simp [List.eraseIdx_map]

namespace RecordPlan

theorem shapes_ordered (plan : RecordPlan) :
    plan.ordered.map KnownBase.shape =
      placementOrder BaseShape.dynamic BaseShape.virtual (plan.bases.map KnownBase.shape) := by
  have front : ∀ known ∈ plan.bases.filter (!KnownBase.isVirtual ·),
      known.isDynamic = known.shape.dynamic := by
    intro known mem
    have virtual := (List.mem_filter.mp mem).2
    simp_all [KnownBase.shape]
  rw [ordered, placementOrder, List.map_append, map_firstToFront front, placementOrder,
    List.filter_map, List.filter_map]
  rfl

theorem hasPrimary_eq (plan : RecordPlan) :
    plan.hasPrimary = (plan.ordered.map KnownBase.shape).head?.any BaseShape.dynamic := by
  rw [hasPrimary, List.head?_map]
  cases plan.ordered.head? <;> rfl

theorem foldl_placeBase_eq (bases : List KnownBase) (builder : LayoutBuilder) :
    (bases.filter (!·.isVirtual)).foldl
        (fun builder base => (builder.placeBase base.layout base.isEmpty).2) builder =
      ((bases.map KnownBase.shape).filter (!·.virtual)).foldl
        (fun builder shape => (builder.placeBase shape.layout shape.empty).2) builder := by
  induction bases generalizing builder with
  | nil => rfl
  | cons base rest ih =>
      have shape_virtual : base.shape.virtual = base.isVirtual := rfl
      rcases virtual : base.isVirtual with _ | _
      · have shape_empty : base.shape.empty = base.isEmpty := by simp [KnownBase.shape, virtual]
        have shape_layout : base.shape.layout = base.layout := rfl
        simp [virtual, shape_virtual, shape_empty, shape_layout, ih]
      · simp [virtual, shape_virtual, ih]

theorem foldl_placeField_eq (bases : List KnownBase) (builder : LayoutBuilder) :
    (bases.filter (·.isVirtual)).foldl
        (fun builder base => (builder.placeField base.layout).2) builder =
      ((bases.map KnownBase.shape).filter (·.virtual)).foldl
        (fun builder shape => (builder.placeField shape.layout).2) builder := by
  rw [List.filter_map, List.foldl_map]
  rfl

variable {plan other : RecordPlan}

theorem start_eq_of_shapes (head_eq : plan.head = other.head)
    (dynamic_eq : plan.dynamic = other.dynamic)
    (shapes : plan.bases.map KnownBase.shape = other.bases.map KnownBase.shape)
    (model : DataModel) : plan.start model = other.start model := by
  have ordered_eq : plan.ordered.map KnownBase.shape = other.ordered.map KnownBase.shape := by
    rw [shapes_ordered, shapes_ordered, shapes]
  have primary_eq : plan.hasPrimary = other.hasPrimary := by
    rw [hasPrimary_eq, hasPrimary_eq, ordered_eq]
  simp only [start, vptrField, head_eq, dynamic_eq, primary_eq, foldl_placeBase_eq, ordered_eq]

theorem finish_eq_of_shapes
    (shapes : plan.bases.map KnownBase.shape = other.bases.map KnownBase.shape)
    {state twin : MemberState} (builder_eq : state.builder = twin.builder) :
    plan.finish state = other.finish twin := by
  have ordered_eq : plan.ordered.map KnownBase.shape = other.ordered.map KnownBase.shape := by
    rw [shapes_ordered, shapes_ordered, shapes]
  simp only [finish, foldl_placeField_eq, ordered_eq, builder_eq]

end RecordPlan

end TypeCatalog
