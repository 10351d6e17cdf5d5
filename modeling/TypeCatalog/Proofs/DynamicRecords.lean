import TypeCatalog.Proofs.FaultCauses
import TypeCatalog.Proofs.KnownLayouts
import TypeCatalog.Proofs.RecordRuns
import TypeCatalog.Proofs.RecordSize

/-!
# Records with a vtable

Whether a record has a vtable is found out before its members are read, by a
search of its own; that a method is virtual is found out when the method is
read.  Both find the same `virtual` if it is marked as such and if no chain of
declarators runs through a compound statement, which the search does not enter.

A record with a vtable has the pointer to it from the first base that brings
one, which is then placed first, or else as a field of its own.
-/

namespace TypeCatalog

open Text (CodeText)

namespace SyntaxNode

/-! ## Searches below a node -/

/-- The nodes that a search comes to from a node: it does not enter compound statements. -/
inductive Reaches : SyntaxNode → SyntaxNode → Prop
  | self (node : SyntaxNode) : Reaches node node
  | child {node child last : SyntaxNode} (entered : node.kind ≠ "compound_statement")
      (member : child ∈ node.children) (reaches : Reaches child last) : Reaches node last

theorem Reaches.trans {node middle last : SyntaxNode} (first : node.Reaches middle)
    (second : middle.Reaches last) : node.Reaches last := by
  induction first with
  | self => exact second
  | child entered member _ ih => exact .child entered member (ih second)

theorem reaches_of_findBreadthFirst {kind : String} {queue : List SyntaxNode} {last : SyntaxNode}
    (found : findBreadthFirst kind queue = some last) :
    last.kind = kind ∧ ∃ node ∈ queue, node.Reaches last := by
  induction queue using findBreadthFirst.induct kind with
  | case1 => simp [findBreadthFirst] at found
  | case2 node rest same =>
      rw [findBreadthFirst, if_pos same] at found
      cases found
      exact ⟨beq_iff_eq.mp same, last, List.mem_cons_self, .self last⟩
  | case3 node rest other closed ih =>
      rw [findBreadthFirst, if_neg other, if_pos closed] at found
      obtain ⟨kind_eq, next, later, reaches⟩ := ih found
      exact ⟨kind_eq, next, List.mem_cons_of_mem _ later, reaches⟩
  | case4 node rest other opened ih =>
      rw [findBreadthFirst, if_neg other, if_neg opened] at found
      obtain ⟨kind_eq, next, queued, reaches⟩ := ih found
      rcases List.mem_append.mp queued with later | below
      · exact ⟨kind_eq, next, List.mem_cons_of_mem _ later, reaches⟩
      · exact ⟨kind_eq, node, List.mem_cons_self, .child (by simpa using opened) below reaches⟩

theorem isSome_findBreadthFirst {kind : String} {queue : List SyntaxNode} {node last : SyntaxNode}
    (queued : node ∈ queue) (reaches : node.Reaches last) (kind_eq : last.kind = kind) :
    (findBreadthFirst kind queue).isSome = true := by
  induction queue using findBreadthFirst.induct kind generalizing node with
  | case1 => cases queued
  | case2 first rest same => simp [findBreadthFirst, same]
  | case3 first rest other closed ih =>
      rw [findBreadthFirst, if_neg other, if_pos closed]
      rcases List.mem_cons.mp queued with rfl | later
      · cases reaches with
        | self => exact absurd (beq_iff_eq.mpr kind_eq) other
        | child entered => exact absurd (beq_iff_eq.mp closed) entered
      · exact ih later reaches
  | case4 first rest other opened ih =>
      rw [findBreadthFirst, if_neg other, if_neg opened]
      rcases List.mem_cons.mp queued with rfl | later
      · cases reaches with
        | self => exact absurd (beq_iff_eq.mpr kind_eq) other
        | child entered member below => exact ih (List.mem_append_right _ member) below
      · exact ih (List.mem_append_left _ later) reaches

theorem isSome_descendant? {kind : String} {node child last : SyntaxNode}
    (member : child ∈ node.children) (reaches : child.Reaches last) (kind_eq : last.kind = kind) :
    (node.descendant? kind).isSome = true :=
  isSome_findBreadthFirst member reaches kind_eq

theorem mem_children_of_innerDeclarator? {node inner : SyntaxNode}
    (found : node.innerDeclarator? = some inner) : inner ∈ node.children := by
  rw [innerDeclarator?] at found
  split at found
  · exact (List.mem_filter.mp (List.mem_filter.mp (List.mem_of_head? found)).1).1
  split at found
  · rename_i held
    exact Option.some.inj found ▸ List.mem_of_find?_eq_some held
  split at found
  · exact (List.mem_filter.mp (List.mem_filter.mp (List.mem_of_getLast? found)).1).1
  · cases found

theorem OnChain.reaches {node link : SyntaxNode} (on : node.OnChain link)
    (entered : ∀ link, node.OnChain link → link.kind ≠ "compound_statement") :
    node.Reaches link := by
  induction on with
  | self => exact .self _
  | inner unnamed found on ih =>
      exact .child (entered _ (.self _)) (mem_children_of_innerDeclarator? found)
        (ih fun link on => entered link (.inner unnamed found on))

theorem DeclaresMethod.isSome_descendant? {node functionNode child : SyntaxNode}
    (declares : node.DeclaresMethod functionNode)
    (entered : ∀ link, node.OnChain link → link.kind ≠ "compound_statement")
    (member : child ∈ functionNode.children) :
    (node.descendant? child.kind).isSome = true := by
  have direct {last : SyntaxNode} (member : last ∈ node.children) :
      (node.descendant? last.kind).isSome = true :=
    SyntaxNode.isSome_descendant? member (.self last) rfl
  cases declares with
  | chain on =>
      cases on with
      | self => exact direct member
      | @inner _ inner _ unnamed found on =>
          have below := on.reaches fun link on => entered link (.inner unnamed found on)
          have last := entered _ (.inner unnamed found on)
          exact SyntaxNode.isSome_descendant? (mem_children_of_innerDeclarator? found)
            (below.trans (.child last member (.self child))) rfl
  | conversion =>
      rcases search : node.descendant? "abstract_function_declarator" with _ | functionNode
      · rw [search] at member
        exact direct member
      · rw [search] at member
        obtain ⟨kind, first, held, reaches⟩ := reaches_of_findBreadthFirst search
        have last : functionNode.kind ≠ "compound_statement" := by simp [kind]
        exact SyntaxNode.isSome_descendant? held
          (reaches.trans (.child last member (.self child))) rfl

end SyntaxNode

/-! ## Virtual functions -/

theorem anyM_eq_false {α ε : Type} {test : α → Except ε Bool} {items : List α}
    (ran : items.anyM test = .ok false) : ∀ item ∈ items, test item = .ok false := by
  induction items with
  | nil => simp
  | cons first rest ih =>
      rw [List.anyM] at ran
      rcases tested : test first with fault | _ | _
      · rw [tested] at ran
        cases ran
      · rw [tested] at ran
        simpa [tested] using ih ran
      · rw [tested] at ran
        cases ran

namespace FunctionTraits

def SaysVirtual (child : SyntaxNode) : Prop :=
  (child.isNamed = true → child.isKind specifierKinds = true) ∧ child.text = .ok "virtual"

theorem virtual_of_addSpecifier {isMethod : Bool} {flags after : FunctionTraits}
    {child : SyntaxNode} (added : addSpecifier isMethod flags child = .ok after)
    (virtual : after.virtual = true) : flags.virtual = true ∨ SaysVirtual child := by
  unfold addSpecifier at added
  split at added
  · cases added
    exact .inl virtual
  split at added
  · cases added
    exact .inl virtual
  rename_i specifies
  rcases read : child.text with fault | text
  · rw [read] at added
    cases added
  rw [read] at added
  by_cases spelled : text = "virtual"
  · exact .inr ⟨by simpa [or_iff_not_imp_left] using specifies, spelled ▸ read⟩
  · have other : (text == "virtual") = false := beq_false_of_ne spelled
    simp only [bind, Except.bind, other, Bool.false_eq_true, ↓reduceIte] at added
    -- every other specifier sets a flag of its own
    repeat' split at added
    all_goals
      cases added
      exact .inl virtual

theorem virtual_of_addQualifier {flags after : FunctionTraits} {child : SyntaxNode}
    (added : addQualifier flags child = .ok after) (virtual : after.virtual = true) :
    flags.virtual = true ∨ child.kind = "virtual_specifier" := by
  unfold addQualifier at added
  rcases read : child.text with fault | text <;> rw [read] at added
  · cases added
  simp only [bind, Except.bind] at added
  by_cases kind : child.kind = "virtual_specifier"
  · exact .inr kind
  · have other : (child.kind == "virtual_specifier") = false := beq_false_of_ne kind
    simp only [other, Bool.false_eq_true, ↓reduceIte] at added
    repeat' split at added
    all_goals
      cases added
      exact .inl virtual

theorem virtual_of_foldlM {step : FunctionTraits → SyntaxNode → Except ReadFault FunctionTraits}
    {Marks : SyntaxNode → Prop}
    {children : List SyntaxNode} {flags after : FunctionTraits}
    (ran : children.foldlM step flags = .ok after) (virtual : after.virtual = true)
    (steps : ∀ flags after child, step flags child = .ok after → after.virtual = true →
      flags.virtual = true ∨ Marks child) :
    flags.virtual = true ∨ ∃ child ∈ children, Marks child := by
  induction children generalizing flags with
  | nil =>
      cases ran
      exact .inl virtual
  | cons child rest ih =>
      rw [List.foldlM_cons] at ran
      rcases first : step flags child with fault | next <;> rw [first] at ran
      · cases ran
      rcases ih ran with before | ⟨later, member, marks⟩
      · exact (steps _ _ _ first before).imp_right fun marks => ⟨child, List.mem_cons_self, marks⟩
      · exact .inr ⟨later, List.mem_cons_of_mem _ member, marks⟩

theorem virtual_of_written {declaration function : SyntaxNode} {flags : FunctionTraits}
    (read : written true declaration function = .ok flags) (virtual : flags.virtual = true) :
    (∃ child ∈ declaration.children, SaysVirtual child) ∨
      ∃ child ∈ function.children, child.kind = "virtual_specifier" := by
  unfold written at read
  rcases first : declaration.children.foldlM (addSpecifier true) {} with fault | specified <;>
    rw [first] at read
  · cases read
  rcases virtual_of_foldlM read virtual fun _ _ _ => virtual_of_addQualifier with before | found
  · exact .inl (by simpa using virtual_of_foldlM first before fun _ _ _ => virtual_of_addSpecifier)
  · exact .inr found

end FunctionTraits

namespace SyntaxNode

def VirtualsMarked (root : SyntaxNode) : Prop :=
  ∀ node ∈ root.nodes, node.isNamed = true → node.isKind specifierKinds = true →
    node.text = .ok "virtual" → node.isKind virtualKinds = true

def DeclaratorsOpen (root : SyntaxNode) : Prop :=
  ∀ holder ∈ root.nodes, ∀ node ∈ holder.childrenBy "declarator",
    ∀ link, node.OnChain link → link.kind ≠ "compound_statement"

theorem declaratorsOpen_of_kinds {root : SyntaxNode}
    (kinds : ∀ node ∈ root.nodes, node.kind ≠ "compound_statement") : root.DeclaratorsOpen := by
  have within {node link : SyntaxNode} (on : node.OnChain link) (inside : node ∈ root.nodes) :
      link ∈ root.nodes := by
    induction on with
    | self => exact inside
    | inner _ found _ ih => exact ih (mem_nodes_of_innerDeclarator? inside found)
  intro holder inside node held link on
  exact kinds link (within on (mem_nodes_of_childrenBy inside held))

theorem unmarked_of_marksVirtual {member : SyntaxNode}
    (declares : member.isMemberDeclaration = true) (tested : member.marksVirtual = .ok false) :
    (∀ child ∈ member.children, child.isKind virtualKinds = false ∧
      (child.text = .ok "virtual" → child.isNamed = true)) ∧
      ∀ node ∈ member.childrenBy "declarator",
        (node.descendant? "virtual_specifier").isSome = false := by
  unfold marksVirtual at tested
  simp only [declares, Bool.not_true, Bool.false_eq_true, ↓reduceIte, bind, Except.bind] at tested
  split at tested
  · cases tested
  rename_i searched
  have tested := Except.ok.inj tested
  obtain ⟨rfl, below⟩ := Bool.or_eq_false_iff.mp tested
  refine ⟨fun child held => ?_, by simpa using below⟩
  have skipped := anyM_eq_false searched child held
  split at skipped
  · cases skipped
  rename_i kind
  refine ⟨by simpa using kind, fun text => ?_⟩
  split at skipped
  · assumption
  · rw [text] at skipped
    cases skipped

theorem marked_of_virtual {root : SyntaxNode} (specifiers : root.VirtualsMarked)
    (chains : root.DeclaratorsOpen) {members : List SyntaxNode}
    (inside : ∀ member ∈ members, member ∈ root.nodes) {className : CodeText} {method : Function}
    (declared : method.DeclaredAmong members className) (virtual : method.flags.virtual = true) :
    members.anyM marksVirtual ≠ .ok false := by
  intro unmarked
  obtain ⟨member, listed, declares, node, held, functionNode, leads, methodRead⟩ := declared
  have within := inside member listed
  have tested := anyM_eq_false unmarked member listed
  obtain ⟨plain, none_below⟩ := unmarked_of_marksVirtual declares tested
  obtain ⟨written, written_eq, flag_eq⟩ := methodRead.virtual
  rcases FunctionTraits.virtual_of_written written_eq (flag_eq ▸ virtual) with
    ⟨child, below, specifies, text⟩ | ⟨child, below, kind⟩
  · obtain ⟨other, named⟩ := plain child below
    have marked := specifiers child (mem_nodes_of_mem within below) (named text)
      (specifies (named text)) text
    rw [other] at marked
    cases marked
  · have found := leads.isSome_descendant? (chains member within node held) below
    rw [kind, none_below node held] at found
    cases found

end SyntaxNode

/-! ## The order of bases -/

section

variable {α : Type} {p : α → Bool}

theorem firstToFront_of_split {earlier later : List α} {first : α}
    (others : ∀ item ∈ earlier, p item = false) (holds : p first = true) :
    firstToFront p (earlier ++ first :: later) = first :: (earlier ++ later) := by
  have index : (earlier ++ first :: later).findIdx? p = some earlier.length := by
    have skipped : earlier.findIdx? p = none := by simpa using others
    simp [List.findIdx?_append, skipped, List.findIdx?_cons, holds]
  simp [firstToFront, index, List.eraseIdx_append_of_length_le]

theorem firstToFront_of_none {items : List α} (others : ∀ item ∈ items, p item = false) :
    firstToFront p items = items := by
  have skipped : items.findIdx? p = none := by simpa using others
  simp [firstToFront, skipped]

theorem exists_split (p : α → Bool) (items : List α) :
    (∀ item ∈ items, p item = false) ∨ ∃ earlier first later,
      items = earlier ++ first :: later ∧ (∀ item ∈ earlier, p item = false) ∧ p first = true := by
  rcases found : items.find? p with _ | first
  · exact .inl (by simpa using found)
  · obtain ⟨holds, earlier, later, rfl, others⟩ := List.find?_eq_some_iff_append.mp found
    exact .inr ⟨earlier, first, later, rfl, by simpa using others, holds⟩

end

/-- A base as something that is placed.  Nothing but the layout counts of a virtual base. -/
def KnownBase.placement (known : KnownBase) : Placement :=
  if known.isVirtual then .field known.layout else .base known.layout known.isEmpty

namespace RecordPlan

variable (plan : RecordPlan)

def plainBases : List KnownBase :=
  plan.bases.filter (!·.isVirtual)

def virtualBases : List KnownBase :=
  plan.bases.filter (·.isVirtual)

def Inherits : Prop :=
  ∃ base ∈ plan.bases, base.isVirtual = false ∧ base.isDynamic = true

theorem inherits_iff : plan.Inherits ↔ ∃ base ∈ plan.plainBases, base.isDynamic = true := by
  simp [Inherits, plainBases, and_assoc]

theorem ordered_of_split {earlier later : List KnownBase} {primary : KnownBase}
    (split : plan.plainBases = earlier ++ primary :: later)
    (others : ∀ base ∈ earlier, base.isDynamic = false) (dynamic : primary.isDynamic = true) :
    plan.ordered = (primary :: (earlier ++ later)) ++ plan.virtualBases := by
  rw [ordered, placementOrder]
  change firstToFront _ plan.plainBases ++ plan.virtualBases = _
  rw [split, firstToFront_of_split others dynamic]

theorem ordered_of_static (static : ∀ base ∈ plan.plainBases, base.isDynamic = false) :
    plan.ordered = plan.plainBases ++ plan.virtualBases := by
  rw [ordered, placementOrder]
  change firstToFront _ plan.plainBases ++ plan.virtualBases = _
  rw [firstToFront_of_none static]

theorem isVirtual_of_mem_plainBases {base : KnownBase} (mem : base ∈ plan.plainBases) :
    base.isVirtual = false := by
  simpa using (List.mem_filter.mp mem).2

theorem hasPrimary_iff : plan.hasPrimary = true ↔ plan.Inherits := by
  rw [inherits_iff]
  rcases exists_split KnownBase.isDynamic plan.plainBases with
    static | ⟨earlier, primary, later, split, others, dynamic⟩
  · have none_dynamic : ¬∃ base ∈ plan.plainBases, base.isDynamic = true := by simpa using static
    refine iff_of_false ?_ none_dynamic
    rw [hasPrimary, ordered_of_static plan static]
    rcases front : plan.plainBases with _ | ⟨base, rest⟩
    · rcases last : plan.virtualBases with _ | ⟨base, rest⟩
      · simp
      · have virtual : base ∈ plan.virtualBases := by simp [last]
        simp [(List.mem_filter.mp virtual).2]
    · have listed : base ∈ plan.plainBases := by simp [front]
      simp [static base listed]
  · have listed : primary ∈ plan.plainBases := by simp [split]
    refine iff_of_true ?_ ⟨primary, listed, dynamic⟩
    rw [hasPrimary, ordered_of_split plan split others dynamic]
    simp [dynamic, plan.isVirtual_of_mem_plainBases listed]

def ownsVptr : Bool :=
  plan.dynamic && !plan.hasPrimary

theorem ownsVptr_iff :
    plan.ownsVptr = true ↔
      plan.dynamic = true ∧
        ∀ base ∈ plan.bases, base.isVirtual = false → base.isDynamic = false := by
  have inherits := plan.hasPrimary_iff
  rw [ownsVptr, Bool.and_eq_true, Bool.not_eq_true', ← Bool.not_eq_true, inherits, Inherits]
  simp

theorem fields_start (model : DataModel) :
    (plan.start model).fields =
      if plan.ownsVptr then [plan.vptrField model.pointer (some 0)] else [] := by
  have first (isUnion : Bool) :
      (({ model, isUnion } : LayoutBuilder).placeVptr).1 = some 0 := by
    cases isUnion <;> simp [LayoutBuilder.placeVptr, LayoutBuilder.placeField, DataModel.pointer,
      LayoutBuilder.raiseAlign, Layout.roundUp_zero]
  unfold start
  rw [← ownsVptr]
  rcases plan.ownsVptr with _ | _
  · rfl
  · simp [first]

theorem foldl_eq_placeAll {bases : List KnownBase}
    {step : LayoutBuilder → KnownBase → LayoutBuilder}
    (places : ∀ base ∈ bases, ∀ builder : LayoutBuilder,
      step builder base = (builder.place base.placement).2) (builder : LayoutBuilder) :
    bases.foldl step builder = (builder.placeAll (bases.map KnownBase.placement)).2 := by
  induction bases generalizing builder with
  | nil => rfl
  | cons base rest ih =>
    rw [List.foldl_cons, List.map_cons, LayoutBuilder.placeAll,
      ih fun other later => places other (List.mem_cons_of_mem _ later),
      places base List.mem_cons_self]

variable {plan} {front : List KnownBase} (ordered : plan.ordered = front ++ plan.virtualBases)
  (plain : ∀ base ∈ front, base.isVirtual = false)
include ordered plain

theorem filter_ordered : plan.ordered.filter (!·.isVirtual) = front ∧
    plan.ordered.filter (·.isVirtual) = plan.virtualBases := by
  have virtual : ∀ base ∈ plan.virtualBases, base.isVirtual = true :=
    fun base mem => (List.mem_filter.mp mem).2
  have kept : front.filter (!·.isVirtual) = front := by simpa using plain
  have dropped : front.filter (·.isVirtual) = [] := by simpa using plain
  have last : plan.virtualBases.filter (·.isVirtual) = plan.virtualBases := by simpa using virtual
  have none_last : plan.virtualBases.filter (!·.isVirtual) = [] := by simpa using virtual
  simp [ordered, kept, dropped, last, none_last]

/-- A record that is no union starts with its own vtable pointer, if it has one, and goes on with
the bases that are not virtual. -/
theorem builder_start (model : DataModel) (kind : (plan.head.kind == "union") = false) :
    (plan.start model).builder = (({ model } : LayoutBuilder).placeAll
      ((if plan.ownsVptr then [.vptr] else []) ++ front.map KnownBase.placement)).2 := by
  have places : ∀ base ∈ front, ∀ builder : LayoutBuilder,
      (builder.placeBase base.layout base.isEmpty).2 = (builder.place base.placement).2 := by
    intro base mem builder
    simp [KnownBase.placement, plain base mem, LayoutBuilder.place]
  rw [LayoutBuilder.placeAll_append, start, ← ownsVptr, (filter_ordered ordered plain).1]
  rcases plan.ownsVptr with _ | _ <;>
    simp [kind, foldl_eq_placeAll places, LayoutBuilder.placeAll, LayoutBuilder.place]

theorem finish_eq (state : MemberState) :
    plan.finish state = (state.builder.placeAll (plan.virtualBases.map KnownBase.placement)).2 := by
  rw [finish, (filter_ordered ordered plain).2]
  refine foldl_eq_placeAll (fun base mem builder => ?_) _
  simp [KnownBase.placement, (List.mem_filter.mp mem).2, LayoutBuilder.place]

end RecordPlan

namespace SessionPart

theorem recordPlan_dynamic (scope : List CodeText) (head : RecordHead) (node body : SyntaxNode) :
    Gives (recordPlan scope head node body) fun plan =>
      ∃ declared, body.items.anyM SyntaxNode.marksVirtual = .ok declared ∧
        plan.dynamic = (declared || plan.bases.any fun b => b.isVirtual || b.isDynamic) := by
  rw [recordPlan_eq]
  refine .after fun _ => .after fun _ => .after fun bases => ?_
  exact Gives.bind (.reading _) fun declared searched => .pure ⟨declared, searched, rfl⟩

namespace RecordRun

variable {scope : List CodeText} {given : Option CodeText} {node body : SyntaxNode}
  {session after : Session} {built : RecordReading}

/-- The parts of a record are placed one after the other: its own vtable pointer, if it has one,
the bases in front, the fields that are declared, and the virtual bases. -/
def Places (run : RecordRun scope given node body session built after)
    (front : List KnownBase) : Prop :=
  ∃ declared placed, (∀ field ∈ declared, field.artificial = false) ∧
    built.record.fields.items = (if run.plan.ownsVptr
      then [run.plan.vptrField run.planned.types.model.pointer (some 0)] else []) ++ declared ∧
    (({ model := run.planned.types.model } : LayoutBuilder).placeAll
      ((if run.plan.ownsVptr then [.vptr] else []) ++ front.map KnownBase.placement)).2.Lays
        declared placed ∧
    built.layout = (placed.placeAll (run.plan.virtualBases.map KnownBase.placement)).2.finish

/-- What virtual functions and bases mean for a record: whether it is dynamic, as its entry in the
table then says, where its vtable pointer is, and in which order its bases are placed. -/
structure FollowsVirtuals (run : RecordRun scope given node body session built after) :
    Prop where
  dynamic : (∃ method ∈ built.record.methods.items, method.flags.virtual = true) ∨
    (∃ base ∈ run.plan.bases, base.isVirtual = true ∨ base.isDynamic = true) →
      run.plan.dynamic = true
  entry : ∀ name, Text.proper? built.record.name = some name →
    ∃ entry, after.types.find? (Name.normalize name) = some entry ∧
      entry.dynamic = run.plan.dynamic
  bases : built.record.bases.items = run.plan.bases.map (·.base)
  vptr_iff : (∃ field ∈ built.record.fields.items, field.artificial = true) ↔
    run.plan.dynamic = true ∧
      ∀ base ∈ run.plan.bases, base.isVirtual = false → base.isDynamic = false
  vptr_first : ∀ field ∈ built.record.fields.items, field.artificial = true →
    field.name = some ("_vptr." ++ run.plan.head.ownName.getD "anonymous") ∧
      field.bitOffset = some 0 ∧
      ∃ declared, built.record.fields.items = field :: declared ∧
        ∀ other ∈ declared, other.artificial = false
  order : ∀ earlier primary later, run.plan.plainBases = earlier ++ primary :: later →
    (∀ base ∈ earlier, base.isDynamic = false) → primary.isDynamic = true →
      run.plan.ownsVptr = false ∧ run.Places (primary :: (earlier ++ later))
  declaredOrder : (∀ base ∈ run.plan.plainBases, base.isDynamic = false) →
    run.Places run.plan.plainBases

variable (run : RecordRun scope given node body session built after)
include run

theorem places (kind : (run.plan.head.kind == "union") = false) {front : List KnownBase}
    (ordered : run.plan.ordered = front ++ run.plan.virtualBases)
    (plain : ∀ base ∈ front, base.isVirtual = false) : run.Places front := by
  obtain ⟨declared, fields_eq, written, laid⟩ := run.extends_start.fields
  rw [RecordPlan.builder_start ordered plain _ kind] at laid
  have record_eq := run.record_eq
  refine ⟨declared, run.state.builder, written, ?_, laid, ?_⟩
  · rw [record_eq, ← RecordPlan.fields_start, ← fields_eq]
    rfl
  · rw [← RecordPlan.finish_eq ordered plain, RecordReading.layout, record_eq]
    rfl

theorem places_of_split (kind : (run.plan.head.kind == "union") = false)
    {earlier later : List KnownBase} {primary : KnownBase}
    (split : run.plan.plainBases = earlier ++ primary :: later)
    (others : ∀ base ∈ earlier, base.isDynamic = false) (dynamic : primary.isDynamic = true) :
    run.Places (primary :: (earlier ++ later)) := by
  refine run.places kind (run.plan.ordered_of_split split others dynamic) fun base mem => ?_
  refine run.plan.isVirtual_of_mem_plainBases ?_
  rw [split]
  simp at mem ⊢
  tauto

theorem places_of_static (kind : (run.plan.head.kind == "union") = false)
    (static : ∀ base ∈ run.plan.plainBases, base.isDynamic = false) :
    run.Places run.plan.plainBases :=
  run.places kind (run.plan.ordered_of_static static)
    fun _ mem => run.plan.isVirtual_of_mem_plainBases mem

theorem dynamic_of_virtual {root : SyntaxNode} (specifiers : root.VirtualsMarked)
    (chains : root.DeclaratorsOpen) (inside : ∀ member ∈ body.items, member ∈ root.nodes)
    {method : Function} (listed : method ∈ built.record.methods.items)
    (virtual : method.flags.virtual = true) : run.plan.dynamic = true := by
  obtain ⟨declared, searched, dynamic_eq⟩ := recordPlan_dynamic _ _ _ _ _ _ _ run.plans
  have marked := SyntaxNode.marked_of_virtual specifiers chains inside
    (run.methods_declared method listed) virtual
  rcases declared with _ | _
  · exact absurd searched marked
  · rw [dynamic_eq, Bool.true_or]

theorem entry_dynamic {name : CodeText} (named : Text.proper? built.record.name = some name) :
    ∃ entry, after.types.find? (Name.normalize name) = some entry ∧
      entry.dynamic = run.plan.dynamic := by
  rw [run.find?_entry named, run.entry?_eq named]
  exact ⟨_, rfl, rfl⟩

end RecordRun

/-- A class or struct with a virtual method, or with a base that is virtual or dynamic, is
dynamic.  If it is dynamic it has a vtable pointer of its own, as its first field at bit 0, exactly
if no base that is not virtual is dynamic; and otherwise the first such base is placed first, the
others that are not virtual after it as declared, and the virtual ones last. -/
theorem virtuals_decide_layout {root node body : SyntaxNode} (specifiers : root.VirtualsMarked)
    (chains : root.DeclaratorsOpen) (inside : node ∈ root.nodes)
    (kind : node.kind = "class_specifier" ∨ node.kind = "struct_specifier")
    (found : node.child? "body" = some body) {scope : List CodeText} {given : Option CodeText}
    {session after : Session} {built : RecordReading}
    (ran : (readRecord scope given node).run session = (.ok built, after)) :
    ∃ run : RecordRun scope given node body session built after, run.FollowsVirtuals := by
  obtain ⟨run⟩ := nonempty_recordRun found ran
  have noUnion : (run.plan.head.kind == "union") = false := by
    rw [run.head_kind]
    rcases kind with kind | kind <;> rw [kind] <;> decide
  have within : ∀ member ∈ body.items, member ∈ root.nodes := fun member listed =>
    SyntaxNode.mem_nodes_of_items (SyntaxNode.mem_nodes_of_child? inside found) listed
  -- whichever base comes first, the fields are the same
  have fields : ∃ declared, (∀ field ∈ declared, field.artificial = false) ∧
      built.record.fields.items =
        (if run.plan.ownsVptr
          then [run.plan.vptrField run.planned.types.model.pointer (some 0)] else []) ++
          declared := by
    rcases exists_split KnownBase.isDynamic run.plan.plainBases with
      static | ⟨earlier, primary, later, split, others, dynamic⟩
    · obtain ⟨declared, -, written, fields_eq, -⟩ := run.places_of_static noUnion static
      exact ⟨declared, written, fields_eq⟩
    · obtain ⟨declared, -, written, fields_eq, -⟩ :=
        run.places_of_split noUnion split others dynamic
      exact ⟨declared, written, fields_eq⟩
  obtain ⟨declared, written, fields_eq⟩ := fields
  refine ⟨run, ?_, fun name => run.entry_dynamic, ?_, ?_, ?_, ?_,
    run.places_of_static noUnion⟩
  · rintro (⟨method, listed, virtual⟩ | ⟨base, listed, virtual⟩)
    · exact run.dynamic_of_virtual specifiers chains within listed virtual
    · obtain ⟨marked, -, dynamic_eq⟩ := recordPlan_dynamic _ _ _ _ _ _ _ run.plans
      have held : (run.plan.bases.any fun b => b.isVirtual || b.isDynamic) = true :=
        List.any_eq_true.mpr ⟨base, listed, by simpa using virtual⟩
      rw [dynamic_eq, held, Bool.or_true]
  · rw [run.record_eq]
    rfl
  · rw [← run.plan.ownsVptr_iff, fields_eq]
    rcases run.plan.ownsVptr with _ | _
    · simpa using written
    · simp [RecordPlan.vptrField]
  · rw [fields_eq]
    rcases run.plan.ownsVptr with _ | _
    · intro field listed artificial
      simp [written field (by simpa using listed)] at artificial
    · intro field listed artificial
      rcases List.mem_cons.mp listed with rfl | later
      · exact ⟨rfl, rfl, declared, rfl, written⟩
      · simp [written field later] at artificial
  · intro earlier primary later split others dynamic
    refine ⟨?_, run.places_of_split noUnion split others dynamic⟩
    have listed : primary ∈ run.plan.plainBases := by simp [split]
    have primary_held := run.plan.hasPrimary_iff.mpr
      (run.plan.inherits_iff.mpr ⟨primary, listed, dynamic⟩)
    simp [RecordPlan.ownsVptr, primary_held]

def knowsDynamic : Session where
  file := "t.h"
  types := ({ model := .lp64 } : KnownTypes).define
    { name := "P", kind := .record, layout := ⟨some 8, some 8⟩, dynamic := true }

def virtualMember : SyntaxNode :=
  .mk { kind := "field_declaration", named := true }
    [.mk { kind := "virtual", named := true, bytes := some [118, 105, 114, 116, 117, 97, 108] } [],
      .mk { kind := "function_declarator", field := "declarator", named := true }
        [letterNode "field_identifier" "declarator" 102]]

def virtualBody : SyntaxNode :=
  .mk { kind := "field_declaration_list", field := "body", named := true } [virtualMember]

/-- `struct S : Q, P { virtual f(); };` -/
def overridingRecord : SyntaxNode :=
  .mk { kind := "struct_specifier", named := true }
    [letterNode "type_identifier" "name" 83,
      .mk { kind := "base_class_clause", named := true }
        [letterNode "type_identifier" "" 81, .mk { kind := "," } [],
          letterNode "type_identifier" "" 80],
      virtualBody]

theorem overridingRecord_read :
    ((readRecord [] none overridingRecord).run knowsDynamic).1.toOption.map (fun built =>
      (built.record.methods.items.map (·.flags.virtual), built.record.fields.items)) =
        some ([true], []) := by
  have items_eq : virtualBody.items = [virtualMember] := rfl
  have member_eq (scope : List CodeText) (className : Option CodeText) (state : MemberState) :
      readMember scope className state virtualMember =
        readDeclarators scope className virtualMember { spelling := "" } state := by
    rw [readMember]
    rfl
  rw [@readRecord_eq [] none overridingRecord virtualBody rfl]
  simp only [items_eq, List.foldlM_cons, List.foldlM_nil, member_eq]
  decide +kernel

theorem overridingRecord_followsVirtuals :
    overridingRecord.VirtualsMarked ∧ overridingRecord.DeclaratorsOpen ∧
      overridingRecord ∈ overridingRecord.nodes ∧
      ∃ built after, (readRecord [] none overridingRecord).run knowsDynamic = (.ok built, after) ∧
        ∃ run : RecordRun [] none overridingRecord virtualBody knowsDynamic built after,
          run.FollowsVirtuals ∧ run.plan.dynamic = true ∧ run.plan.Inherits := by
  have marked : overridingRecord.VirtualsMarked := by
    unfold SyntaxNode.VirtualsMarked
    decide +kernel
  have opened : overridingRecord.DeclaratorsOpen :=
    SyntaxNode.declaratorsOpen_of_kinds (by decide +kernel)
  refine ⟨marked, opened, SyntaxNode.self_mem_nodes _, ?_⟩
  have read := overridingRecord_read
  rcases ran : (readRecord [] none overridingRecord).run knowsDynamic with
    ⟨fault | built, after⟩ <;> rw [ran] at read
  · cases read
  obtain ⟨flags, fields⟩ := Prod.mk.inj (Option.some.inj read)
  obtain ⟨run, follows⟩ := virtuals_decide_layout marked opened (SyntaxNode.self_mem_nodes _)
    (.inr rfl) rfl ran
  have dynamic : run.plan.dynamic = true := by
    obtain ⟨method, listed, virtual⟩ := List.mem_map.mp (flags ▸ List.mem_singleton_self true)
    exact follows.dynamic (.inl ⟨method, listed, virtual⟩)
  refine ⟨built, after, rfl, run, follows, dynamic, ?_⟩
  by_contra noPrimary
  obtain ⟨field, listed, -⟩ := follows.vptr_iff.mpr
    ⟨dynamic, by simpa [RecordPlan.Inherits] using noPrimary⟩
  rw [fields] at listed
  cases listed

end SessionPart

end TypeCatalog
