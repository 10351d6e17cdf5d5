import TypeCatalog.Proofs.Sites
import TypeCatalog.Proofs.RecordRuns

/-!
# The records of a group and their names

Every record of a group is read from a specifier of the tree.  Reading goes
from the inside of a record to its outside, so no record comes after one that
its specifier encloses, and none is read twice; and it carries along the names
of the enclosing namespaces and records, in which the record gets its own.
-/

namespace TypeCatalog

open Text (CodeText)

open SessionPart

/-! ## Records at addresses -/

structure Site.Yields (site : Site) (record : Record) : Prop where
  isRecord : site.node.isRecord = true
  complete : record.complete = (site.node.child? "body").isSome
  name : record.name = site.ownName.map (Name.qualify site.scope)
  read : ∃ session built after,
    (readRecord site.scope site.given site.node).run session = (.ok built, after) ∧
      built.record = record

def YieldsAt (top : Site) (address : Address) (record : Record) : Prop :=
  ∃ site, top.at? address = some site ∧ site.Yields record

/-- Records whose specifiers lie below given addresses.  No record comes after one that its
specifier encloses, nor twice. -/
def Placed (top : Site) (outer : List Address) (records : List Record) : Prop :=
  Address.Spread (YieldsAt top) (fun earlier later => ¬earlier <+: later) outer records

namespace Placed

variable {top : Site} {outer others : List Address} {records more : List Record}

theorem nil (top : Site) (outer : List Address) : Placed top outer [] :=
  Address.Spread.nil outer

theorem append (placed : Placed top outer records) (later : Placed top others more)
    (apart : ∀ address ∈ outer, ∀ other ∈ others, address.Apart other) :
    Placed top (outer ++ others) (records ++ more) :=
  Address.Spread.append placed later fun address mem other mem_others _ _ through leads =>
    ((apart address mem other mem_others).below through leads).1

theorem of_append (placed : Placed top outer (records ++ more)) : Placed top outer records := by
  obtain ⟨addresses, yields, order, below⟩ := placed
  exact ⟨_, List.forall₂_take_append _ _ _ yields, order.sublist (List.take_sublist _ _),
    fun inner mem => below inner (List.mem_of_mem_take mem)⟩

theorem concat {address : Address} {index : Nat} {record : Record}
    (nested : Placed top [address ++ [index]] records) (yields : YieldsAt top address record) :
    Placed top [address] (records ++ [record]) := by
  obtain ⟨addresses, yields_nested, order, below⟩ := nested
  have inside : ∀ inner ∈ addresses, (address ++ [index]) <+: inner := by simpa using below
  refine ⟨addresses ++ [address], List.rel_append yields_nested (.cons yields .nil), ?_, ?_⟩
  · refine List.pairwise_append.mpr ⟨order, List.pairwise_singleton _ _, ?_⟩
    intro inner mem other same
    obtain rfl := List.mem_singleton.mp same
    intro above
    have longer := ((inside inner mem).trans above).length_le
    simp only [List.length_append, List.length_singleton] at longer
    omega
  · intro inner mem
    refine ⟨address, List.mem_singleton_self _, ?_⟩
    rcases List.mem_append.mp mem with mem | mem
    · exact (List.prefix_append _ _).trans (inside inner mem)
    · exact List.mem_singleton.mp mem ▸ List.prefix_rfl

end Placed

namespace SyntaxNode

theorem exists_isChildAt {node child : SyntaxNode} {field : String}
    (found : node.child? field = some child) :
    ∃ index, node.isChildAt field index = true ∧ node.children[index]? = some child := by
  obtain ⟨held, index, bound, child_eq, first⟩ := List.find?_eq_some_iff_getElem.mp found
  have index_eq : node.children.findIdx? (·.data.field == field) = some index :=
    List.findIdx?_eq_some_iff_getElem.mpr ⟨bound, by rwa [child_eq], by simpa using first⟩
  exact ⟨index, by rw [isChildAt, index_eq, beq_self_eq_true], List.getElem?_eq_some_iff.mpr
    ⟨bound, child_eq⟩⟩

end SyntaxNode

namespace Site

variable {top site : Site} {address : Address}

theorem at?_typedef {type : SyntaxNode} (free : site.isBody = false)
    (kind : site.node.kind = "type_definition") (at_eq : top.at? address = some site)
    (found : site.node.child? "type" = some type) :
    ∃ index, top.at? (address ++ [index]) =
      some { site.inside type with given := site.node.typedefName? } := by
  obtain ⟨index, held, child_eq⟩ := SyntaxNode.exists_isChildAt found
  refine ⟨index, ?_⟩
  have notRecord : site.node.isRecord = false := by
    rw [SyntaxNode.isRecord, kind]
    rfl
  have closed : site.opensBody index = false := by simp [opensBody, kind, notRecord]
  have named : site.namesType index = true := by simp [namesType, free, kind, held]
  rw [at?_concat, at_eq, Option.bind_some, child?, child_eq]
  simp [closed, named, inside]

theorem at?_body {body : SyntaxNode} (free : site.isBody = false)
    (isRecord : site.node.isRecord = true) (at_eq : top.at? address = some site)
    (found : site.node.child? "body" = some body) :
    ∃ index, top.at? (address ++ [index]) =
      some { node := body, namespaces := site.namespaces,
             records := site.records ++ site.ownName.toList, isBody := true } := by
  obtain ⟨index, held, child_eq⟩ := SyntaxNode.exists_isChildAt found
  refine ⟨index, ?_⟩
  have opened : site.opensBody index = true := by simp [opensBody, free, isRecord, held]
  have unnamed : site.namesType index = false := by
    rcases kind : site.node.kind == "type_definition" with _ | _
    · simp [namesType, kind]
    · rw [SyntaxNode.isRecord, beq_iff_eq.mp kind] at isRecord
      cases isRecord
  rw [at?_concat, at_eq, Option.bind_some, child?, child_eq]
  simp [opened, isRecord, unnamed]

end Site

/-! ## Names -/

namespace SessionPart

theorem recordHead_writtenName (scope : List CodeText) (given : Option CodeText)
    (node : SyntaxNode) : Gives (recordHead scope given node) fun head =>
      head.writtenName = node.writtenName given := by
  rcases found : node.child? "name" with _ | name
  · have written : node.writtenName given = given := by simp [SyntaxNode.writtenName, found]
    simp only [recordHead, found, pure_bind]
    exact .after fun _ => .after fun _ => .pure written.symm
  · simp only [recordHead, found]
    refine Gives.bind (.reading name.text) fun text text_eq => ?_
    have written : node.writtenName given = some (Name.normalize text) := by
      simp [SyntaxNode.writtenName, found, text_eq, Except.toOption]
    simp only [pure_bind]
    exact .after fun _ => .after fun _ => .pure written.symm

theorem apply_derived {chain twin next : DeclaratorChain} {pointer : Layout} (other : Layout)
    {node : SyntaxNode} (same : chain.derived = twin.derived)
    (applied : chain.apply pointer node = .ok next) :
    ∃ after, twin.apply other node = .ok after ∧ next.derived = after.derived := by
  unfold DeclaratorChain.apply at applied ⊢
  by_cases function : node.isKind functionKinds = true
  · rw [if_pos function] at applied ⊢
    cases applied
    exact ⟨_, rfl, rfl⟩
  rw [if_neg function] at applied ⊢
  by_cases reference : node.isKind pointerKinds = true
  · rw [if_pos reference] at applied ⊢
    cases applied
    exact ⟨_, rfl, rfl⟩
  rw [if_neg reference] at applied ⊢
  by_cases array : node.isKind arrayKinds = true
  · rw [if_pos array] at applied ⊢
    rcases counted : node.elementCount with fault | count <;> rw [counted] at applied <;>
      cases applied
    exact ⟨_, rfl, rfl⟩
  rw [if_neg array] at applied ⊢
  by_cases transparent : node.isKind transparentKinds = true
  · rw [if_pos transparent] at applied ⊢
    rcases read : node.attributes with fault | attributes <;> rw [read] at applied <;>
      cases applied
    exact ⟨_, rfl, same⟩
  rw [if_neg transparent] at applied ⊢
  by_cases last : (node.child? "declarator").isNone = true
  · rw [if_pos last] at applied ⊢
    cases applied
    exact ⟨_, rfl, same⟩
  · rw [if_neg last] at applied ⊢
    cases applied
    exact ⟨_, rfl, same⟩

theorem follow_derived {chain twin last : DeclaratorChain} {pointer : Layout} (other : Layout)
    {node : SyntaxNode} {name : Option SyntaxNode} (same : chain.derived = twin.derived)
    (followed : chain.follow pointer node = .ok (name, last)) :
    ∃ after, twin.follow other node = .ok (name, after) ∧ last.derived = after.derived := by
  induction chain, node using DeclaratorChain.follow.induct generalizing twin with
  | case1 chain node named =>
      rw [DeclaratorChain.follow, if_pos named] at followed ⊢
      cases followed
      exact ⟨twin, rfl, same⟩
  | case2 chain node unnamed ih =>
      rw [DeclaratorChain.follow, if_neg unnamed] at followed ⊢
      rcases applied : chain.apply pointer node with fault | middle <;> rw [applied] at followed
      · cases followed
      obtain ⟨next, applied_twin, same⟩ := apply_derived other same applied
      rw [applied_twin]
      simp only [bind, Except.bind] at followed ⊢
      split at followed
      · cases followed
        exact ⟨next, rfl, same⟩
      · rename_i inner found
        exact ih middle inner found same followed

theorem givenName_gives {node type : SyntaxNode} (found : node.child? "type" = some type) :
    Gives (givenName type (node.childrenBy "declarator")) fun given =>
      given = node.typedefName? := by
  rcases written : type.child? "name" with _ | name
  · rcases declarators_eq : node.childrenBy "declarator" with _ | ⟨first, rest⟩
    · have unnamed : node.typedefName? = none := by
        simp [SyntaxNode.typedefName?, found, written, declarators_eq]
      simp only [givenName, written, unnamed]
      exact .pure rfl
    simp only [givenName, written]
    refine Gives.bind (declarator_follows first _) fun info ends => ?_
    obtain ⟨pointer, chain, followed, -, derived_eq⟩ := ends
    obtain ⟨last, twin_followed, derived⟩ := follow_derived .unresolved rfl followed
    have typedef_eq : node.typedefName? = info.name.bind fun name =>
        if info.derived then none else name.text.toOption := by
      simp only [SyntaxNode.typedefName?, found, Option.bind_some, written, declarators_eq,
        twin_followed, derived_eq, derived]
      cases info.name <;> rfl
    rw [typedef_eq]
    rcases info.name with _ | name
    · exact .pure rfl
    rcases info.derived with _ | _
    · refine Gives.bind (.reading name.text) fun text text_eq => .pure ?_
      simp [text_eq, Except.toOption]
    · exact .pure rfl
  · have unnamed : node.typedefName? = none := by
      simp [SyntaxNode.typedefName?, found, written]
    simp only [givenName, written, unnamed]
    exact .pure rfl

theorem recordHead_names (site : Site) :
    Gives (recordHead site.scope site.given site.node) fun head =>
      head.ownName = site.ownName ∧
        head.qualified = site.ownName.map (Name.qualify site.scope) := by
  intro session head after ran
  have own : head.ownName = site.ownName :=
    congrArg Text.proper? (recordHead_writtenName _ _ _ _ _ _ ran)
  exact ⟨own, own ▸ (recordHead_reads _ _ _ _ _ _ ran).2⟩

/-! ## Members -/

def AddsAt (top : Site) (outer : List Address) (state after : MemberState) : Prop :=
  ∃ records, after.nested = state.nested ++ records ∧ Placed top outer records

theorem AddsAt.of_eq {top : Site} {outer : List Address} {state after : MemberState}
    (same : after.nested = state.nested) : AddsAt top outer state after :=
  ⟨[], by rw [same, List.append_nil], .nil top outer⟩

theorem Gives.foldlM_placed {top site : Site}
    {step : MemberState → SyntaxNode → SessionPart MemberState} {outer : List Address}
    {items : List SyntaxNode} (listed : site.ItemsAt top outer items)
    (steps : ∀ item ∈ items, ∀ address, top.at? address = some (site.inside item) →
      ∀ state, Gives (step state item) (AddsAt top [address] state))
    (state : MemberState) : Gives (items.foldlM step state) (AddsAt top outer state) := by
  obtain ⟨addresses, found, apart, below⟩ := listed
  suffices added : Gives (items.foldlM step state) (AddsAt top addresses state) from
    added.mono fun after ⟨records, after_eq, placed⟩ => ⟨records, after_eq, placed.weaken below⟩
  clear below
  induction found generalizing state with
  | nil => exact .pure (.of_eq rfl)
  | @cons address item addresses items at_eq _ ih =>
    obtain ⟨first, others⟩ := List.pairwise_cons.mp apart
    rw [List.foldlM_cons]
    refine Gives.bind (steps item List.mem_cons_self address at_eq state) fun middle added => ?_
    refine (ih (fun item later => steps item (List.mem_cons_of_mem _ later)) middle others).mono
      fun after more => ?_
    obtain ⟨records, middle_eq, placed⟩ := added
    obtain ⟨further, after_eq, later⟩ := more
    refine ⟨records ++ further, by rw [after_eq, middle_eq, List.append_assoc], ?_⟩
    exact placed.append later (by simpa using first)

theorem readDeclarators_placed {top : Site} {outer : List Address} (scope : List CodeText)
    (className : Option CodeText) (member : SyntaxNode) {type : SpecifiedType}
    (placed : Placed top outer type.nested) (state : MemberState) :
    Gives (readDeclarators scope className member type state) (AddsAt top outer state) := by
  refine (readDeclarators_keeps scope className member type state).mono fun after added => ?_
  obtain ⟨records, after_eq, read⟩ := added
  cases read
  exact ⟨type.nested, by rw [after_eq, List.append_nil], placed⟩

/-! ## Records -/

theorem readSpecifier_undefined (scope : List CodeText) {node : SyntaxNode}
    (undefined : node.isDefinition = false) :
    Gives (readSpecifier scope node) fun type => type.nested = [] := by
  refine (readSpecifier_gives scope node).mono fun type read => ?_
  rw [SyntaxNode.typeDefinitions_of_undefined _ _ undefined] at read
  exact List.forall₂_nil_left_iff.mp read

theorem readRecord_forward (site : Site) (missing : site.node.child? "body" = none) :
    Gives (readRecord site.scope site.given site.node) fun built =>
      built.nested = [] ∧ built.record.complete = false ∧
        built.record.name = site.ownName.map (Name.qualify site.scope) := by
  rw [readRecord]
  refine Gives.bind (recordHead_names site) fun head names => ?_
  split
  · exact .pure ⟨rfl, rfl, names.2⟩
  · rename_i found
    cases missing.symm.trans found

theorem readRecord_defined {top site : Site} {address : Address} {body : SyntaxNode}
    (at_eq : top.at? address = some site) (free : site.isBody = false)
    (isRecord : site.node.isRecord = true) (found : site.node.child? "body" = some body)
    (members : ∀ inner ∈ body.items, ∀ (surroundings : Site) (address : Address),
      top.at? address = some (surroundings.inside inner) →
        ∀ className state, Gives (readMember surroundings.scope className state inner)
          (AddsAt top [address] state)) :
    Gives (readRecord site.scope site.given site.node) fun built =>
      (∃ index, Placed top [address ++ [index]] built.nested) ∧ built.record.complete = true ∧
        built.record.name = site.ownName.map (Name.qualify site.scope) := by
  intro session built after ran
  obtain ⟨run⟩ := nonempty_recordRun found ran
  obtain ⟨own, qualified⟩ := recordHead_names site _ _ _ run.heads
  obtain ⟨index, at_body⟩ := Site.at?_body free isRecord at_eq found
  have items := Site.itemsAt top body rfl at_body (.of_body rfl)
  have scope_eq : run.head.memberScope site.scope = Site.scope
      { node := body, namespaces := site.namespaces,
        records := site.records ++ site.ownName.toList, isBody := true } := by
    rw [RecordHead.memberScope, own, Site.scope, Site.scope, List.append_assoc]
  have reads := run.reads
  rw [scope_eq] at reads
  obtain ⟨records, nested_eq, placed⟩ := Gives.foldlM_placed items
    (fun item listed address at_item state => members item listed _ address at_item _ state) _
    _ _ _ reads
  rw [start_nested, List.nil_append] at nested_eq
  refine ⟨⟨index, ?_⟩, by rw [run.record_eq]; rfl, ?_⟩
  · rw [congrArg RecordReading.nested run.built_eq, nested_eq]
    exact placed
  · rw [run.record_eq]
    change run.plan.head.qualified = _
    rw [run.plan_head, qualified]

-- The four ways of reading call each other, so the sites of what they read are found together.
mutual

theorem readRecord_placed {top site : Site} {address : Address}
    (at_eq : top.at? address = some site) (free : site.isBody = false)
    (isRecord : site.node.isRecord = true) :
    Gives (readRecord site.scope site.given site.node) fun built =>
      Placed top [address] built.all := by
  intro session built after ran
  rcases found : site.node.child? "body" with _ | body
  · obtain ⟨nested_eq, complete, name⟩ := readRecord_forward site found _ _ _ ran
    rw [RecordReading.all, nested_eq]
    refine Placed.concat (.nil top [address ++ [0]]) ⟨site, at_eq, isRecord, ?_, name, ?_⟩
    · simp [complete, found]
    · exact ⟨session, built, after, ran, rfl⟩
  · have outside := SyntaxNode.sizeOf_child?_lt found
    obtain ⟨⟨index, nested⟩, complete, name⟩ := readRecord_defined at_eq free isRecord found
      (fun inner listed surroundings address at_item className state =>
        readMember_placed at_item className state) _ _ _ ran
    refine nested.concat ⟨site, at_eq, isRecord, ?_, name, session, built, after, ran, rfl⟩
    simp [complete, found]
termination_by (sizeOf site.node, 0)
decreasing_by
  have inside := SyntaxNode.sizeOf_items_lt listed
  exact Prod.Lex.left _ _ (by omega)

theorem readSpecifier_placed {top surroundings : Site} {address : Address} {node : SyntaxNode}
    (at_eq : top.at? address = some (surroundings.inside node)) :
    Gives (readSpecifier surroundings.scope node) fun type =>
      Placed top [address] type.nested := by
  rcases defined : node.isDefinition with _ | _
  · refine (readSpecifier_undefined _ defined).mono fun type nested_eq => ?_
    rw [nested_eq]
    exact .nil top _
  · have parts : node.isRecord = true ∧ (node.child? "body").isSome = true := by
      simpa [SyntaxNode.isDefinition] using defined
    rw [readSpecifier]
    refine Gives.after fun text => ?_
    rw [if_pos (by simp [parts])]
    refine Gives.bind (readRecord_placed at_eq rfl parts.1) fun built placed => ?_
    split
    · exact .after fun text => .pure placed
    · exact .pure placed.of_append
termination_by (sizeOf node, 1)
decreasing_by exact Prod.Lex.right _ (by omega)

theorem readMember_placed {top surroundings : Site} {address : Address} {member : SyntaxNode}
    (at_eq : top.at? address = some (surroundings.inside member)) (className : Option CodeText)
    (state : MemberState) :
    Gives (readMember surroundings.scope className state member) (AddsAt top [address] state) := by
  rw [readMember]
  split
  · rename_i declares
    split
    · rename_i type found
      have := SyntaxNode.sizeOf_child?_lt found
      have list : (surroundings.inside member).IsList := .of_kind _ declares (by decide)
      obtain ⟨index, at_type⟩ := list.at?_of_mem at_eq (List.mem_of_find?_eq_some found)
      refine Gives.bind (readSpecifier_placed at_type) fun resolved placed => ?_
      exact readDeclarators_placed _ className member placed.up state
    · rw [pure_bind]
      exact readDeclarators_placed _ className member (.nil top _) state
  split
  · rename_i kind
    exact Gives.bind (typeDefinition_placed at_eq (beq_iff_eq.mp kind)) fun records placed =>
      .pure ⟨records, rfl, placed⟩
  split
  -- a synonym: whatever its type defines is read and dropped
  · exact .after fun _ => .pure (.of_eq rfl)
  · split
    · exact .after fun _ => .pure (.of_eq rfl)
    · exact .pure (.of_eq rfl)
termination_by (sizeOf member, 1)
decreasing_by
  · exact Prod.Lex.right _ (by omega)
  · exact Prod.Lex.left _ _ (by assumption)

theorem typeDefinition_placed {top surroundings : Site} {address : Address} {node : SyntaxNode}
    (at_eq : top.at? address = some (surroundings.inside node))
    (kind : node.kind = "type_definition") :
    Gives (typeDefinition surroundings.scope node) fun records =>
      Placed top [address] records := by
  rw [typeDefinition]
  split
  · exact .after fun _ => .pure (.nil top _)
  rename_i type found
  have := SyntaxNode.sizeOf_child?_lt found
  split
  · rename_i defined
    have isRecord : type.isRecord = true := by simp_all
    obtain ⟨index, at_type⟩ := Site.at?_typedef rfl kind at_eq found
    refine Gives.bind (givenName_gives found) fun given given_eq => ?_
    rw [given_eq]
    refine Gives.bind (readRecord_placed at_type rfl isRecord) fun built placed => ?_
    exact .after fun _ => .pure placed.up
  · rename_i undefined
    have undefined : type.isDefinition = false := by
      simpa [SyntaxNode.isDefinition] using undefined
    refine Gives.bind (readSpecifier_undefined _ undefined) fun resolved nested_eq => ?_
    rw [nested_eq]
    exact .after fun _ => .pure (.nil top _)
termination_by (sizeOf node, 0)
decreasing_by exact Prod.Lex.left _ _ (by assumption)

end

end SessionPart

end TypeCatalog
