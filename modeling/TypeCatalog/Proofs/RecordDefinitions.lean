import Mathlib.Data.List.Basic
import Mathlib.Data.List.Flatten
import TypeCatalog.Syntax.Item

/-!
# The record definitions of a tree

A record may be defined by an item of a file, and as the type of a declaration,
of a type definition or of a synonym, there or among the members of another
record.  The definitions are listed in the order in which they end, so those
inside a record come before it, and no node is listed twice.

Reading a tree follows most of these places and not all of them.  A tree is
plain if the places that are not followed define nothing.
-/

namespace TypeCatalog

/-- Where definitions are looked for. -/
inductive Reach where
  /-- In every place in which a record can be defined. -/
  | everywhere
  /-- In the places from which records are read. -/
  | followed
  deriving DecidableEq, Repr

namespace SyntaxNode

/-! ## Nodes of a tree -/

mutual

def nodes : SyntaxNode → List SyntaxNode
  | mk data children => nodesOf children ++ [mk data children]

def nodesOf : List SyntaxNode → List SyntaxNode
  | [] => []
  | child :: rest => nodes child ++ nodesOf rest

end

theorem nodes_eq (node : SyntaxNode) : node.nodes = nodesOf node.children ++ [node] := by
  cases node with
  | mk data children => rw [nodes, SyntaxNode.children]

theorem nodesOf_sublist_nodes (node : SyntaxNode) : (nodesOf node.children).Sublist node.nodes := by
  rw [nodes_eq]
  exact List.sublist_append_left _ _

theorem self_mem_nodes (node : SyntaxNode) : node ∈ node.nodes := by
  rw [nodes_eq]
  exact List.mem_append_right _ (List.mem_singleton_self node)

theorem nodes_sublist_of_mem {child : SyntaxNode} :
    ∀ {children : List SyntaxNode}, child ∈ children → child.nodes.Sublist (nodesOf children)
  | first :: rest, member => by
    rw [nodesOf]
    rcases List.mem_cons.mp member with rfl | later
    · exact List.sublist_append_left _ _
    · exact (nodes_sublist_of_mem later).trans (List.sublist_append_right _ _)

theorem exists_of_mem_nodesOf {node : SyntaxNode} :
    ∀ {children : List SyntaxNode}, node ∈ nodesOf children → ∃ child ∈ children, node ∈ child.nodes
  | first :: rest, listed => by
    rw [nodesOf] at listed
    rcases List.mem_append.mp listed with inside | later
    · exact ⟨first, List.mem_cons_self, inside⟩
    · obtain ⟨child, member, inside⟩ := exists_of_mem_nodesOf later
      exact ⟨child, List.mem_cons_of_mem _ member, inside⟩

theorem nodes_sublist_of_child? {node child : SyntaxNode} {field : String}
    (found : node.child? field = some child) : child.nodes.Sublist (nodesOf node.children) :=
  nodes_sublist_of_mem (List.mem_of_find?_eq_some found)

mutual

theorem items_sublist : ∀ container : SyntaxNode,
    (container.items.flatMap nodes).Sublist (nodesOf container.children)
  | mk data children => by
    rw [items]
    exact itemsFrom_sublist _ children

theorem itemsFrom_sublist (excluded : List NodeData) : ∀ children : List SyntaxNode,
    ((itemsFrom excluded children).flatMap nodes).Sublist (nodesOf children)
  | [] => by simp [itemsFrom]
  | child :: rest => by
    have later := itemsFrom_sublist excluded rest
    rw [itemsFrom, nodesOf]
    split
    · exact later.trans (List.sublist_append_right _ _)
    · split
      · rw [List.flatMap_append]
        exact ((items_sublist child).trans (nodesOf_sublist_nodes child)).append later
      · rw [List.flatMap_cons]
        exact (List.Sublist.refl _).append later

end

/-! ## Definitions inside records -/

def isDefinition (node : SyntaxNode) : Bool :=
  node.isRecord && (node.child? "body").isSome

def aliasedType? (node : SyntaxNode) : Option SyntaxNode :=
  (node.child? "type").bind (·.child? "type")

def members (node : SyntaxNode) : List SyntaxNode :=
  if node.isRecord then (node.child? "body").elim [] items else []

def memberType? (reach : Reach) (member : SyntaxNode) : Option SyntaxNode :=
  if member.isMemberDeclaration || member.kind == "type_definition" then member.child? "type"
  else if reach == .everywhere && member.kind == "alias_declaration" then member.aliasedType?
  else none

theorem members_sublist (node : SyntaxNode) :
    (node.members.flatMap nodes).Sublist (nodesOf node.children) := by
  unfold members
  split
  · rcases found : node.child? "body" with _ | body
    · exact List.nil_sublist _
    · exact (items_sublist body).trans
        ((nodesOf_sublist_nodes body).trans (nodes_sublist_of_child? found))
  · exact List.nil_sublist _

theorem aliasedType?_sublist {node type : SyntaxNode} (found : node.aliasedType? = some type) :
    type.nodes.Sublist (nodesOf node.children) := by
  obtain ⟨descriptor, outer, inner⟩ := Option.bind_eq_some_iff.mp found
  exact (nodes_sublist_of_child? inner).trans
    ((nodesOf_sublist_nodes descriptor).trans (nodes_sublist_of_child? outer))

theorem memberType?_sublist {reach : Reach} {member type : SyntaxNode}
    (found : member.memberType? reach = some type) :
    type.nodes.Sublist (nodesOf member.children) := by
  unfold memberType? at found
  split at found
  · exact nodes_sublist_of_child? found
  · split at found
    · exact aliasedType?_sublist found
    · cases found

theorem sizeOf_members_lt {node member : SyntaxNode} (listed : member ∈ node.members) :
    sizeOf member < sizeOf node := by
  unfold members at listed
  split at listed
  · rcases found : node.child? "body" with _ | body
    · simp [found] at listed
    · have outer := sizeOf_child?_lt found
      have inner : sizeOf member < sizeOf body := sizeOf_items_lt (by simpa [found] using listed)
      omega
  · cases listed

theorem sizeOf_memberType?_lt {reach : Reach} {member type : SyntaxNode}
    (found : member.memberType? reach = some type) : sizeOf type < sizeOf member := by
  unfold memberType? at found
  split at found
  · exact sizeOf_child?_lt found
  · split at found
    · obtain ⟨descriptor, outer, inner⟩ := Option.bind_eq_some_iff.mp found
      exact Nat.lt_trans (sizeOf_child?_lt inner) (sizeOf_child?_lt outer)
    · cases found

mutual

def nestedDefinitions (reach : Reach) (node : SyntaxNode) : List SyntaxNode :=
  node.members.attach.flatMap fun ⟨member, _⟩ => memberDefinitions reach member
termination_by (sizeOf node, 0)
decreasing_by exact Prod.Lex.left _ _ (sizeOf_members_lt (by assumption))

/-- The definitions in a member.  A type definition gives a name to a record without one. -/
def memberDefinitions (reach : Reach) (member : SyntaxNode) : List SyntaxNode :=
  match _found : member.memberType? reach with
  | some type => typeDefinitions reach (member.kind == "type_definition") type
  | none => []
termination_by (sizeOf member, 0)
decreasing_by exact Prod.Lex.left _ _ (sizeOf_memberType?_lt _found)

/-- The definitions in a type specifier; `unnamed` says whether a record without a name
counts. -/
def typeDefinitions (reach : Reach) (unnamed : Bool) (type : SyntaxNode) : List SyntaxNode :=
  nestedDefinitions reach type ++
    if type.isDefinition && (unnamed || (type.child? "name").isSome) then [type] else []
termination_by (sizeOf type, 1)
decreasing_by exact Prod.Lex.right _ (by omega)

end

theorem nestedDefinitions_eq (reach : Reach) (node : SyntaxNode) :
    node.nestedDefinitions reach = node.members.flatMap (memberDefinitions reach) := by
  rw [nestedDefinitions]
  simp only [List.flatMap_subtype, List.unattach_attach]

theorem memberDefinitions_eq (reach : Reach) (member : SyntaxNode) :
    member.memberDefinitions reach =
      (member.memberType? reach).elim [] (typeDefinitions reach (member.kind == "type_definition"))
      := by
  rw [memberDefinitions]
  split
  · rename_i found
    rw [found, Option.elim_some]
  · rename_i found
    rw [found, Option.elim_none]

theorem members_of_undefined {node : SyntaxNode} (undefined : node.isDefinition = false) :
    node.members = [] := by
  unfold isDefinition at undefined
  unfold members
  split
  · rename_i isRecord
    rcases found : node.child? "body" with _ | body
    · rfl
    · simp [isRecord, found] at undefined
  · rfl

theorem nestedDefinitions_of_undefined (reach : Reach) {node : SyntaxNode}
    (undefined : node.isDefinition = false) : node.nestedDefinitions reach = [] := by
  rw [nestedDefinitions_eq, members_of_undefined undefined, List.flatMap_nil]

theorem typeDefinitions_of_undefined (reach : Reach) (unnamed : Bool) {type : SyntaxNode}
    (undefined : type.isDefinition = false) : type.typeDefinitions reach unnamed = [] := by
  rw [typeDefinitions, nestedDefinitions_of_undefined reach undefined]
  simp [undefined]

mutual

theorem nestedDefinitions_sublist (reach : Reach) (node : SyntaxNode) :
    (node.nestedDefinitions reach).Sublist (nodesOf node.children) := by
  rw [nestedDefinitions_eq]
  refine List.Sublist.trans (List.Sublist.flatMap_right _ fun member listed => ?_)
    (members_sublist node)
  exact memberDefinitions_sublist reach member
termination_by (sizeOf node, 0)
decreasing_by exact Prod.Lex.left _ _ (sizeOf_members_lt listed)

theorem memberDefinitions_sublist (reach : Reach) (member : SyntaxNode) :
    (member.memberDefinitions reach).Sublist member.nodes := by
  rw [memberDefinitions]
  split
  · rename_i type found
    exact (typeDefinitions_sublist reach _ type).trans
      ((memberType?_sublist found).trans (nodesOf_sublist_nodes member))
  · exact List.nil_sublist _
termination_by (sizeOf member, 0)
decreasing_by exact Prod.Lex.left _ _ (sizeOf_memberType?_lt (by assumption))

theorem typeDefinitions_sublist (reach : Reach) (unnamed : Bool) (type : SyntaxNode) :
    (type.typeDefinitions reach unnamed).Sublist type.nodes := by
  rw [typeDefinitions, nodes_eq]
  refine (nestedDefinitions_sublist reach type).append ?_
  split
  · exact List.Sublist.refl _
  · exact List.nil_sublist _
termination_by (sizeOf type, 1)
decreasing_by exact Prod.Lex.right _ (by omega)

end

/-! ## Definitions of items -/

/-- What a template declaration holds beside its parameters.  Only the first child is
followed, also if it is a comment. -/
def templated (reach : Reach) (node : SyntaxNode) : List SyntaxNode :=
  match reach with
  | .everywhere => node.items.filter (·.kind != "template_parameter_list")
  | .followed => (node.namedChildren.find? (·.kind != "template_parameter_list")).toList

def itemType? (reach : Reach) (node : SyntaxNode) : Option SyntaxNode :=
  if node.isRecord then some node
  else if node.kind == "declaration" || node.kind == "type_definition" then node.child? "type"
  else if reach == .everywhere && node.kind == "alias_declaration" then node.aliasedType?
  else none

theorem templated_sublist (reach : Reach) (node : SyntaxNode) :
    ((node.templated reach).flatMap nodes).Sublist (nodesOf node.children) := by
  cases reach with
  | everywhere => exact (List.filter_sublist.flatMap nodes).trans (items_sublist node)
  | followed =>
    unfold templated
    rcases found : node.namedChildren.find? (·.kind != "template_parameter_list") with _ | inner
    · simp [found]
    · simp only [found, Option.toList_some, List.flatMap_singleton]
      exact nodes_sublist_of_mem (List.mem_filter.mp (List.mem_of_find?_eq_some found)).1

theorem sizeOf_templated_lt {reach : Reach} {node inner : SyntaxNode}
    (held : inner ∈ node.templated reach) : sizeOf inner < sizeOf node := by
  cases reach with
  | everywhere => exact sizeOf_items_lt (List.mem_filter.mp held).1
  | followed =>
    exact sizeOf_namedChildren_lt (List.mem_of_find?_eq_some (Option.mem_toList.mp held))

theorem itemType?_sublist {reach : Reach} {node type : SyntaxNode}
    (found : node.itemType? reach = some type) : type.nodes.Sublist node.nodes := by
  unfold itemType? at found
  split at found
  · cases found
    exact List.Sublist.refl _
  · refine List.Sublist.trans ?_ (nodesOf_sublist_nodes node)
    split at found
    · exact nodes_sublist_of_child? found
    · split at found
      · exact aliasedType?_sublist found
      · cases found

def itemDefinitions (reach : Reach) (node : SyntaxNode) : List SyntaxNode :=
  if node.kind == "template_declaration" then
    (node.templated reach).attach.flatMap fun ⟨inner, _⟩ => itemDefinitions reach inner
  else
    (node.itemType? reach).elim [] (typeDefinitions reach (node.kind != "alias_declaration"))
termination_by sizeOf node
decreasing_by exact sizeOf_templated_lt (by assumption)

theorem itemDefinitions_template (reach : Reach) {node : SyntaxNode}
    (template : node.kind = "template_declaration") :
    node.itemDefinitions reach = (node.templated reach).flatMap (itemDefinitions reach) := by
  rw [itemDefinitions, if_pos (beq_iff_eq.mpr template)]
  simp only [List.flatMap_subtype, List.unattach_attach]

theorem itemDefinitions_single (reach : Reach) {node : SyntaxNode}
    (single : node.kind ≠ "template_declaration") :
    node.itemDefinitions reach =
      (node.itemType? reach).elim [] (typeDefinitions reach (node.kind != "alias_declaration"))
      := by
  rw [itemDefinitions, if_neg (by simpa using single)]

theorem itemDefinitions_record (reach : Reach) {node : SyntaxNode}
    (isRecord : node.isRecord = true) :
    node.itemDefinitions reach = node.typeDefinitions reach true := by
  have apart (kind : String) (other : recordKinds.lookup kind = none) : node.kind ≠ kind := by
    rintro rfl
    simp [SyntaxNode.isRecord, other] at isRecord
  rw [itemDefinitions_single reach (apart _ rfl), itemType?, if_pos isRecord, Option.elim_some,
    bne_iff_ne.mpr (apart "alias_declaration" rfl)]

theorem itemDefinitions_typed (reach : Reach) {node : SyntaxNode}
    (kind : node.kind = "declaration" ∨ node.kind = "type_definition") :
    node.itemDefinitions reach =
      (node.child? "type").elim [] (typeDefinitions reach true) := by
  rw [itemDefinitions_single reach (by rcases kind with kind | kind <;> simp [kind])]
  rcases kind with kind | kind <;> simp [itemType?, isRecord, recordKinds, kind]

theorem itemDefinitions_other {node : SyntaxNode} (single : node.kind ≠ "template_declaration")
    (notRecord : node.isRecord = false) (notDeclaration : node.kind ≠ "declaration")
    (notTypedef : node.kind ≠ "type_definition") : node.itemDefinitions .followed = [] := by
  rw [itemDefinitions_single _ single]
  simp [itemType?, notRecord, notDeclaration, notTypedef]

theorem itemDefinitions_sublist (reach : Reach) (node : SyntaxNode) :
    (node.itemDefinitions reach).Sublist node.nodes := by
  by_cases template : node.kind = "template_declaration"
  · rw [itemDefinitions_template reach template]
    refine List.Sublist.trans (List.Sublist.flatMap_right _ fun inner held => ?_)
      ((templated_sublist reach node).trans (nodesOf_sublist_nodes node))
    exact itemDefinitions_sublist reach inner
  · rw [itemDefinitions_single reach template]
    rcases found : node.itemType? reach with _ | type
    · exact List.nil_sublist _
    · exact (typeDefinitions_sublist reach _ type).trans (itemType?_sublist found)
termination_by sizeOf node
decreasing_by exact sizeOf_templated_lt held

/-! ## Definitions of files -/

/-- The definitions of a child of a file or of another container.  The body of a linkage
specification is followed as a list of items or as one item. -/
def childDefinitions (reach : Reach) (child : SyntaxNode) : List SyntaxNode :=
  if child.kind == "namespace_definition" then
    match _body : child.child? "body" with
    | some body => body.items.attach.flatMap fun ⟨inner, _⟩ => childDefinitions reach inner
    | none => []
  else if child.kind == "linkage_specification" then
    match _body : child.child? "body" with
    | some body =>
      if reach == .everywhere || body.kind == "declaration_list" then childDefinitions reach body
      else itemDefinitions reach body
    | none => []
  else if child.isKind ["translation_unit", "declaration_list"] then
    child.items.attach.flatMap fun ⟨inner, _⟩ => childDefinitions reach inner
  else itemDefinitions reach child
termination_by sizeOf child
decreasing_by
  · exact Nat.lt_trans (sizeOf_items_lt (by assumption)) (sizeOf_child?_lt _body)
  · exact sizeOf_child?_lt _body
  · exact sizeOf_items_lt (by assumption)

def definitions (reach : Reach) (tree : SyntaxNode) : List SyntaxNode :=
  tree.items.flatMap (childDefinitions reach)

theorem childDefinitions_namespace (reach : Reach) {child : SyntaxNode}
    (kind : child.kind = "namespace_definition") :
    child.childDefinitions reach = (child.child? "body").elim [] (definitions reach) := by
  rw [childDefinitions, if_pos (beq_iff_eq.mpr kind)]
  split
  · rename_i body found
    simp only [found, Option.elim_some, List.flatMap_subtype, List.unattach_attach, definitions]
  · rename_i found
    rw [found, Option.elim_none]

theorem childDefinitions_linkage (reach : Reach) {child : SyntaxNode}
    (kind : child.kind = "linkage_specification") :
    child.childDefinitions reach = (child.child? "body").elim [] fun body =>
      if reach == .everywhere || body.kind == "declaration_list" then body.childDefinitions reach
      else body.itemDefinitions reach := by
  rw [childDefinitions, if_neg (by simp [kind]), if_pos (beq_iff_eq.mpr kind)]
  split
  · rename_i body found
    rw [found, Option.elim_some]
  · rename_i found
    rw [found, Option.elim_none]

theorem childDefinitions_list (reach : Reach) {child : SyntaxNode}
    (kind : child.isKind ["translation_unit", "declaration_list"] = true) :
    child.childDefinitions reach = child.definitions reach := by
  have kinds : child.kind = "translation_unit" ∨ child.kind = "declaration_list" := by
    simpa [isKind] using kind
  rw [childDefinitions, if_neg (by rcases kinds with kind | kind <;> simp [kind]),
    if_neg (by rcases kinds with kind | kind <;> simp [kind]), if_pos kind]
  simp only [List.flatMap_subtype, List.unattach_attach, definitions]

def containerKinds : List String :=
  ["namespace_definition", "linkage_specification", "translation_unit", "declaration_list"]

theorem childDefinitions_item (reach : Reach) {child : SyntaxNode}
    (kind : child.isKind containerKinds = false) :
    child.childDefinitions reach = child.itemDefinitions reach := by
  have kinds : child.kind ≠ "namespace_definition" ∧ child.kind ≠ "linkage_specification" ∧
      child.kind ≠ "translation_unit" ∧ child.kind ≠ "declaration_list" := by
    simpa [isKind, containerKinds] using kind
  rw [childDefinitions, if_neg (by simp [kinds]), if_neg (by simp [kinds]),
    if_neg (by simp [isKind, kinds])]

theorem containerKinds_cases (child : SyntaxNode) :
    child.kind = "namespace_definition" ∨ child.kind = "linkage_specification" ∨
      child.isKind ["translation_unit", "declaration_list"] = true ∨
      child.isKind containerKinds = false := by
  rcases held : child.isKind containerKinds with _ | _
  · exact .inr (.inr (.inr rfl))
  · simp only [isKind, containerKinds, List.contains_eq_mem, decide_eq_true_eq,
      List.mem_cons, List.not_mem_nil, or_false] at held
    rcases held with kind | kind | kind | kind <;> simp [isKind, kind]

theorem childDefinitions_sublist (reach : Reach) (child : SyntaxNode) :
    (child.childDefinitions reach).Sublist child.nodes := by
  have inside (container : SyntaxNode) (smaller : sizeOf container ≤ sizeOf child) :
      (container.definitions reach).Sublist (nodesOf container.children) := by
    refine List.Sublist.trans (List.Sublist.flatMap_right _ fun inner listed => ?_)
      (items_sublist container)
    have := sizeOf_items_lt listed
    exact childDefinitions_sublist reach inner
  rcases containerKinds_cases child with kind | kind | kind | kind
  · rw [childDefinitions_namespace reach kind]
    rcases found : child.child? "body" with _ | body
    · exact List.nil_sublist _
    · have smaller := Nat.le_of_lt (sizeOf_child?_lt found)
      refine (inside body smaller).trans ((nodesOf_sublist_nodes body).trans ?_)
      exact (nodes_sublist_of_child? found).trans (nodesOf_sublist_nodes child)
  · rw [childDefinitions_linkage reach kind]
    rcases found : child.child? "body" with _ | body
    · exact List.nil_sublist _
    · refine List.Sublist.trans ?_
        ((nodes_sublist_of_child? found).trans (nodesOf_sublist_nodes child))
      have := sizeOf_child?_lt found
      rw [Option.elim_some]
      split
      · exact childDefinitions_sublist reach body
      · exact itemDefinitions_sublist reach body
  · rw [childDefinitions_list reach kind]
    exact (inside child (Nat.le_refl _)).trans (nodesOf_sublist_nodes child)
  · rw [childDefinitions_item reach kind]
    exact itemDefinitions_sublist reach child
termination_by sizeOf child
decreasing_by all_goals omega

theorem definitions_sublist (reach : Reach) (tree : SyntaxNode) :
    (tree.definitions reach).Sublist tree.nodes :=
  (List.Sublist.flatMap_right _ fun child _ => childDefinitions_sublist reach child).trans
    ((items_sublist tree).trans (nodesOf_sublist_nodes tree))

/-! ## Plain trees -/

structure IsPlain (node : SyntaxNode) : Prop where
  /-- The type of a synonym defines no record with a name. -/
  synonym : node.kind = "alias_declaration" → ∀ type, node.aliasedType? = some type →
    type.typeDefinitions .everywhere false = []
  /-- A template declaration holds one item, and no comment stands before it. -/
  template : node.kind = "template_declaration" →
    node.templated .everywhere = node.templated .followed
  /-- The body of a linkage specification is a list of items or one item. -/
  linkage : node.kind = "linkage_specification" → ∀ body, node.child? "body" = some body →
    body.kind = "declaration_list" ∨ body.isKind containerKinds = false

def Plain (tree : SyntaxNode) : Prop :=
  ∀ node ∈ tree.nodes, node.IsPlain

def lossyKinds : List String :=
  ["alias_declaration", "template_declaration", "linkage_specification"]

theorem isPlain_of_kind {node : SyntaxNode} (kind : node.isKind lossyKinds = false) :
    node.IsPlain := by
  have kinds : node.kind ≠ "alias_declaration" ∧ node.kind ≠ "template_declaration" ∧
      node.kind ≠ "linkage_specification" := by
    simpa [isKind, lossyKinds] using kind
  exact ⟨fun same => absurd same kinds.1, fun same => absurd same kinds.2.1,
    fun same => absurd same kinds.2.2⟩

theorem plain_of_kinds {tree : SyntaxNode}
    (kinds : ∀ node ∈ tree.nodes, node.isKind lossyKinds = false) : tree.Plain :=
  fun node listed => isPlain_of_kind (kinds node listed)

theorem IsPlain.plain {tree : SyntaxNode} (self : tree.IsPlain)
    (children : ∀ child ∈ tree.children, child.Plain) : tree.Plain := by
  intro node listed
  rw [nodes_eq] at listed
  rcases List.mem_append.mp listed with inside | same
  · obtain ⟨child, member, below⟩ := exists_of_mem_nodesOf inside
    exact children child member node below
  · rw [List.mem_singleton.mp same]
    exact self

theorem Plain.self {tree : SyntaxNode} (plain : tree.Plain) : tree.IsPlain :=
  plain tree (self_mem_nodes tree)

theorem Plain.mono {tree inner : SyntaxNode} (plain : tree.Plain)
    (inside : inner.nodes.Sublist tree.nodes) : inner.Plain :=
  fun node listed => plain node (inside.subset listed)

theorem Plain.child? {tree child : SyntaxNode} {field : String} (plain : tree.Plain)
    (found : tree.child? field = some child) : child.Plain :=
  plain.mono ((nodes_sublist_of_child? found).trans (nodesOf_sublist_nodes tree))

theorem Plain.of_flatMap {tree inner : SyntaxNode} {inners : List SyntaxNode} (plain : tree.Plain)
    (inside : (inners.flatMap nodes).Sublist (nodesOf tree.children)) (member : inner ∈ inners) :
    inner.Plain :=
  fun node listed => plain node <| (nodesOf_sublist_nodes tree).subset <|
    inside.subset (List.mem_flatMap.mpr ⟨inner, member, listed⟩)

mutual

theorem nestedDefinitions_of_plain {node : SyntaxNode} (plain : node.Plain) :
    node.nestedDefinitions .everywhere = node.nestedDefinitions .followed := by
  rw [nestedDefinitions_eq, nestedDefinitions_eq]
  refine List.flatMap_congr fun member listed => ?_
  exact memberDefinitions_of_plain (plain.of_flatMap (members_sublist node) listed)
termination_by (sizeOf node, 0)
decreasing_by exact Prod.Lex.left _ _ (sizeOf_members_lt listed)

theorem memberDefinitions_of_plain {member : SyntaxNode} (plain : member.Plain) :
    member.memberDefinitions .everywhere = member.memberDefinitions .followed := by
  rw [memberDefinitions_eq, memberDefinitions_eq]
  by_cases typed : (member.isMemberDeclaration || member.kind == "type_definition") = true
  · have same (reach : Reach) : member.memberType? reach = member.child? "type" :=
      if_pos typed
    rw [same, same]
    rcases found : member.child? "type" with _ | type
    · rfl
    · have := sizeOf_child?_lt found
      exact typeDefinitions_of_plain _ (plain.child? found)
  · have none_followed : member.memberType? .followed = none := by simp [memberType?, typed]
    rw [none_followed, memberType?, if_neg typed]
    split
    · rename_i kind
      have kind : member.kind = "alias_declaration" := by simpa using kind
      rcases found : member.aliasedType? with _ | type
      · rfl
      · simpa [kind] using plain.self.synonym kind type found
    · rfl
termination_by (sizeOf member, 0)
decreasing_by exact Prod.Lex.left _ _ (by assumption)

theorem typeDefinitions_of_plain {type : SyntaxNode} (unnamed : Bool) (plain : type.Plain) :
    type.typeDefinitions .everywhere unnamed = type.typeDefinitions .followed unnamed := by
  rw [typeDefinitions, typeDefinitions, nestedDefinitions_of_plain plain]
termination_by (sizeOf type, 1)
decreasing_by exact Prod.Lex.right _ (by omega)

end

theorem itemDefinitions_of_plain {node : SyntaxNode} (plain : node.Plain) :
    node.itemDefinitions .everywhere = node.itemDefinitions .followed := by
  by_cases template : node.kind = "template_declaration"
  · rw [itemDefinitions_template _ template, itemDefinitions_template _ template,
      plain.self.template template]
    refine List.flatMap_congr fun inner held => ?_
    exact itemDefinitions_of_plain (plain.of_flatMap (templated_sublist _ node) held)
  · rw [itemDefinitions_single _ template, itemDefinitions_single _ template]
    by_cases kind : node.kind = "alias_declaration"
    · have notRecord : node.isRecord = false := by simp [isRecord, kind, recordKinds]
      rcases found : node.aliasedType? with _ | type
      · simp [itemType?, notRecord, kind, found]
      · simpa [itemType?, notRecord, kind, found] using plain.self.synonym kind type found
    · have same : node.itemType? .everywhere = node.itemType? .followed := by
        simp [itemType?, kind]
      rw [same]
      rcases found : node.itemType? .followed with _ | type
      · rfl
      · exact typeDefinitions_of_plain _ (plain.mono (itemType?_sublist found))
termination_by sizeOf node
decreasing_by exact sizeOf_templated_lt held

theorem childDefinitions_of_plain {child : SyntaxNode} (plain : child.Plain) :
    child.childDefinitions .everywhere = child.childDefinitions .followed := by
  have inside (container : SyntaxNode) (smaller : sizeOf container ≤ sizeOf child)
      (plain : container.Plain) :
      container.definitions .everywhere = container.definitions .followed := by
    refine List.flatMap_congr fun inner listed => ?_
    have := sizeOf_items_lt listed
    exact childDefinitions_of_plain (plain.of_flatMap (items_sublist container) listed)
  rcases containerKinds_cases child with kind | kind | kind | kind
  · rw [childDefinitions_namespace _ kind, childDefinitions_namespace _ kind]
    rcases found : child.child? "body" with _ | body
    · rfl
    · exact inside body (Nat.le_of_lt (sizeOf_child?_lt found)) (plain.child? found)
  · rw [childDefinitions_linkage _ kind, childDefinitions_linkage _ kind]
    rcases found : child.child? "body" with _ | body
    · rfl
    · have := sizeOf_child?_lt found
      have same := childDefinitions_of_plain (plain.child? found)
      rcases plain.self.linkage kind body found with list | item
      · simpa [list] using same
      · simpa [childDefinitions_item _ item] using same
  · rw [childDefinitions_list _ kind, childDefinitions_list _ kind]
    exact inside child (Nat.le_refl _) plain
  · rw [childDefinitions_item _ kind, childDefinitions_item _ kind]
    exact itemDefinitions_of_plain plain
termination_by sizeOf child
decreasing_by all_goals omega

theorem definitions_of_plain {tree : SyntaxNode} (plain : tree.Plain) :
    tree.definitions .everywhere = tree.definitions .followed :=
  List.flatMap_congr fun _ listed =>
    childDefinitions_of_plain (plain.of_flatMap (items_sublist tree) listed)

end SyntaxNode

end TypeCatalog
