import Mathlib.Data.List.Forall2
import TypeCatalog.Syntax.Item

/-!
# Sites of nodes

A node is addressed by the numbers of the children on the way to it.  On that
way the names of namespaces and records add up to the scope in which the node
stands; a record without a name may get one from a type definition.  The
linkage specifications on the way are those that enclose the node.
-/

namespace TypeCatalog

open Text (CodeText)

/-- The numbers of the children on the way to a node, the outermost first. -/
abbrev Address := List Nat

/-! ## Addresses apart from each other -/

namespace Address

/-- Neither of two addresses leads through the other. -/
def Apart (first second : Address) : Prop :=
  ¬first <+: second ∧ ¬second <+: first

variable {first second third inner : Address}

theorem Apart.below (apart : first.Apart second) (under : first <+: third)
    (other : second <+: inner) : third.Apart inner := by
  constructor
  · intro above
    rcases List.prefix_or_prefix_of_prefix (under.trans above) other with through | through
    · exact apart.1 through
    · exact apart.2 through
  · intro above
    rcases List.prefix_or_prefix_of_prefix (other.trans above) under with through | through
    · exact apart.2 through
    · exact apart.1 through

theorem apart_of_ne (address : Address) {index other : Nat} (ne : index ≠ other) :
    Apart (address ++ [index]) (address ++ [other]) := by
  constructor <;> intro through <;>
    simpa [ne, ne.symm] using (List.prefix_append_right_inj address).mp through

/-- Values at addresses that lie below given ones and of which any two are in a relation. -/
def Spread {α : Type} (holds : Address → α → Prop) (relates : Address → Address → Prop)
    (outer : List Address) (values : List α) : Prop :=
  ∃ addresses, List.Forall₂ holds addresses values ∧ addresses.Pairwise relates ∧
    ∀ inner ∈ addresses, ∃ address ∈ outer, address <+: inner

namespace Spread

variable {α β : Type} {holds : Address → α → Prop} {relates : Address → Address → Prop}
  {outer others : List Address} {address : Address} {value : α} {values more : List α}

theorem nil (outer : List Address) : Spread holds relates outer [] :=
  ⟨[], .nil, .nil, by simp⟩

theorem single (found : holds address value) : Spread holds relates [address] [value] :=
  ⟨[address], .cons found .nil, List.pairwise_singleton _ _,
    fun inner mem => ⟨inner, mem, List.prefix_rfl⟩⟩

theorem mono {weaker : Address → α → Prop} (spread : Spread holds relates outer values)
    (implies : ∀ address value, holds address value → weaker address value) :
    Spread weaker relates outer values := by
  obtain ⟨addresses, found, related, below⟩ := spread
  exact ⟨addresses, found.imp implies, related, below⟩

theorem weaken (spread : Spread holds relates outer values)
    (under : ∀ inner ∈ outer, ∃ address ∈ others, address <+: inner) :
    Spread holds relates others values := by
  obtain ⟨addresses, found, related, below⟩ := spread
  refine ⟨addresses, found, related, fun inner mem => ?_⟩
  obtain ⟨middle, mem_middle, through⟩ := below inner mem
  obtain ⟨address, mem_address, leads⟩ := under middle mem_middle
  exact ⟨address, mem_address, leads.trans through⟩

theorem up {index : Nat} (spread : Spread holds relates [address ++ [index]] values) :
    Spread holds relates [address] values :=
  spread.weaken fun _ mem =>
    ⟨address, List.mem_singleton_self _, List.mem_singleton.mp mem ▸ List.prefix_append _ _⟩

theorem append (spread : Spread holds relates outer values)
    (later : Spread holds relates others more)
    (crosses : ∀ address ∈ outer, ∀ other ∈ others, ∀ inner second, address <+: inner →
      other <+: second → relates inner second) :
    Spread holds relates (outer ++ others) (values ++ more) := by
  obtain ⟨addresses, found, related, below⟩ := spread
  obtain ⟨further, found_later, related_later, below_later⟩ := later
  refine ⟨addresses ++ further, List.rel_append found found_later, ?_, ?_⟩
  · refine List.pairwise_append.mpr ⟨related, related_later, fun inner mem second mem_later => ?_⟩
    obtain ⟨address, mem_outer, through⟩ := below inner mem
    obtain ⟨other, mem_others, leads⟩ := below_later second mem_later
    exact crosses address mem_outer other mem_others inner second through leads
  · intro inner mem
    rcases List.mem_append.mp mem with mem | mem
    · obtain ⟨address, mem_outer, through⟩ := below inner mem
      exact ⟨address, List.mem_append_left _ mem_outer, through⟩
    · obtain ⟨address, mem_others, through⟩ := below_later inner mem
      exact ⟨address, List.mem_append_right _ mem_others, through⟩

theorem filter (spread : Spread holds relates outer values) (keep : α → Bool) :
    Spread holds relates outer (values.filter keep) := by
  obtain ⟨addresses, found, related, below⟩ := spread
  have kept : ∃ inner, List.Forall₂ holds inner (values.filter keep) ∧ inner.Sublist addresses := by
    clear related below
    induction found with
    | nil => exact ⟨[], .nil, .refl _⟩
    | @cons address value _ _ here _ ih =>
      obtain ⟨inner, others, part⟩ := ih
      rcases chosen : keep value with _ | _
      · exact ⟨inner, by rwa [List.filter_cons_of_neg (by simp [chosen])], part.cons _⟩
      · exact ⟨address :: inner, by rw [List.filter_cons_of_pos chosen]; exact .cons here others,
          part.cons_cons _⟩
  obtain ⟨inner, placed, part⟩ := kept
  exact ⟨inner, placed, related.sublist part, fun address mem => below address (part.subset mem)⟩

theorem flatMap {at? : Address → β → Prop} {parts : List β} {expand : β → List α}
    (spread : Spread at? Apart outer parts)
    (crosses : ∀ inner second, Apart inner second → relates inner second)
    (each : ∀ part ∈ parts, ∀ address, at? address part →
      Spread holds relates [address] (expand part)) :
    Spread holds relates outer (parts.flatMap expand) := by
  obtain ⟨addresses, found, apart, below⟩ := spread
  refine weaken ?_ below
  clear below
  induction found with
  | nil => exact .nil []
  | @cons address part addresses parts at_eq _ ih =>
    obtain ⟨first, others⟩ := List.pairwise_cons.mp apart
    have later := ih (fun part mem => each part (List.mem_cons_of_mem _ mem)) others
    refine (each part List.mem_cons_self address at_eq).append later ?_
    intro other same second mem inner last through leads
    obtain rfl := List.mem_singleton.mp same
    exact crosses inner last ((first second mem).below through leads)

end Spread

end Address

/-! ## Names on the way to a node -/

namespace SyntaxNode

def isChildAt (node : SyntaxNode) (field : String) (index : Nat) : Bool :=
  node.children.findIdx? (·.data.field == field) == some index

def writtenName (node : SyntaxNode) (given : Option CodeText) : Option CodeText :=
  match node.child? "name" with
  | some name => name.text.toOption.map Name.normalize
  | none => given

def namespaceParts (node : SyntaxNode) : List CodeText :=
  ((node.child? "name").bind fun name => name.text.toOption).elim [] scopeParts

def namesC (node : SyntaxNode) : Bool :=
  (textOf (node.child? "value")).toOption.any fun text => stripQuotes text == "C"

/-- The name that a type definition gives to a record: that of its first declarator, if the record
has no name and the declarator derives no other type. -/
def typedefName? (node : SyntaxNode) : Option CodeText :=
  match (node.child? "type").bind (·.child? "name"), node.childrenBy "declarator" with
  | none, first :: _ =>
    match ({ layout := .unresolved } : DeclaratorChain).follow .unresolved first with
    | .ok (some name, chain) => if chain.derived then none else name.text.toOption
    | _ => none
  | _, _ => none

end SyntaxNode

structure Site where
  node : SyntaxNode
  /-- The names of the enclosing namespaces, the outermost first. -/
  namespaces : List CodeText := []
  /-- The names of the enclosing records that have one, the outermost first. -/
  records : List CodeText := []
  given : Option CodeText := none
  /-- Whether the node is the body of a namespace or record, or the tree. -/
  isBody : Bool := false

namespace Site

def scope (site : Site) : List CodeText :=
  site.namespaces ++ site.records

def ownName (site : Site) : Option CodeText :=
  Text.proper? (site.node.writtenName site.given)

def opensBody (site : Site) (index : Nat) : Bool :=
  !site.isBody && (site.node.kind == "namespace_definition" || site.node.isRecord) &&
    site.node.isChildAt "body" index

def namesType (site : Site) (index : Nat) : Bool :=
  !site.isBody && site.node.kind == "type_definition" && site.node.isChildAt "type" index

/-- The site of a child.  The name of a namespace or record counts inside its body. -/
def child? (site : Site) (index : Nat) : Option Site :=
  site.node.children[index]?.map fun node =>
    { node
      namespaces := site.namespaces ++
        if site.opensBody index && !site.node.isRecord then site.node.namespaceParts else []
      records := site.records ++
        if site.opensBody index && site.node.isRecord then site.ownName.toList else []
      given := if site.namesType index then site.node.typedefName? else none
      isBody := site.opensBody index }

def at? (site : Site) : Address → Option Site
  | [] => some site
  | index :: rest => (site.child? index).bind (·.at? rest)

theorem at?_concat (site : Site) (address : Address) (index : Nat) :
    site.at? (address ++ [index]) = (site.at? address).bind (·.child? index) := by
  induction address generalizing site with
  | nil => simp [at?]
  | cons first rest ih =>
    simp only [List.cons_append, at?, Option.bind_assoc]
    exact congrArg _ (funext ih)

def inside (site : Site) (node : SyntaxNode) : Site :=
  { node, namespaces := site.namespaces, records := site.records }

@[simp] theorem inside_node (site : Site) (node : SyntaxNode) : (site.inside node).node = node :=
  rfl

structure IsList (site : Site) : Prop where
  opens : ∀ index, site.opensBody index = false
  names : ∀ index, site.namesType index = false

theorem IsList.of_body {site : Site} (body : site.isBody = true) : site.IsList :=
  ⟨fun _ => by simp [opensBody, body], fun _ => by simp [namesType, body]⟩

def namingKinds : List String :=
  ["namespace_definition", "class_specifier", "struct_specifier", "union_specifier",
    "type_definition"]

theorem IsList.of_kind {site : Site} (kinds : List String)
    (kind : site.node.isKind kinds = true) (plain : ∀ kind ∈ kinds, kind ∉ namingKinds) :
    site.IsList := by
  have other : site.node.kind ∉ namingKinds := plain _ (List.contains_iff_mem.mp kind)
  simp only [namingKinds, List.mem_cons, List.not_mem_nil, or_false, not_or] at other
  obtain ⟨notNamespace, notClass, notStruct, notUnion, notTypedef⟩ := other
  have notRecord : site.node.isRecord = false := by
    simp [SyntaxNode.isRecord, recordKinds, notClass, notStruct, notUnion, List.lookup_cons,
      beq_eq_false_iff_ne.mpr]
  exact ⟨fun _ => by simp [opensBody, notNamespace, notRecord],
    fun _ => by simp [namesType, notTypedef]⟩

theorem IsList.child? {site : Site} (list : site.IsList) (index : Nat) :
    site.child? index = site.node.children[index]?.map site.inside := by
  have same (node : SyntaxNode) : site.inside node =
      { node, namespaces := site.namespaces, records := site.records } := rfl
  simp [Site.child?, list.opens, list.names, funext same]

theorem IsList.at?_of_mem {top site : Site} {address : Address} {child : SyntaxNode}
    (list : site.IsList) (at_eq : top.at? address = some site)
    (mem : child ∈ site.node.children) :
    ∃ index, top.at? (address ++ [index]) = some (site.inside child) := by
  obtain ⟨index, child_eq⟩ := List.getElem?_of_mem mem
  refine ⟨index, ?_⟩
  rw [at?_concat, at_eq, Option.bind_some, list.child?, child_eq]
  rfl

/-! ## Linkage specifications on the way to a node -/

/-- The linkage specification that a site is, if it is one.  In the place of a body a node of
that kind specifies nothing. -/
def ownLinkage (site : Site) : List SyntaxNode :=
  if !site.isBody && site.node.kind == "linkage_specification" then [site.node] else []

/-- The linkage specifications around the node at an address, the outermost first. -/
def linkages (site : Site) : Address → List SyntaxNode
  | [] => []
  | index :: rest => site.ownLinkage ++ (site.child? index).elim [] (·.linkages rest)

theorem linkages_concat {top site : Site} {address : Address}
    (at_eq : top.at? address = some site) (index : Nat) :
    top.linkages (address ++ [index]) = top.linkages address ++ site.ownLinkage := by
  induction address generalizing top with
  | nil =>
    obtain rfl := Option.some.inj at_eq
    rcases child_eq : top.child? index with _ | child <;> simp [linkages, child_eq]
  | cons first rest ih =>
    rw [at?] at at_eq
    obtain ⟨child, child_eq, at_rest⟩ := Option.bind_eq_some_iff.mp at_eq
    rw [List.cons_append, linkages, linkages, child_eq, Option.elim_some, Option.elim_some,
      ih at_rest, List.append_assoc]

theorem ownLinkage_of_body {site : Site} (body : site.isBody = true) : site.ownLinkage = [] := by
  simp [ownLinkage, body]

theorem ownLinkage_of_kind {site : Site} (kinds : List String)
    (kind : site.node.isKind kinds = true) (plain : "linkage_specification" ∉ kinds) :
    site.ownLinkage = [] := by
  have other : site.node.kind ≠ "linkage_specification" := by
    rintro same
    exact plain (same ▸ List.contains_iff_mem.mp kind)
  simp [ownLinkage, other]

/-! ## Items of a site -/

/-- Items in the same surroundings and inside the same linkage specifications, at addresses that
are apart from each other. -/
def LinkedItemsAt (site top : Site) (around : List SyntaxNode) (outer : List Address)
    (items : List SyntaxNode) : Prop :=
  Address.Spread
    (fun address item => top.at? address = some (site.inside item) ∧ top.linkages address = around)
    Address.Apart outer items

def ItemsAt (site top : Site) (outer : List Address) (items : List SyntaxNode) : Prop :=
  Address.Spread (fun address item => top.at? address = some (site.inside item)) Address.Apart
    outer items

variable {top site : Site} {address : Address} {around : List SyntaxNode}

theorem LinkedItemsAt.prepend {start count : Nat} {first others : List SyntaxNode}
    (here : LinkedItemsAt site top around [address ++ [start]] first)
    (later : LinkedItemsAt site top around
      ((List.range' (start + 1) count).map fun index => address ++ [index]) others) :
    LinkedItemsAt site top around
      ((List.range' start (count + 1)).map fun index => address ++ [index]) (first ++ others) := by
  rw [List.range'_succ]
  refine Address.Spread.append here later fun head same other mem inner second through leads => ?_
  obtain rfl := List.mem_singleton.mp same
  obtain ⟨index, among, rfl⟩ := List.mem_map.mp mem
  have after := (List.mem_range'_1.mp among).1
  exact (address.apart_of_ne (by omega)).below through leads

theorem linkedChildrenFrom (linked : ∀ index, top.linkages (address ++ [index]) = around) :
    ∀ (children : List SyntaxNode) (start : Nat),
      (∀ index, top.at? (address ++ [start + index]) = children[index]?.map site.inside) →
      LinkedItemsAt site top around
        ((List.range' start children.length).map fun index => address ++ [index]) children
  | [], _, _ => .nil _
  | child :: rest, start, at_eq => by
    have later := linkedChildrenFrom linked rest (start + 1) fun index => by
      simpa [Nat.add_assoc, Nat.add_comm 1] using at_eq (index + 1)
    have here : LinkedItemsAt site top around [address ++ [start]] [child] :=
      .single ⟨at_eq 0, linked start⟩
    exact here.prepend later

theorem linkedChildrenAt (at_eq : top.at? address = some site) (list : site.IsList) :
    LinkedItemsAt site top (top.linkages address ++ site.ownLinkage) [address]
      site.node.children := by
  refine (linkedChildrenFrom (linkages_concat at_eq) site.node.children 0
    fun index => ?_).weaken fun inner mem => ?_
  · rw [at?_concat, at_eq, Option.bind_some, list.child?, Nat.zero_add]
  · obtain ⟨index, -, rfl⟩ := List.mem_map.mp mem
    exact ⟨address, List.mem_singleton_self _, List.prefix_append _ _⟩

mutual

theorem linkedItemsAt (top : Site) : ∀ (node : SyntaxNode) {site : Site} {address : Address},
    site.node = node → top.at? address = some site → site.IsList →
      LinkedItemsAt site top (top.linkages address ++ site.ownLinkage) [address] node.items
  | .mk data children, site, address, node_eq, at_eq, list => by
    have child_at (index : Nat) :
        top.at? (address ++ [0 + index]) = children[index]?.map site.inside := by
      rw [at?_concat, at_eq, Option.bind_some, list.child?, node_eq, Nat.zero_add]
      rfl
    rw [SyntaxNode.items]
    refine (linkedItemsFromAt top _ children 0 child_at
      (linkages_concat at_eq)).weaken fun inner mem => ?_
    obtain ⟨index, -, rfl⟩ := List.mem_map.mp mem
    exact ⟨address, List.mem_singleton_self _, List.prefix_append _ _⟩

theorem linkedItemsFromAt (top : Site) (excluded : List NodeData) :
    ∀ (children : List SyntaxNode) {site : Site} {address : Address} {around : List SyntaxNode}
      (start : Nat),
      (∀ index, top.at? (address ++ [start + index]) = children[index]?.map site.inside) →
      (∀ index, top.linkages (address ++ [index]) = around) →
      LinkedItemsAt site top around
        ((List.range' start children.length).map fun index => address ++ [index])
        (SyntaxNode.itemsFrom excluded children)
  | [], _, _, _, _, _, _ => .nil _
  | child :: rest, site, address, around, start, at_eq, linked => by
    have later := linkedItemsFromAt top excluded rest (start + 1) (fun index => by
      simpa [Nat.add_assoc, Nat.add_comm 1] using at_eq (index + 1)) linked
    have here : top.at? (address ++ [start]) = some (site.inside child) := at_eq 0
    rw [SyntaxNode.itemsFrom]
    split
    · exact .prepend (.nil _) later
    split
    · rename_i conditional
      have list : (site.inside child).IsList :=
        .of_kind SyntaxNode.conditionalKinds conditional (by decide)
      have own : (site.inside child).ownLinkage = [] :=
        ownLinkage_of_kind SyntaxNode.conditionalKinds conditional (by decide)
      have inner := linkedItemsAt top child rfl here list
      rw [linked, own, List.append_nil] at inner
      exact .prepend inner later
    · exact .prepend (.single ⟨here, linked start⟩) later

end

theorem itemsAt (top : Site) (node : SyntaxNode) {site : Site} {address : Address}
    (node_eq : site.node = node) (at_eq : top.at? address = some site) (list : site.IsList) :
    ItemsAt site top [address] node.items :=
  (linkedItemsAt top node node_eq at_eq list).mono fun _ _ placed => placed.1

end Site

end TypeCatalog
