import TypeCatalog.Proofs.RecordNames
import TypeCatalog.Syntax.Source

/-!
# The records of a file

The items of a file stand at addresses apart from each other, each in the
scope of the namespaces around it, and a group holds records from below one
item.  So what holds of the records of one item holds across the whole file.
-/

namespace TypeCatalog

open Text (CodeText)

/-! ## Sites of items -/

namespace Site

variable {top site : Site} {address : Address}

theorem at?_namespaceBody {body : SyntaxNode} (free : site.isBody = false)
    (kind : site.node.kind = "namespace_definition") (at_eq : top.at? address = some site)
    (found : site.node.child? "body" = some body) :
    ∃ index, top.at? (address ++ [index]) =
      some { node := body, namespaces := site.namespaces ++ site.node.namespaceParts,
             records := site.records, isBody := true } := by
  obtain ⟨index, held, child_eq⟩ := SyntaxNode.exists_isChildAt found
  refine ⟨index, ?_⟩
  have notRecord : site.node.isRecord = false := by
    rw [SyntaxNode.isRecord, kind]
    rfl
  have opened : site.opensBody index = true := by simp [opensBody, free, kind, held]
  have unnamed : site.namesType index = false := by simp [namesType, kind]
  rw [at?_concat, at_eq, Option.bind_some, child?, child_eq]
  simp [opened, notRecord, unnamed]

end Site

namespace Item

def site (item : Item) : Site :=
  { node := item.node, namespaces := item.scope }

@[simp] theorem node_site (item : Item) : item.site.node = item.node :=
  rfl

@[simp] theorem scope_site (item : Item) : item.site.scope = item.scope :=
  List.append_nil _

/-- An item at an address, inside given linkage specifications and maybe further ones.  It has
C linkage if it has that outside of the further ones or one of these names C. -/
def LinkedAt (top : Site) (around : List SyntaxNode) (externC : Bool) (address : Address)
    (item : Item) : Prop :=
  top.at? address = some item.site ∧ ∃ further, top.linkages address = around ++ further ∧
    item.externC = (externC || further.any SyntaxNode.namesC)

theorem LinkedAt.enter {top : Site} {around : List SyntaxNode} {externC : Bool}
    {address : Address} {item : Item} {specification : SyntaxNode}
    (linked : LinkedAt top (around ++ [specification]) (externC || specification.namesC) address
      item) : LinkedAt top around externC address item := by
  obtain ⟨at_eq, further, linkages_eq, externC_eq⟩ := linked
  refine ⟨at_eq, specification :: further, ?_, ?_⟩
  · rw [linkages_eq, List.append_assoc, List.singleton_append]
  · rw [externC_eq, List.any_cons, Bool.or_assoc]

theorem innerScope_eq {scope inner : List CodeText} {child : SyntaxNode}
    (read : innerScope scope child = .ok inner) : inner = scope ++ child.namespaceParts := by
  unfold innerScope at read
  split at read
  · rename_i missing
    cases read
    simp [SyntaxNode.namespaceParts, missing]
  · rename_i name found
    rcases text_eq : name.text with fault | text <;> rw [text_eq] at read <;> cases read
    simp [SyntaxNode.namespaceParts, found, text_eq, Except.toOption]

theorem innerLinkage_eq {externC linkage : Bool} {child : SyntaxNode}
    (read : innerLinkage externC child = .ok linkage) : linkage = (externC || child.namesC) := by
  unfold innerLinkage at read
  cases externC with
  | true =>
    cases read
    rfl
  | false =>
    rw [if_neg Bool.false_ne_true] at read
    rw [SyntaxNode.namesC]
    rcases text_eq : SyntaxNode.textOf (child.child? "value") with fault | text <;>
      rw [text_eq] at read <;> cases read
    rfl

/-- The items of a list are in its scope, those of a namespace in the scope inside it, and those
of a linkage specification have C linkage if it names C or they have that outside of it. -/
theorem all_linkedAt {top : Site} (externC : Bool) {site : Site} {address : Address}
    (at_eq : top.at? address = some site) (list : site.IsList) (outside : site.records = []) :
    Address.Spread (LinkedAt top (top.linkages address ++ site.ownLinkage) externC) Address.Apart
      [address] ((all site.namespaces externC site.node).filterMap Except.toOption) := by
  have single {inner : Address} {node : SyntaxNode} {around : List SyntaxNode} {externC : Bool}
      (at_node : top.at? inner = some (site.inside node)) (linked : top.linkages inner = around) :
      Address.Spread (LinkedAt top around externC) Address.Apart [inner]
        [{ node, scope := site.namespaces, externC }] := by
    refine Address.Spread.single ⟨at_node.trans ?_, [], ?_, ?_⟩
    · rw [Site.inside, outside]
      rfl
    · rw [linked, List.append_nil]
    · rw [List.any_nil, Bool.or_false]
  rw [all]
  simp only [List.flatMap_subtype, List.unattach_attach]
  rw [List.filterMap_flatMap]
  refine (Site.linkedItemsAt top _ rfl at_eq list).flatMap (fun _ _ apart => apart) ?_
  rintro child listed inner ⟨at_child, linked⟩
  have smaller := SyntaxNode.sizeOf_items_lt listed
  have below (index : Nat) := Site.linkages_concat at_child index
  split
  · rename_i kind
    split
    · exact .nil _
    rename_i scope read
    split
    · rename_i body found
      have shorter := SyntaxNode.sizeOf_child?_lt found
      obtain ⟨index, at_body⟩ := Site.at?_namespaceBody rfl (beq_iff_eq.mp kind) at_child found
      have own : (site.inside child).ownLinkage = [] :=
        Site.ownLinkage_of_kind ["namespace_definition"] (by simpa [SyntaxNode.isKind] using kind)
          (by decide)
      have items := all_linkedAt externC at_body (.of_body rfl) outside
      rw [below, own, Site.ownLinkage_of_body rfl, List.append_nil, List.append_nil, linked] at items
      rw [innerScope_eq read]
      exact items.up
    · exact .nil _
  split
  · rename_i kind
    split
    · exact .nil _
    rename_i linkage read
    split
    · rename_i body found
      have shorter := SyntaxNode.sizeOf_child?_lt found
      have block : (site.inside child).IsList :=
        .of_kind ["linkage_specification"] (by simpa [SyntaxNode.isKind] using kind) (by decide)
      have own : (site.inside child).ownLinkage = [child] := by
        simpa [Site.ownLinkage, Site.inside] using kind
      obtain ⟨index, at_body⟩ := block.at?_of_mem at_child (List.mem_of_find?_eq_some found)
      have entered : top.linkages (inner ++ [index]) =
          top.linkages address ++ site.ownLinkage ++ [child] := by rw [below, own, linked]
      rw [innerLinkage_eq read]
      split
      · rename_i kind
        have kind : body.isKind ["declaration_list"] = true := by
          simpa [SyntaxNode.isKind] using kind
        have items := all_linkedAt (externC || child.namesC) at_body
          (.of_kind ["declaration_list"] kind (by decide)) outside
        have plain : ((site.inside child).inside body).ownLinkage = [] :=
          Site.ownLinkage_of_kind ["declaration_list"] kind (by decide)
        rw [entered, plain, List.append_nil] at items
        exact items.up.mono fun _ _ linked => linked.enter
      · exact (single at_body entered).up.mono fun _ _ linked => linked.enter
    · exact .nil _
  split
  · rename_i kind
    have items := all_linkedAt externC at_child (.of_kind _ kind (by decide)) outside
    have plain : (site.inside child).ownLinkage = [] := Site.ownLinkage_of_kind _ kind (by decide)
    rw [linked, plain, List.append_nil] at items
    exact items
  · exact single at_child linked
termination_by sizeOf site.node
decreasing_by
  · exact smaller
  · exact Nat.lt_trans shorter smaller
  · exact Nat.lt_trans shorter smaller

end Item

/-! ## Records of a group -/

def Group.records (group : Group) : List Record :=
  group.filterMap fun
    | .record declaration => some declaration
    | _ => none

namespace SessionPart

variable {top : Site} {address : Address} {item : Item}

theorem group_spread {α : Type} {found : Address → Item → Prop} {holds : Address → α → Prop}
    {relates : Address → Address → Prop} (values : Group → List α) (nothing : values [] = [])
    (opens : ∀ item address inner, found address item → item.node.kind = "template_declaration" →
      inner ∈ item.node.children → ∃ index, found (address ++ [index]) { item with node := inner })
    (single : ∀ item address, found address item → item.node.kind ≠ "template_declaration" →
      Gives (group item) fun group => Address.Spread holds relates [address] (values group))
    (item : Item) {address : Address} (at_item : found address item) :
    Gives (group item) fun group => Address.Spread holds relates [address] (values group) := by
  by_cases kind : item.node.kind = "template_declaration"
  · rcases inside : item.node.namedChildren.find? (·.kind != "template_parameter_list") with
      _ | inner
    · rw [group, if_pos (beq_iff_eq.mpr kind)]
      split
      · rename_i same
        cases inside.symm.trans same
      · refine .pure ?_
        rw [nothing]
        exact .nil _
    · have listed := List.mem_of_find?_eq_some inside
      have smaller := SyntaxNode.sizeOf_namedChildren_lt listed
      obtain ⟨index, at_inner⟩ :=
        opens item address inner at_item kind (List.mem_of_mem_filter listed)
      rw [group_template kind inside]
      exact (group_spread values nothing opens single { item with node := inner } at_inner).mono
        fun group spread => spread.up
  · exact single item address at_item kind
termination_by sizeOf item.node

theorem isList_of_template (kind : item.node.kind = "template_declaration") : item.site.IsList :=
  .of_kind ["template_declaration"] (by simp [SyntaxNode.isKind, kind]) (by decide)

end SessionPart

/-! ## Records of a file -/

theorem Session.readItems_spread {α : Type} {found : Address → Item → Prop}
    {holds : Address → α → Prop} {relates : Address → Address → Prop} {outer : List Address}
    {entries : List (Except ReadFault Item)} (values : Group → List α) (nothing : values [] = [])
    (listed : Address.Spread found Address.Apart outer (entries.filterMap Except.toOption))
    (crosses : ∀ inner second, Address.Apart inner second → relates inner second)
    (each : ∀ item address, found address item →
      SessionPart.Gives (SessionPart.group item) fun group =>
        Address.Spread holds relates [address] (values group))
    (session : Session) :
    Address.Spread holds relates outer ((session.readItems entries).1.flatMap values) := by
  obtain ⟨addresses, placed, apart, below⟩ := listed
  suffices spread : Address.Spread holds relates addresses
      ((session.readItems entries).1.flatMap values) from spread.weaken below
  clear below
  induction entries generalizing session addresses with
  | nil => exact .nil _
  | cons entry rest ih =>
    rcases entry with fault | item
    · exact .nil _
    rw [List.filterMap_cons_some (rfl : Except.toOption (.ok item) = some item)] at placed
    obtain @⟨⟩ | @⟨address, _, addresses, _, at_item, placed⟩ := placed
    obtain ⟨first, others⟩ := List.pairwise_cons.mp apart
    rcases ran : (SessionPart.group item).run session with ⟨fault | group, after⟩
    · simp only [readItems, readItem, ran, Except.mapError]
      exact .nil _
    · have spread := (each item address at_item session group after ran).append
        (ih after addresses placed others) fun head same other mem inner second through leads =>
          crosses inner second
            ((first other mem).below (List.mem_singleton.mp same ▸ through) leads)
      simp only [readItems, readItem, ran, Except.mapError]
      split
      · rename_i empty
        obtain rfl := List.isEmpty_iff.mp empty
        rwa [nothing, List.nil_append] at spread
      · exact spread

end TypeCatalog
