import TypeCatalog.Proofs.KeyClaims
import TypeCatalog.Proofs.LoopRules
import TypeCatalog.Proofs.RecordDefinitions

/-!
# What a fault in reading a tree comes from

The text of a node can be had unless the node is broken, and a minus sign can be
applied unless a node of the kind `integer` stands behind it.  So wherever in a
tree something is read, a fault has its cause in a node of the tree.
-/

namespace TypeCatalog

open Text (CodeText)

namespace SyntaxNode

def IsBroken (node : SyntaxNode) : Prop :=
  node.data.bytes = none

def HoldsInteger (node : SyntaxNode) : Prop :=
  ∃ inner ∈ node.nodes, inner.kind = "integer"

/-- Whether a node puts a minus sign before something that holds a node of the kind
`integer`. -/
def NegatesInteger (node : SyntaxNode) : Prop :=
  node.kind = "unary_expression" ∧ textOf (node.child? "operator") = .ok "-" ∧
    ∃ argument, node.child? "argument" = some argument ∧ argument.HoldsInteger

end SyntaxNode

def ReadFault.IsCausedBy : ReadFault → SyntaxNode → Prop
  | brokenNode, node => node.IsBroken
  | negatedText, node => node.NegatesInteger

namespace SyntaxNode

/-! ## Nodes below nodes -/

mutual

theorem nodes_subset {node : SyntaxNode} : ∀ {root : SyntaxNode}, node ∈ root.nodes →
    ∀ inner ∈ node.nodes, inner ∈ root.nodes
  | mk data children, member => by
    rw [nodes] at member ⊢
    rcases List.mem_append.mp member with below | same
    · exact fun inner deeper => List.mem_append_left _ (nodesOf_subset below inner deeper)
    · rw [List.mem_singleton.mp same, nodes]
      exact fun inner deeper => deeper

theorem nodesOf_subset {node : SyntaxNode} : ∀ {children : List SyntaxNode},
    node ∈ nodesOf children → ∀ inner ∈ node.nodes, inner ∈ nodesOf children
  | child :: rest, member => by
    rw [nodesOf] at member ⊢
    rcases List.mem_append.mp member with below | later
    · exact fun inner deeper => List.mem_append_left _ (nodes_subset below inner deeper)
    · exact fun inner deeper => List.mem_append_right _ (nodesOf_subset later inner deeper)

end

section Below

variable {root node child : SyntaxNode}

theorem mem_nodes_of_mem (inside : node ∈ root.nodes) (member : child ∈ node.children) :
    child ∈ root.nodes := by
  have below : child ∈ nodesOf node.children :=
    (nodes_sublist_of_mem member).subset child.self_mem_nodes
  exact nodes_subset inside child ((nodesOf_sublist_nodes node).subset below)

theorem mem_nodes_of_named (inside : node ∈ root.nodes) (member : child ∈ node.namedChildren) :
    child ∈ root.nodes :=
  mem_nodes_of_mem inside (List.mem_filter.mp member).1

theorem mem_nodes_of_child? {field : String} (inside : node ∈ root.nodes)
    (found : node.child? field = some child) : child ∈ root.nodes :=
  mem_nodes_of_mem inside (List.mem_of_find?_eq_some found)

theorem mem_nodes_of_childOfKind? {kind : String} (inside : node ∈ root.nodes)
    (found : node.childOfKind? kind = some child) : child ∈ root.nodes :=
  mem_nodes_of_mem inside (List.mem_of_find?_eq_some found)

theorem mem_nodes_of_childrenBy {field : String} (inside : node ∈ root.nodes)
    (member : child ∈ node.childrenBy field) : child ∈ root.nodes :=
  mem_nodes_of_mem inside (List.mem_filter.mp member).1

theorem mem_nodes_of_items (inside : node ∈ root.nodes) (member : child ∈ node.items) :
    child ∈ root.nodes := by
  have listed : child ∈ node.items.flatMap nodes :=
    List.mem_flatMap.mpr ⟨child, member, child.self_mem_nodes⟩
  have below := (items_sublist node).subset listed
  exact nodes_subset inside child ((nodesOf_sublist_nodes node).subset below)

theorem mem_nodes_of_findBreadthFirst {kind : String} {found : SyntaxNode} :
    ∀ {queue : List SyntaxNode}, (∀ queued ∈ queue, queued ∈ root.nodes) →
      findBreadthFirst kind queue = some found → found ∈ root.nodes := by
  intro queue inside reached
  induction queue using findBreadthFirst.induct kind with
  | case1 => simp [findBreadthFirst] at reached
  | case2 node rest same =>
      rw [findBreadthFirst, if_pos same] at reached
      exact Option.some.inj reached ▸ inside node List.mem_cons_self
  | case3 node rest other closed ih =>
      rw [findBreadthFirst, if_neg other, if_pos closed] at reached
      exact ih (fun node later => inside node (List.mem_cons_of_mem _ later)) reached
  | case4 node rest other opened ih =>
      rw [findBreadthFirst, if_neg other, if_neg opened] at reached
      refine ih (fun next queued => ?_) reached
      rcases List.mem_append.mp queued with later | below
      · exact inside next (List.mem_cons_of_mem _ later)
      · exact mem_nodes_of_mem (inside node List.mem_cons_self) below

theorem mem_nodes_of_descendant? {kind : String} (inside : node ∈ root.nodes)
    (found : node.descendant? kind = some child) : child ∈ root.nodes :=
  mem_nodes_of_findBreadthFirst (fun _ member => mem_nodes_of_mem inside member) found

theorem mem_nodes_of_innerDeclarator? (inside : node ∈ root.nodes)
    (found : node.innerDeclarator? = some child) : child ∈ root.nodes := by
  rw [innerDeclarator?] at found
  split at found
  · exact mem_nodes_of_named inside (List.mem_filter.mp (List.mem_of_head? found)).1
  · split at found
    · next _ _ held => exact Option.some.inj found ▸ mem_nodes_of_child? inside held
    · split at found
      · exact mem_nodes_of_named inside (List.mem_filter.mp (List.mem_of_getLast? found)).1
      · contradiction

theorem mem_nodes_of_widthClause? (inside : node ∈ root.nodes)
    (found : node.widthClause? = some child) : child ∈ root.nodes := by
  rw [widthClause?, Option.or_eq_some_iff] at found
  rcases found with found | ⟨-, found⟩
  · exact mem_nodes_of_childOfKind? inside found
  obtain ⟨error, among, found⟩ := List.exists_of_findSome?_eq_some found
  have below := mem_nodes_of_mem inside (List.mem_filter.mp among).1
  rw [Option.or_eq_some_iff] at found
  rcases found with found | ⟨-, found⟩
  · exact mem_nodes_of_childOfKind? below found
  · split at found
    · cases found
      exact below
    · cases found

end Below

def Explains (root : SyntaxNode) (fault : ReadFault) : Prop :=
  ∃ node ∈ root.nodes, fault.IsCausedBy node

end SyntaxNode

/-! ## Readings -/

/-- A reading of a part of a tree gives a value with a property, or fails with a cause in the
tree. -/
def Reads {α : Type} (root : SyntaxNode) (post : α → Prop) : Except ReadFault α → Prop
  | .ok value => post value
  | .error fault => root.Explains fault

abbrev Explained {α : Type} (root : SyntaxNode) (reading : Except ReadFault α) : Prop :=
  Reads root (fun _ => True) reading

namespace Reads

variable {α β : Type} {root : SyntaxNode} {post : α → Prop}

theorem mono {weaker : α → Prop} {reading : Except ReadFault α} (reads : Reads root post reading)
    (weaken : ∀ value, post value → weaker value) : Reads root weaker reading := by
  cases reading with
  | error fault => exact reads
  | ok value => exact weaken value reads

theorem remember {reading : Except ReadFault α} (reads : Reads root post reading) :
    Reads root (fun value => post value ∧ reading = .ok value) reading := by
  cases reading with
  | error fault => exact reads
  | ok value => exact ⟨reads, rfl⟩

theorem bind {last : β → Prop} {part : Except ReadFault α} {next : α → Except ReadFault β}
    (first : Reads root post part) (rest : ∀ value, post value → Reads root last (next value)) :
    Reads root last (part >>= next) := by
  cases part with
  | error fault => exact first
  | ok value => exact rest value first

theorem map {last : β → Prop} {part : Except ReadFault α} {change : α → β}
    (first : Reads root post part) (holds : ∀ value, post value → last (change value)) :
    Reads root last (part.map change) := by
  cases part with
  | error fault => exact first
  | ok value => exact holds value first

theorem composes (root : SyntaxNode) :
    ComposesWith fun α post (reading : Except ReadFault α) => Reads root post reading where
  pure holds := holds
  bind := bind

end Reads

theorem Explained.composes (root : SyntaxNode) :
    Composes fun α (reading : Except ReadFault α) => Explained root reading :=
  (Reads.composes root).unconditional

/-! ## Texts -/

namespace SyntaxNode

variable {root node : SyntaxNode}

theorem characters_reads (inside : node ∈ root.nodes) :
    Explained root node.characters := by
  unfold characters
  split
  · trivial
  · rename_i broken
    exact ⟨node, inside, broken⟩

theorem isBroken_of_text {fault : ReadFault} (failed : node.text = .error fault) :
    node.IsBroken := by
  unfold text characters at failed
  split at failed
  · cases failed
  · assumption

theorem text_reads (inside : node ∈ root.nodes) : Explained root node.text :=
  (characters_reads inside).map fun _ _ => trivial

theorem textOf_reads {node? : Option SyntaxNode}
    (inside : ∀ node, node? = some node → node ∈ root.nodes) :
    Explained root (textOf node?) := by
  cases node? with
  | none => trivial
  | some node => exact text_reads (inside node rfl)

/-! ## Attributes -/

theorem stringPieces_reads {pieces : List SyntaxNode} (inside : ∀ piece ∈ pieces, piece ∈ root.nodes) :
    Explained root (stringPieces pieces) := by
  induction pieces with
  | nil => trivial
  | cons piece rest ih =>
      obtain ⟨first, others⟩ := List.forall_mem_cons.mp inside
      have tail (value : CodeText) : Explained root
          (do return value ++ (← stringPieces rest) : Except ReadFault CodeText) :=
        (ih others).bind fun _ _ => trivial
      unfold stringPieces
      split
      · exact (text_reads first).bind fun value _ => tail value
      · split
        · have decoded : Explained root (piece.characters.map Escape.decode) :=
            (characters_reads first).map fun _ _ => trivial
          exact decoded.bind fun value _ => tail value
        · exact tail []

theorem stringContent_reads (inside : node ∈ root.nodes) :
    Explained root node.stringContent := by
  unfold stringContent
  split
  · exact (text_reads inside).bind fun _ _ => trivial
  · exact stringPieces_reads fun piece member => mem_nodes_of_named inside member

/-- A literal that calls itself an integer has the value of one, unless a node does so. -/
def IsProper (node : SyntaxNode) (literal : Literal) : Prop :=
  literal.kind = ("integer" : CodeText) →
    (∃ value, literal.value = .integer value) ∨ node.HoldsInteger

theorem otherLiteral_reads (inside : node ∈ root.nodes) :
    Reads root node.IsProper node.otherLiteral := by
  refine (text_reads inside).bind fun text _ kind => ?_
  exact .inr ⟨node, node.self_mem_nodes, String.toList_injective (UniqueKeys.ofChars_injective kind)⟩

theorem HoldsInteger.of_child {child : SyntaxNode} (member : child ∈ node.children)
    (holds : child.HoldsInteger) : node.HoldsInteger := by
  obtain ⟨inner, below, kind⟩ := holds
  exact ⟨inner, nodes_subset (mem_nodes_of_mem node.self_mem_nodes member) inner below, kind⟩

theorem signedLiteral_reads {inner : SyntaxNode} {operator : CodeText} {value : Literal}
    (inside : node ∈ root.nodes) (kind : node.kind = "unary_expression")
    (operator_eq : textOf (node.child? "operator") = .ok operator)
    (found : node.child? "argument" = some inner) (proper : inner.IsProper value)
    (integer : value.kind = ("integer" : CodeText)) :
    Reads root node.IsProper (signedLiteral (operator == "-") value.value) := by
  rcases proper integer with ⟨number, value_eq⟩ | holds
  · rw [value_eq]
    exact fun _ => .inl ⟨_, rfl⟩
  · have held : node.HoldsInteger := holds.of_child (List.mem_of_find?_eq_some found)
    unfold signedLiteral
    split
    · exact fun _ => .inr held
    split
    · rename_i minus
      exact ⟨node, inside, kind, beq_iff_eq.mp minus ▸ operator_eq, inner, found, holds⟩
    · exact fun _ => .inr held

theorem literal_reads {node : SyntaxNode} (inside : node ∈ root.nodes) :
    Reads root node.IsProper node.literal := by
  have other := otherLiteral_reads inside
  rw [literal]
  split
  · exact (stringContent_reads inside).bind fun value _ kind => by cases kind
  split
  · refine (textOf_reads fun inner found => ?_).bind fun value _ kind => by cases kind
    exact mem_nodes_of_childOfKind? inside found
  split
  · simp only [List.mapM_subtype, List.unattach_attach]
    have each (child : SyntaxNode) (listed : child ∈ node.namedChildren) :
        Explained root child.literal := by
      have smaller := sizeOf_namedChildren_lt listed
      exact (literal_reads (mem_nodes_of_named inside listed)).mono fun _ _ => trivial
    refine ((Explained.composes root).mapM each).bind fun parts _ => ?_
    split
    · split
      · exact other
      · exact fun kind => by cases kind
    · exact other
  split
  · refine (text_reads inside).bind fun text _ => ?_
    split
    · exact fun _ => .inl ⟨_, rfl⟩
    · exact (text_reads inside).bind fun text _ kind => by cases kind
  split
  · rename_i kind
    have operator : Explained root (textOf (node.child? "operator")) :=
      textOf_reads fun operator found => mem_nodes_of_child? inside found
    refine operator.remember.bind fun operator read => ?_
    have operator_eq := read.2
    split
    · exact other
    rename_i inner found
    have smaller := sizeOf_child?_lt found
    split
    · refine (literal_reads (mem_nodes_of_child? inside found)).bind fun value proper => ?_
      split
      · rename_i integer
        exact signedLiteral_reads inside (beq_iff_eq.mp kind) operator_eq found proper
          (beq_iff_eq.mp integer)
      · exact other
    · exact other
  split
  · split
    · rename_i inner only
      have listed : inner ∈ node.namedChildren := by simp [only]
      have smaller := sizeOf_namedChildren_lt listed
      refine (literal_reads (mem_nodes_of_named inside listed)).mono fun value proper kind => ?_
      exact (proper kind).imp_right (HoldsInteger.of_child (List.mem_filter.mp listed).1)
    · exact other
  · exact other
termination_by sizeOf node

def spelledAttribute (node : SyntaxNode) (spelled : CodeText) : Except ReadFault Attribute := do
  let arguments ← match node.childOfKind? "argument_list" with
    | some list => (list.namedChildren.filter (·.kind != "comment")).mapM literal
    | none => pure []
  return ⟨Name.normalize spelled, arguments⟩

def namedAttribute (node : SyntaxNode) (own : CodeText) : Except ReadFault Attribute := do
  let spelled ← match node.child? "prefix" with
    | some outer => pure ((← outer.text) ++ Name.scopeSeparator ++ own)
    | none => pure own
  spelledAttribute node spelled

theorem spelledAttribute_reads (inside : node ∈ root.nodes) (spelled : CodeText) :
    Explained root (spelledAttribute node spelled) := by
  unfold spelledAttribute
  split
  · rename_i list found
    have below := mem_nodes_of_childOfKind? inside found
    refine ((Explained.composes root).mapM fun inner listed => ?_).bind fun arguments _ => trivial
    exact (literal_reads (mem_nodes_of_named below (List.mem_filter.mp listed).1)).mono
      fun _ _ => trivial
  · trivial

theorem namedAttribute_reads (inside : node ∈ root.nodes) (own : CodeText) :
    Explained root (namedAttribute node own) := by
  unfold namedAttribute
  dsimp only
  split
  · rename_i outer found
    exact (text_reads (mem_nodes_of_child? inside found)).bind fun text _ =>
      spelledAttribute_reads inside _
  · exact spelledAttribute_reads inside own

theorem readAttribute_reads (inside : node ∈ root.nodes) :
    Explained root node.readAttribute := by
  unfold readAttribute
  dsimp only
  split
  · rename_i name found
    exact (text_reads (mem_nodes_of_child? inside found)).bind fun own _ =>
      namedAttribute_reads inside own
  · have own : Explained root (node.text.map beforeParen) :=
      (text_reads inside).map fun _ _ => trivial
    exact own.bind fun own _ => namedAttribute_reads inside own

theorem attributes_reads (inside : node ∈ root.nodes) :
    Explained root node.attributes := by
  refine (Explained.composes root).mapM fun inner listed => ?_
  obtain ⟨group, among, member⟩ := List.mem_flatMap.mp listed
  have outer := mem_nodes_of_mem inside (List.mem_filter.mp among).1
  exact readAttribute_reads (mem_nodes_of_named outer (List.mem_filter.mp member).1)

theorem elementCount_reads (inside : node ∈ root.nodes) : Explained root node.elementCount := by
  unfold elementCount
  split
  · trivial
  split
  · rename_i bound found _
    exact (text_reads (mem_nodes_of_child? inside found)).map fun _ _ => trivial
  · trivial

theorem cvQualifiers_reads (inside : node ∈ root.nodes) : Explained root node.cvQualifiers := by
  refine ((Explained.composes root).mapM fun child listed => ?_).bind fun texts _ => trivial
  exact text_reads (mem_nodes_of_mem inside (List.mem_filter.mp listed).1)

theorem marksVirtual_reads (inside : node ∈ root.nodes) : Explained root node.marksVirtual := by
  unfold marksVirtual
  split
  · trivial
  refine ((Explained.composes root).anyM fun child listed => ?_).bind fun marked _ => trivial
  split
  · trivial
  split
  · trivial
  · exact (text_reads (mem_nodes_of_mem inside listed)).bind fun text _ => trivial

theorem hasStorageClass_reads (inside : node ∈ root.nodes) (storage : CodeText) :
    Explained root (node.hasStorageClass storage) := by
  refine (Explained.composes root).anyM fun child listed => ?_
  split
  · exact (text_reads (mem_nodes_of_mem inside listed)).bind fun text _ => trivial
  · trivial

end SyntaxNode

/-! ## Declarators and functions -/

section

open SyntaxNode

variable {root node : SyntaxNode}

theorem textAroundName_reads {declarator : Option SyntaxNode}
    (inside : ∀ node, declarator = some node → node ∈ root.nodes) (name : Option SyntaxNode) :
    Explained root (textAroundName declarator name) := by
  unfold textAroundName
  split
  · trivial
  split
  · rename_i broken
    exact ⟨_, inside _ rfl, broken⟩
  · trivial

theorem FunctionTraits.addSpecifier_reads (inside : node ∈ root.nodes) (isMethod : Bool)
    (flags : FunctionTraits) : Explained root (addSpecifier isMethod flags node) := by
  unfold addSpecifier
  split
  · trivial
  split
  · trivial
  refine (text_reads inside).bind fun text _ => ?_
  repeat' split
  all_goals trivial

theorem FunctionTraits.addQualifier_reads (inside : node ∈ root.nodes) (flags : FunctionTraits) :
    Explained root (addQualifier flags node) := by
  refine (text_reads inside).bind fun text _ => ?_
  dsimp only
  repeat' split
  all_goals trivial

theorem FunctionTraits.written_reads {declaration function : SyntaxNode}
    (outside : declaration ∈ root.nodes) (inside : function ∈ root.nodes) (isMethod : Bool) :
    Explained root (written isMethod declaration function) := by
  have specifiers : Explained root (declaration.children.foldlM (addSpecifier isMethod) {}) :=
    (Explained.composes root).foldlM (fun child listed flags =>
      addSpecifier_reads (mem_nodes_of_mem outside listed) isMethod flags) {}
  refine specifiers.bind fun flags _ =>
    (Explained.composes root).foldlM (fun child listed flags => ?_) flags
  exact addQualifier_reads (mem_nodes_of_mem inside listed) flags

theorem declaredName_reads (inside : node ∈ root.nodes) : Explained root (declaredName node) := by
  unfold declaredName
  split
  · exact (text_reads inside).bind fun text _ => trivial
  · exact (text_reads inside).bind fun text _ => trivial

theorem SessionPart.bitfieldWidth_reads (inside : node ∈ root.nodes) :
    Explained root (bitfieldWidth node) := by
  unfold bitfieldWidth
  split
  · rename_i width found
    have listed := List.mem_of_getLast? found
    exact (text_reads (mem_nodes_of_named inside listed)).map fun _ _ => trivial
  · trivial

end

end TypeCatalog
