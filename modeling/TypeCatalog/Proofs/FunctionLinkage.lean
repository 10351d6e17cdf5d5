import TypeCatalog.Proofs.GroupedRecords
import TypeCatalog.Proofs.Synonyms

/-!
# The linkage of functions

Every free function of a file is declared by a declarator of the tree, and no
two by one.  A linkage specification that names C holds for all that is inside
it, also inside further specifications that name another language.  So a
function has C linkage exactly if one of the linkage specifications around its
declarator names C.
-/

namespace TypeCatalog

open Text (CodeText)

/-! ## Functions at addresses -/

/-- A function that the declarator at a site declares.  The chain of declarators ends at its name,
and the derivation nearest to the name is a function. -/
structure Site.DeclaresFunction (site : Site) (function : Function) : Prop where
  role : function.role = .function
  declared : ∃ pointer name chain written,
    ({ layout := .unresolved } : DeclaratorChain).follow pointer site.node =
        .ok (some name, chain) ∧ chain.function.isSome = true ∧
      declaredName name = .ok written ∧ function.location.line = name.line ∧
      function.name = some (Name.qualify site.scope written)

/-- A function that is declared at an address.  It has C linkage if one of the linkage
specifications around its declarator names C. -/
def FunctionAt (top : Site) (address : Address) (function : Function) : Prop :=
  (∃ site, top.at? address = some site ∧ site.DeclaresFunction function) ∧
    function.flags.externC = (top.linkages address).any SyntaxNode.namesC

def FunctionsAt (top : Site) (outer : List Address) (functions : List Function) : Prop :=
  Address.Spread (FunctionAt top) Address.Apart outer functions

/-- An item at an address that has C linkage if one of the linkage specifications around it
names C. -/
def Item.LinkedBy (top : Site) (address : Address) (item : Item) : Prop :=
  top.at? address = some item.site ∧
    item.externC = (top.linkages address).any SyntaxNode.namesC

def Group.functions (group : Group) : List Function :=
  group.filterMap fun
    | .function declaration => some declaration
    | _ => none

theorem Group.functions_append (first second : Group) :
    functions (first ++ second) = functions first ++ functions second :=
  List.filterMap_append

@[simp] theorem Group.functions_map (functions : List Function) :
    Group.functions (functions.map .function) = functions := by
  simp [Group.functions, List.filterMap_map]

@[simp] theorem Group.functions_records (records : List Record) :
    Group.functions (records.map .record) = [] := by
  simp [Group.functions, List.filterMap_map]

/-! ## Reading functions -/

structure Function.IsReadFrom (function : Function) (item : Item) (name : SyntaxNode) : Prop where
  role : function.role = .function
  externC : function.flags.externC = item.externC
  line : function.location.line = name.line
  named : ∃ written, declaredName name = .ok written ∧
    function.name = some (Name.qualify item.scope written)

namespace SessionPart

theorem freeFunction_gives (item : Item) (functionNode name : SyntaxNode)
    (attributes : List Attribute) :
    Gives (function item.node functionNode name item.scope none item.externC attributes)
      fun declared => ∀ function ∈ declared, function.IsReadFrom item name := by
  unfold function
  refine Gives.bind (.reading _) fun written written_eq => ?_
  -- the part after the check for a member, which is reached in two ways
  lift_lets
  extract_lets _ isOperator isConversion role rest
  have reads : Gives (rest ()) fun declared => ∀ function ∈ declared,
      function.IsReadFrom item name := by
    refine Gives.after fun traits => Gives.after fun own => Gives.after fun further => ?_
    refine Gives.after fun list => Gives.bind (location_gives name) fun place line => .pure ?_
    rintro function ⟨⟩
    exact ⟨rfl, rfl, line, written, written_eq, rfl⟩
  split
  · refine Gives.after fun known => ?_
    split
    · exact .after fun _ => .pure (by simp)
    · exact reads
  · exact reads

theorem declaredFunction_gives (item : Item) (node : SyntaxNode) :
    Gives (declaredFunction item (some node)) fun declared => ∀ function ∈ declared,
      (item.site.inside node).DeclaresFunction function ∧
        function.flags.externC = item.externC := by
  refine Gives.bind (declarator_follows node .unresolved) fun info ends => ?_
  obtain ⟨pointer, chain, followed, function_eq, -⟩ := ends
  split
  · rename_i functionNode name held name_eq
    refine (freeFunction_gives item functionNode name info.attributes).mono
      fun declared read function among => ?_
    obtain ⟨role, externC, line, written, written_eq, named⟩ := read function among
    refine ⟨⟨role, pointer, name, chain, written, name_eq ▸ followed, ?_, written_eq, line, ?_⟩,
      externC⟩
    · rw [← function_eq, held, Option.isSome_some]
    · exact named.trans (congrArg (some <| Name.qualify · written) item.scope_site.symm)
  · split
    · exact .after fun _ => .pure (by simp)
    · exact .pure (by simp)

theorem declaredFunction_missing (item : Item) :
    Gives (declaredFunction item none) fun declared => declared = none := by
  have nothing : Gives (declarator none .unresolved) fun info => info.name = none := by
    unfold declarator
    refine Gives.after fun table => ?_
    dsimp only
    rw [pure_bind]
    exact .after fun suffix => .pure rfl
  refine Gives.bind nothing fun info unnamed => ?_
  split
  · rename_i name_eq
    cases unnamed.symm.trans name_eq
  · split
    · exact .after fun _ => .pure rfl
    · exact .pure rfl

theorem Gives.filterMapM_spread {α β : Type} {found : Address → α → Prop}
    {holds : Address → β → Prop} {outer : List Address} {items : List α}
    {read : α → SessionPart (Option β)} (listed : Address.Spread found Address.Apart outer items)
    (each : ∀ item address, found address item →
      Gives (read item) fun result => ∀ value ∈ result, holds address value) :
    Gives (items.filterMapM read) (Address.Spread holds Address.Apart outer) := by
  obtain ⟨addresses, placed, apart, below⟩ := listed
  suffices gives : Gives (items.filterMapM read) (Address.Spread holds Address.Apart addresses) from
    gives.mono fun _ spread => spread.weaken below
  clear below
  induction placed with
  | nil => exact .pure (.nil _)
  | @cons address item addresses items at_item _ ih =>
    obtain ⟨first, others⟩ := List.pairwise_cons.mp apart
    rw [List.filterMapM_cons]
    refine Gives.bind (each item address at_item) fun result held => ?_
    rcases result with _ | value
    · exact (ih others).mono fun _ spread => spread.weaken fun inner mem =>
        ⟨inner, List.mem_cons_of_mem _ mem, List.prefix_rfl⟩
    · refine Gives.bind (ih others) fun values spread => .pure ?_
      refine (Address.Spread.single (held value rfl)).append spread ?_
      intro head same other mem inner second through leads
      obtain rfl := List.mem_singleton.mp same
      exact (first other mem).below through leads

theorem leadingType_functions (item : Item) :
    Gives (leadingType item) fun group => group.functions = [] := by
  rw [leadingType]
  split
  · exact .pure rfl
  split
  · split
    · exact .after fun built => .pure (Group.functions_records _)
    · exact .pure rfl
  split
  · exact .after fun _ => .pure rfl
  · exact .pure rfl

section

variable {top : Site} {address : Address} {item : Item}

theorem declarator_linked (linked : item.LinkedBy top address) (plain : item.site.ownLinkage = [])
    {inner : Address} {node : SyntaxNode} (at_node : top.at? inner = some (item.site.inside node))
    (around : top.linkages inner = top.linkages address ++ item.site.ownLinkage) :
    Gives (declaredFunction item (some node)) fun declared =>
      ∀ function ∈ declared, FunctionAt top inner function := by
  refine (declaredFunction_gives item node).mono fun declared declares function among => ?_
  obtain ⟨declares, externC⟩ := declares function among
  refine ⟨⟨_, at_node, declares⟩, ?_⟩
  rw [externC, linked.2, around, plain, List.append_nil]

theorem declaration_functions (linked : item.LinkedBy top address)
    (kind : item.node.kind = "declaration") :
    Gives (declaration item) fun group => FunctionsAt top [address] group.functions := by
  have kind : item.site.node.isKind ["declaration"] = true := by simp [SyntaxNode.isKind, kind]
  have plain := Site.ownLinkage_of_kind ["declaration"] kind (by decide)
  have declarators := (Site.linkedChildrenAt linked.1
    (.of_kind ["declaration"] kind (by decide))).filter (·.data.field == "declarator")
  refine Gives.bind (leadingType_functions item) fun leading none_leading => ?_
  refine Gives.bind (Gives.filterMapM_spread declarators fun node inner ⟨at_node, around⟩ =>
    declarator_linked linked plain at_node around) fun functions spread => .pure ?_
  rwa [Group.functions_append, none_leading, Group.functions_map, List.nil_append]

theorem definition_functions (linked : item.LinkedBy top address)
    (kind : item.node.kind = "function_definition") :
    Gives (declaredFunction item (item.node.child? "declarator")) fun declared =>
      FunctionsAt top [address] declared.toList := by
  rcases found : item.node.child? "declarator" with _ | node
  · refine (declaredFunction_missing item).mono fun declared missing => ?_
    rw [missing]
    exact .nil _
  have kind : item.site.node.isKind ["function_definition"] = true := by
    simp [SyntaxNode.isKind, kind]
  have plain := Site.ownLinkage_of_kind ["function_definition"] kind (by decide)
  obtain ⟨index, at_node⟩ := Site.IsList.at?_of_mem
    (.of_kind ["function_definition"] kind (by decide)) linked.1 (List.mem_of_find?_eq_some found)
  refine (declarator_linked linked plain at_node
    (Site.linkages_concat linked.1 index)).mono fun declared held => ?_
  rcases declared with _ | function
  · exact .nil _
  · exact (Address.Spread.single (held function rfl)).up

theorem group_single_functions (linked : item.LinkedBy top address)
    (single : item.node.kind ≠ "template_declaration") :
    Gives (group item) fun group => FunctionsAt top [address] group.functions := by
  have nothing (records : List Record) :
      FunctionsAt top [address] (Group.functions (records.map .record)) := by
    rw [Group.functions_records]
    exact .nil _
  rw [group, if_neg (by simpa using single)]
  split
  · exact .after fun built => .pure (nothing _)
  split
  · exact .after fun _ => .pure (.nil _)
  split
  · rename_i kind
    refine Gives.bind (definition_functions linked (beq_iff_eq.mp kind)) fun declared spread =>
      .pure ?_
    rwa [Group.functions_map]
  split
  · rename_i kind
    exact declaration_functions linked (beq_iff_eq.mp kind)
  split
  · exact .after fun records => .pure (nothing records)
  split
  · exact .after fun _ => .pure (.nil _)
  · exact .pure (.nil _)

end

/-- The functions of an item are those of the declaration inside its templates. -/
theorem group_functions {top : Site} {address : Address} (item : Item)
    (linked : item.LinkedBy top address) :
    Gives (group item) fun group => FunctionsAt top [address] group.functions := by
  refine @group_spread _ (fun address item => item.LinkedBy top address) _ _ Group.functions rfl
    (fun item address inner linked kind listed => ?_)
    (fun item address linked single => group_single_functions linked single) item address linked
  have plain := @Site.ownLinkage_of_kind item.site ["template_declaration"]
    (by simp [SyntaxNode.isKind, kind]) (by decide)
  obtain ⟨index, at_inner⟩ := (isList_of_template kind).at?_of_mem linked.1 listed
  refine ⟨index, at_inner, ?_⟩
  rw [Site.linkages_concat linked.1, plain, List.append_nil]
  exact linked.2

end SessionPart

/-! ## The functions of a file -/

/-- Every free function of a file is declared by a declarator of the tree, no two of them by one.
It has C linkage if and only if one of the linkage specifications around that declarator names C,
however deep and in whatever namespaces it stands. -/
theorem extract_functions_linked (file : CodeText) (types : KnownTypes) (tree : SyntaxNode) :
    let top : Site := { node := tree, isBody := true }
    ∃ addresses : List Address,
      List.Forall₂ (fun address function =>
          (∃ site, top.at? address = some site ∧ site.DeclaresFunction function) ∧
            (function.flags.externC = true ↔
              ∃ specification ∈ top.linkages address, specification.namesC = true))
        addresses ((extract file types tree).groups.flatMap Group.functions) ∧
      addresses.Pairwise Address.Apart := by
  intro top
  have listed := @Item.all_linkedAt top false top [] rfl (.of_body rfl) rfl
  rw [Site.ownLinkage_of_body rfl] at listed
  have each (item : Item) (address : Address)
      (linked : Item.LinkedAt top (top.linkages [] ++ []) false address item) :
      SessionPart.Gives (SessionPart.group item) fun group =>
        FunctionsAt top [address] group.functions := by
    obtain ⟨at_eq, further, linkages_eq, externC_eq⟩ := linked
    refine SessionPart.group_functions item ⟨at_eq, ?_⟩
    simpa [Site.linkages, linkages_eq] using externC_eq
  have spread : FunctionsAt top [[]] ((extract file types tree).groups.flatMap Group.functions) :=
    Session.readItems_spread Group.functions rfl listed (fun _ _ apart => apart) each
      { file, types }
  obtain ⟨addresses, found, apart, -⟩ := spread
  refine ⟨addresses, found.imp fun address function at_function => ⟨at_function.1, ?_⟩, apart⟩
  rw [at_function.2, List.any_eq_true]

section

open SessionPart (letterNode)

def linkageNode (language : List UInt8) (inner : List SyntaxNode) : SyntaxNode :=
  .mk { kind := "linkage_specification", named := true }
    [.mk { kind := "extern" } [],
      .mk { kind := "string_literal", field := "value", named := true, bytes := some language } [],
      .mk { kind := "declaration_list", field := "body", named := true } inner]

def voidFunction : SyntaxNode :=
  .mk { kind := "declaration", named := true }
    [.mk { kind := "primitive_type", field := "type", named := true,
           bytes := some [118, 111, 105, 100] } [],
      .mk { kind := "function_declarator", field := "declarator", named := true }
        [letterNode "identifier" "declarator" 102,
          .mk { kind := "parameter_list", field := "parameters", named := true } []]]

/-- `extern "C++" ..` with the function. -/
def innerLanguage : SyntaxNode :=
  linkageNode [34, 67, 43, 43, 34] [voidFunction]

def outerLanguage : SyntaxNode :=
  linkageNode [34, 67, 34] [innerLanguage]

def languageFile : SyntaxNode :=
  .mk { kind := "translation_unit", named := true } [outerLanguage]

def languageSite : Site where
  node := .mk { kind := "function_declarator", field := "declarator", named := true }
    [letterNode "identifier" "declarator" 102,
      .mk { kind := "parameter_list", field := "parameters", named := true } []]

/-- A function in a block that names C++, inside of one that names C, has C linkage. -/
theorem innerLanguage_keeps_linkage :
    ∃ function, (extract "t.h" { model := .lp64 } languageFile).groups.flatMap Group.functions =
        [function] ∧
      Site.at? { node := languageFile, isBody := true } [0, 2, 0, 2, 0, 1] = some languageSite ∧
      languageSite.DeclaresFunction function ∧
      Site.linkages { node := languageFile, isBody := true } [0, 2, 0, 2, 0, 1] =
        [outerLanguage, innerLanguage] ∧
      outerLanguage.namesC = true ∧ innerLanguage.namesC = false ∧
      function.flags.externC = true := by
  have read : ((extract "t.h" { model := .lp64 } languageFile).groups.flatMap
      Group.functions).map (fun function => (function.role, function.flags.externC,
        function.location.line, function.name)) =
      [(.function, true, (1 : Int), some ("f" : CodeText))] := by
    decide +kernel
  obtain ⟨function, functions_eq, parts⟩ := List.map_eq_singleton_iff.mp read
  simp only [Prod.mk.injEq] at parts
  obtain ⟨role, externC, line, name⟩ := parts
  have followed : ({ layout := .unresolved } : DeclaratorChain).follow .unresolved
      languageSite.node = .ok (some (letterNode "identifier" "declarator" 102),
        { layout := .unresolved, function := some languageSite.node, derived := true }) := by
    rw [DeclaratorChain.follow]
    change DeclaratorChain.follow _ _ (letterNode "identifier" "declarator" 102) = _
    rw [DeclaratorChain.follow]
    rfl
  have declares : languageSite.DeclaresFunction function :=
    ⟨role, _, _, _, "f", followed, rfl, by decide +kernel, line, name⟩
  exact ⟨function, functions_eq, rfl, declares, rfl, by decide, by decide, externC⟩

end

end TypeCatalog
