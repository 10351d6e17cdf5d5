import TypeCatalog.Proofs.SecureReading
import TypeCatalog.Proofs.YieldedRecords
import TypeCatalog.Syntax.Source

/-!
# Trees are read to their end

The items of a tree are read one after the other against one table of types,
which stays sound from tree to tree.  In a tree without broken nodes only a
minus sign before a node of the kind `integer` can stop that.
-/

namespace TypeCatalog

open Text (CodeText)
open SyntaxNode

/-! ## Items of a tree -/

def SyntaxNode.HoldsBroken (root : SyntaxNode) : Prop :=
  ∃ node ∈ root.nodes, node.IsBroken

instance (node : SyntaxNode) : Decidable node.IsBroken :=
  inferInstanceAs (Decidable (node.data.bytes = none))

instance (root : SyntaxNode) : Decidable root.HoldsBroken :=
  inferInstanceAs (Decidable (∃ node ∈ root.nodes, node.IsBroken))

/-- An item of a tree.  A fault takes its place only if a node of the tree is broken. -/
def ItemWithin (root : SyntaxNode) : Except ReadFault Item → Prop
  | .ok item => item.node ∈ root.nodes
  | .error _ => root.HoldsBroken

section

variable {root child : SyntaxNode} {fault : ReadFault}

theorem Item.innerScope_broken {scope : List CodeText} (inside : child ∈ root.nodes)
    (failed : innerScope scope child = .error fault) : root.HoldsBroken := by
  unfold innerScope at failed
  split at failed
  · cases failed
  · rename_i name found
    rcases text_eq : name.text with cause | text <;> rw [text_eq] at failed
    · exact ⟨name, mem_nodes_of_child? inside found, isBroken_of_text text_eq⟩
    · cases failed

theorem Item.innerLinkage_broken {externC : Bool} (inside : child ∈ root.nodes)
    (failed : innerLinkage externC child = .error fault) : root.HoldsBroken := by
  unfold innerLinkage at failed
  split at failed
  · cases failed
  rcases found : child.child? "value" with _ | value <;> rw [found] at failed
  · cases failed
  rw [textOf] at failed
  rcases text_eq : value.text with cause | text <;> rw [text_eq] at failed
  · exact ⟨value, mem_nodes_of_child? inside found, isBroken_of_text text_eq⟩
  · cases failed

end

theorem Item.all_within {root container : SyntaxNode} (inside : container ∈ root.nodes)
    (scope : List CodeText) (externC : Bool) :
    ∀ entry ∈ Item.all scope externC container, ItemWithin root entry := by
  intro entry listed
  rw [Item.all] at listed
  simp only [List.flatMap_subtype, List.unattach_attach] at listed
  obtain ⟨child, among, listed⟩ := List.mem_flatMap.mp listed
  have below := mem_nodes_of_items inside among
  have smaller := sizeOf_items_lt among
  split at listed
  · split at listed
    · rename_i failed
      rw [List.mem_singleton.mp listed]
      exact innerScope_broken below failed
    split at listed
    · rename_i body found
      have shorter := sizeOf_child?_lt found
      exact Item.all_within (mem_nodes_of_child? below found) _ _ entry listed
    · cases listed
  split at listed
  · split at listed
    · rename_i failed
      rw [List.mem_singleton.mp listed]
      exact innerLinkage_broken below failed
    split at listed
    · rename_i body found
      have shorter := sizeOf_child?_lt found
      split at listed
      · exact Item.all_within (mem_nodes_of_child? below found) _ _ entry listed
      · rw [List.mem_singleton.mp listed]
        exact mem_nodes_of_child? below found
    · cases listed
  split at listed
  · exact Item.all_within below _ _ entry listed
  · rw [List.mem_singleton.mp listed]
    exact below
termination_by sizeOf container
decreasing_by all_goals omega

/-! ## Faults of items -/

def ItemFault.IsExplained (root : SyntaxNode) : ItemFault → Prop
  | container _ => root.HoldsBroken
  | item _ _ fault => root.Explains fault
  | layout _ => False

def ItemComesTo (file : CodeText) (types : KnownTypes) (entry : Except ReadFault Item)
    (result : Except ItemFault Group) (after : KnownTypes) : Prop :=
  ∀ reports, ∃ later,
    Session.readItem ⟨file, types, reports⟩ entry = (result, ⟨file, after, later⟩)

inductive ItemsRead (file : CodeText) : KnownTypes → List (Except ReadFault Item) → List Group →
    Option ItemFault → KnownTypes → Prop
  | done {types : KnownTypes} : ItemsRead file types [] [] none types
  | fails {types after : KnownTypes} {entry : Except ReadFault Item}
      {rest : List (Except ReadFault Item)} {fault : ItemFault}
      (read : ItemComesTo file types entry (.error fault) after) :
      ItemsRead file types (entry :: rest) [] (some fault) after
  | yields {types middle after : KnownTypes} {entry : Except ReadFault Item}
      {rest : List (Except ReadFault Item)} {group : Group} {groups : List Group}
      {fault : Option ItemFault} (read : ItemComesTo file types entry (.ok group) middle)
      (later : ItemsRead file middle rest groups fault after) :
      ItemsRead file types (entry :: rest) (if group.isEmpty then groups else group :: groups)
        fault after

variable {file : CodeText} {types after : KnownTypes} {root : SyntaxNode}

theorem readItem_comesTo (sound : types.IsSound) {entry : Except ReadFault Item}
    (within : ItemWithin root entry) : ∃ result after, ItemComesTo file types entry result after ∧
      (∀ fault, result = .error fault → fault.IsExplained root) ∧ after.IsSound := by
  rcases entry with cause | item
  · refine ⟨.error (.container cause), types, fun reports => ⟨reports, rfl⟩, ?_, sound⟩
    rintro fault ⟨⟩
    exact within
  · obtain ⟨result, after, outcome, kept, ran⟩ := SessionPart.group_safe within file types sound
    match result, outcome with
    | .ok group, _ =>
        refine ⟨.ok group, after, fun reports => ?_, by rintro _ ⟨⟩, kept⟩
        obtain ⟨later, eq⟩ := ran reports
        exact ⟨later, by simp only [Session.readItem, eq, Except.mapError]⟩
    | .error (.node cause), explained =>
        refine ⟨.error (.item item.node.kind ⟨file, item.node.line⟩ cause), after, fun reports => ?_,
          ?_, kept⟩
        · obtain ⟨later, eq⟩ := ran reports
          exact ⟨later, by simp only [Session.readItem, eq, Except.mapError]⟩
        · rintro fault ⟨⟩
          exact explained

theorem readItems_read {items : List (Except ReadFault Item)}
    (within : ∀ entry ∈ items, ItemWithin root entry) (sound : types.IsSound) :
    ∃ groups fault after, ItemsRead file types items groups fault after ∧
      (∀ found, fault = some found → found.IsExplained root) ∧ after.IsSound := by
  induction items generalizing types with
  | nil => exact ⟨[], none, types, .done, fun _ found => (by cases found), sound⟩
  | cons entry rest ih =>
      obtain ⟨first, others⟩ := List.forall_mem_cons.mp within
      obtain ⟨result, middle, read, explained, kept⟩ := @readItem_comesTo file types root sound entry first
      cases result with
      | error fault =>
          refine ⟨[], some fault, middle, .fails read, ?_, kept⟩
          rintro _ ⟨⟩
          exact explained fault rfl
      | ok group =>
          obtain ⟨groups, fault, after, later, explained, kept⟩ := ih others kept
          exact ⟨_, fault, after, .yields read later, explained, kept⟩

theorem ItemsRead.readItems_eq {items : List (Except ReadFault Item)} {groups : List Group}
    {fault : Option ItemFault} (read : ItemsRead file types items groups fault after)
    (reports : Array Diagnostic) : ∃ later, Session.readItems ⟨file, types, reports⟩ items =
      (groups, fault, ⟨file, after, later⟩) := by
  induction read generalizing reports with
  | done => exact ⟨reports, rfl⟩
  | fails read =>
      obtain ⟨later, eq⟩ := read reports
      exact ⟨later, by rw [Session.readItems, eq]⟩
  | yields read _ ih =>
      obtain ⟨middle, eq⟩ := read reports
      obtain ⟨later, rest_eq⟩ := ih middle
      exact ⟨later, by rw [Session.readItems, eq]; simp only [rest_eq]⟩

theorem extract_read (file : CodeText) (sound : types.IsSound) (tree : SyntaxNode) :
    ItemsRead file types (Item.all [] false tree) (extract file types tree).groups
        (extract file types tree).fault (extract file types tree).types ∧
      (∀ fault, (extract file types tree).fault = some fault → fault.IsExplained tree) ∧
      (extract file types tree).types.IsSound := by
  obtain ⟨groups, fault, after, read, explained, kept⟩ :=
    @readItems_read file types tree _ (Item.all_within tree.self_mem_nodes [] false) sound
  obtain ⟨later, eq⟩ := read.readItems_eq #[]
  simp only [extract, eq]
  exact ⟨read, explained, kept⟩

/-! ## Runs over trees -/

def typesAfter (types : KnownTypes) (sources : List (CodeText × SyntaxNode)) : KnownTypes :=
  sources.foldl (fun types source => (extract source.1 types source.2).types) types

theorem typesAfter_sound {types : KnownTypes} (sound : types.IsSound)
    (sources : List (CodeText × SyntaxNode)) : (typesAfter types sources).IsSound := by
  induction sources generalizing types with
  | nil => exact sound
  | cons source rest ih => exact ih (extract_read source.1 sound source.2).2.2

theorem KnownTypes.IsSound.empty {model : DataModel} (listed : model ∈ DataModel.all) :
    ({ model } : KnownTypes).IsSound :=
  ⟨listed, fun _ held => nomatch held⟩

theorem ItemFault.IsExplained.of_whole {root : SyntaxNode} {fault : ItemFault}
    (explained : fault.IsExplained root) (whole : ¬ root.HoldsBroken) :
    (∃ node ∈ root.nodes, node.NegatesInteger) ∧
      ∃ kind place, fault = .item kind place .negatedText := by
  match fault, explained with
  | .container _, broken => exact absurd broken whole
  | .item _ _ .brokenNode, broken => exact absurd broken whole
  | .item kind place .negatedText, negated => exact ⟨negated, kind, place, rfl⟩

/-- Whatever was read before, the known alignments of the table are powers of two up to 16 and
its records have at least one byte.  The next tree is read to its end, unless a node of it is
broken or a minus sign stands before a node of the kind `integer`; members can always be placed. -/
theorem extraction_ends {model : DataModel} (listed : model ∈ DataModel.all)
    (sources : List (CodeText × SyntaxNode)) (file : CodeText) (tree : SyntaxNode) :
    (∀ pair ∈ (typesAfter { model } sources).entries,
      (∀ align, pair.2.layout.align = some align →
        ∃ exponent : Nat, exponent ≤ 4 ∧ align = 2 ^ exponent) ∧
      (pair.2.kind = .record → ∀ size, pair.2.layout.size = some size → 1 ≤ size)) ∧
    (∀ fault, (extract file (typesAfter { model } sources) tree).fault ≠ some (.layout fault)) ∧
    (¬ tree.HoldsBroken →
      (extract file (typesAfter { model } sources) tree).fault = none ∨
        (∃ node ∈ tree.nodes, node.NegatesInteger) ∧
          ∃ kind place, (extract file (typesAfter { model } sources) tree).fault =
            some (.item kind place .negatedText)) := by
  have sound := typesAfter_sound (.empty listed) sources
  obtain ⟨-, explained, -⟩ := extract_read file sound tree
  refine ⟨fun pair held => ?_, fun fault same => explained _ same, fun whole => ?_⟩
  · exact ⟨(sound.entries pair held).aligned, (sound.entries pair held).sized⟩
  rcases fault_eq : (extract file (typesAfter { model } sources) tree).fault with _ | fault
  · exact .inl rfl
  · obtain ⟨negated, kind, place, rfl⟩ := (explained fault fault_eq).of_whole whole
    exact .inr ⟨negated, kind, place, rfl⟩

section

open SessionPart

def negatedNumber : SyntaxNode :=
  .mk { kind := "unary_expression", named := true }
    [.mk { kind := "-", field := "operator", bytes := some [45] } [],
      letterNode "integer" "argument" 57]

/-- `struct [[t(-9)]] B {};` -/
def negatedRecord : SyntaxNode :=
  .mk { kind := "struct_specifier", named := true }
    [.mk { kind := "attribute_declaration", named := true }
      [.mk { kind := "attribute", named := true }
        [letterNode "identifier" "name" 116,
          .mk { kind := "argument_list", named := true } [negatedNumber]]],
      letterNode "type_identifier" "name" 66,
      .mk { kind := "field_declaration_list", field := "body", named := true } []]

def negatedFile : SyntaxNode :=
  .mk { kind := "translation_unit" } [negatedRecord]

theorem literal_unary {node inner : SyntaxNode} (kind : node.kind = "unary_expression")
    (found : node.child? "argument" = some inner) :
    node.literal = (do
      let operator ← textOf (node.child? "operator")
      if operator == "-" || operator == "+" then
        let value ← inner.literal
        if value.kind == "integer" then signedLiteral (operator == "-") value.value
        else node.otherLiteral
      else node.otherLiteral) := by
  rw [literal, kind]
  refine bind_congr fun operator => ?_
  split
  · rename_i missing
    cases found.symm.trans missing
  · rename_i same
    cases found.symm.trans same
    rfl

theorem negatedNumber_literal : negatedNumber.literal = .error .negatedText := by
  have inner : (letterNode "integer" "argument" 57).literal = .ok ⟨"integer", .text "9"⟩ := by
    rw [literal]
    decide +kernel
  rw [@literal_unary negatedNumber (letterNode "integer" "argument" 57) rfl rfl, inner]
  decide +kernel

theorem negatedRecord_attributes : negatedRecord.attributes = .error .negatedText := by
  have arguments : [negatedNumber].mapM literal = .error .negatedText := by
    rw [List.mapM_cons, negatedNumber_literal]
    rfl
  have single : readAttribute (.mk { kind := "attribute", named := true }
      [letterNode "identifier" "name" 116,
        .mk { kind := "argument_list", named := true } [negatedNumber]]) =
      .error .negatedText := by
    change (do
      let arguments ← [negatedNumber].mapM literal
      return ⟨Name.normalize "t", arguments⟩ : Except ReadFault Attribute) = _
    rw [arguments]
    rfl
  change [_].mapM readAttribute = _
  rw [List.mapM_cons, single]
  rfl

/-- A minus sign before a number that calls itself an integer stops the reading of a tree in
which no node is broken. -/
theorem negatedFile_stops :
    ¬ negatedFile.HoldsBroken ∧ (extract "t.h" { model := .lp64 } negatedFile).groups = [] ∧
      (extract "t.h" { model := .lp64 } negatedFile).fault =
        some (.item "struct_specifier" ⟨"t.h", 1⟩ .negatedText) := by
  have items_eq : Item.all [] false negatedFile = [.ok { node := negatedRecord }] := by
    rw [Item.all]
    rfl
  have head_eq (session : Session) : (recordHead [] none negatedRecord).run session =
      (.error (.node .negatedText), session) := by
    unfold recordHead
    rw [negatedRecord_attributes]
    rfl
  have group_eq (session : Session) : (group { node := negatedRecord }).run session =
      (.error (.node .negatedText), session) := by
    rw [group]
    change (readRecord [] none negatedRecord >>= _).run session = _
    rw [@readRecord_eq [] none negatedRecord _ rfl, run_bind, run_bind, head_eq]
  refine ⟨by decide +kernel, ?_⟩
  rw [extract, items_eq]
  simp only [Session.readItems, Session.readItem, group_eq]
  exact ⟨rfl, rfl⟩

/-- `struct C { int x : 3; };` -/
def bitfieldFile : SyntaxNode :=
  .mk { kind := "translation_unit" } [bodyNode "" 67
    [.mk { kind := "field_declaration", named := true }
      [.mk { kind := "primitive_type", field := "type", named := true,
             bytes := some [105, 110, 116] } [],
        letterNode "field_identifier" "declarator" 120,
        .mk { kind := "bitfield_clause", named := true } [letterNode "number_literal" "" 51]]]]

theorem bitfieldFile_read :
    DataModel.ilp32 ∈ DataModel.all ∧ ¬ bitfieldFile.HoldsBroken ∧
      (extract "c.h" (typesAfter { model := .ilp32 } [("t.h", negatedFile), ("c.h", bitfieldFile)])
        bitfieldFile).fault = none := by
  have whole : ¬ bitfieldFile.HoldsBroken := by decide +kernel
  have unsigned : ∀ node ∈ bitfieldFile.nodes, node.kind ≠ "unary_expression" := by decide +kernel
  have listed : DataModel.ilp32 ∈ DataModel.all := by decide
  refine ⟨listed, whole, ?_⟩
  obtain ⟨-, -, ends⟩ := extraction_ends listed [("t.h", negatedFile), ("c.h", bitfieldFile)] "c.h"
    bitfieldFile
  rcases ends whole with ended | ⟨⟨node, inside, kind, -⟩, -⟩
  · exact ended
  · exact absurd kind (unsigned node inside)

end

end TypeCatalog
