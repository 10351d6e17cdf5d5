import TypeCatalog.Document.Reader
import TypeCatalog.Proofs.GraphComposition

/-!
# The values of a document

Objects are numbered in the order in which they are made: a list before its
items, a record after its entries.  A reference makes no object, it is the
value of its anchor.
-/

namespace TypeCatalog.Document

open Text
open Yaml

/-! ## Values of trees -/

def readValue : Document.Scalar → Yaml.Scalar
  | .null => .null
  | .bool value => .bool value
  | .int value => .int value
  | .text value => .text value

namespace Tree

mutual

def objectCount : Tree → Nat
  | scalar _ | reference _ => 0
  | emptyList => 1
  | list items => if items.isEmpty then 0 else 1 + itemObjectCount items
  | record _ entries => entryObjectCount entries + 1

def itemObjectCount : List Tree → Nat
  | [] => 0
  | tree :: rest => tree.objectCount + itemObjectCount rest

def entryObjectCount : List Entry → Nat
  | [] => 0
  | (_, tree) :: rest => tree.objectCount + entryObjectCount rest

end

section Objects

variable (targets : CodeText → Value)

def valueAt (first : ObjectId) : Tree → Value
  | scalar value => .scalar (readValue value)
  | reference anchor => targets anchor
  | emptyList => .object first
  | list items => if items.isEmpty then .scalar .null else .object first
  | record _ entries => .object (first + entryObjectCount entries)

def itemValues (first : ObjectId) : List Tree → List Value
  | [] => []
  | tree :: rest => tree.valueAt targets first :: itemValues (first + tree.objectCount) rest

def entryValues (first : ObjectId) : List Entry → List (Yaml.Scalar × Value)
  | [] => []
  | (key, tree) :: rest =>
    (.text key, tree.valueAt targets first) :: entryValues (first + tree.objectCount) rest

mutual

def objects (first : ObjectId) : Tree → List Object
  | scalar _ | reference _ => []
  | emptyList => [.list []]
  | list items =>
    if items.isEmpty then []
    else .list (itemValues targets (first + 1) items) :: itemObjects (first + 1) items
  | record kind entries =>
    entryObjects first entries ++ [.mapping (some kind.name) (entryValues targets first entries)]

def itemObjects (first : ObjectId) : List Tree → List Object
  | [] => []
  | tree :: rest => tree.objects first ++ itemObjects (first + tree.objectCount) rest

def entryObjects (first : ObjectId) : List Entry → List Object
  | [] => []
  | (_, tree) :: rest => tree.objects first ++ entryObjects (first + tree.objectCount) rest

end

mutual

theorem length_objects (first : ObjectId) (tree : Tree) :
    (tree.objects targets first).length = tree.objectCount := by
  cases tree with
  | scalar | reference | emptyList => rfl
  | list items =>
      rw [objects, objectCount]
      split
      · rfl
      · rw [List.length_cons, length_itemObjects, Nat.add_comm]
  | record kind entries =>
      rw [objects, objectCount, List.length_append, length_entryObjects]
      rfl

theorem length_itemObjects (first : ObjectId) (items : List Tree) :
    (itemObjects targets first items).length = itemObjectCount items := by
  cases items with
  | nil => rfl
  | cons tree rest =>
      rw [itemObjects, itemObjectCount, List.length_append, length_objects, length_itemObjects]

theorem length_entryObjects (first : ObjectId) (entries : List Entry) :
    (entryObjects targets first entries).length = entryObjectCount entries := by
  cases entries with
  | nil => rfl
  | cons entry rest =>
      obtain ⟨key, tree⟩ := entry
      rw [entryObjects, entryObjectCount, List.length_append, length_objects, length_entryObjects]

end

end Objects

end Tree

/-! ## Parts of arrays -/

def Standing {α : Type} (array : Array α) (first : Nat) (parts : List α) : Prop :=
  ∀ place part, parts[place]? = some part → array[first + place]? = some part

namespace Standing

variable {α : Type} {array : Array α} {first : Nat} {part : α} {parts others : List α}

theorem head (standing : Standing array first (part :: parts)) : array[first]? = some part :=
  standing 0 part rfl

theorem tail (standing : Standing array first (part :: parts)) :
    Standing array (first + 1) parts := by
  intro place other found
  rw [Nat.add_assoc, Nat.add_comm 1]
  exact standing (place + 1) other found

theorem left (standing : Standing array first (parts ++ others)) : Standing array first parts := by
  intro place other found
  obtain ⟨inside, -⟩ := List.getElem?_eq_some_iff.mp found
  exact standing place other (by rw [List.getElem?_append_left inside, found])

theorem right (standing : Standing array first (parts ++ others)) :
    Standing array (first + parts.length) others := by
  intro place other found
  rw [Nat.add_assoc]
  refine standing (parts.length + place) other ?_
  rw [List.getElem?_append_right (Nat.le_add_right _ _), Nat.add_sub_cancel_left, found]

theorem toArray (parts : List α) : Standing parts.toArray 0 parts := by
  intro place part found
  rwa [Nat.zero_add, List.getElem?_toArray]

end Standing

/-! ## Keys -/

theorem sameKey_text (other : Yaml.Scalar) (key : CodeText) :
    other.sameKey (.text key) = (other == .text key) := by
  cases other with
  | real value => cases value <;> rfl
  | _ => rfl

theorem putEntry_new {entries : List (Yaml.Scalar × Value)} {key : CodeText} (value : Value)
    (absent : .text key ∉ entries.map (·.1)) :
    putEntry entries (.text key) value = entries ++ [(.text key, value)] := by
  have none_same : entries.any (·.1.sameKey (.text key)) = false := by
    rw [List.any_eq_false]
    intro entry mem same
    rw [sameKey_text, beq_iff_eq] at same
    exact absent (List.mem_map.mpr ⟨entry, mem, same⟩)
  rw [putEntry, none_same]
  rfl

/-! ## Merging -/

theorem flatten_eq {graph : Graph} {id : NodeId}
    (texts : ∀ entry ∈ graph.entriesOf id, graph.tagOf entry.1 = StandardType.str.tag) :
    Merging.flatten id graph = .ok ((), graph) := by
  have unmerged : Merging.nextMerge? graph id 0 = none := by
    rw [Merging.nextMerge?, List.drop_zero, Option.map_eq_none_iff, List.find?_eq_none]
    intro entry mem
    rw [Merging.isMerge, texts _ (List.fst_mem_of_mem_zipIdx mem)]
    decide
  have settled : Merging.settleKeys graph id = graph := by
    rw [Merging.settleKeys]
    generalize graph.entriesOf id = entries at texts
    induction entries with
    | nil => rfl
    | cons entry rest ih =>
        rw [List.foldl_cons, texts entry (by simp)]
        exact ih fun other mem => texts other (by simp [mem])
  have unchanged (fuel : Nat) : Merging.entriesFrom (fuel + 1) id 0 [] graph = .ok ([], graph) := by
    rw [Merging.entriesFrom, bind_eq get_eq, unmerged]
    rfl
  rw [Merging.flatten, bind_eq get_eq, Merging.mapping, bind_eq (unchanged _)]
  change Except.ok ((), Merging.settleKeys graph id) = _
  rw [settled]

/-! ## Nodes -/

namespace Construct

open Yaml.Construct

variable {building : Building} {id : NodeId} {fuel : Nat} {atOnce : Bool}

theorem contentOf_eq {node : Node} (found : building.graph[id]? = some node) :
    contentOf id building = .ok (node.content, building) := by
  rw [contentOf, bind_eq get_eq, Graph.contentOf, found]
  rfl

theorem tagOf_eq {graph : Graph} {node : Node} (found : graph[id]? = some node) :
    graph.tagOf id = node.tag := by
  rw [Graph.tagOf, found]
  rfl

theorem text_eq {node : Node} {written : CodeText} (found : building.graph[id]? = some node)
    (content_eq : node.content = .scalar written) :
    text id building = .ok (written, building) := by
  have shown : building.graph.contentOf id = .scalar written := by
    rw [Graph.contentOf, found]
    exact content_eq
  rw [text, bind_eq get_eq]
  change Yaml.Construct.scalarText (building.graph.size + 1) id building = _
  rw [Yaml.Construct.scalarText, bind_eq get_eq]
  simp only [shown]
  rfl

theorem scalar_eq {value : Document.Scalar} (writable : value.written?.isSome = true)
    (found : building.graph[id]? = some (scalarNode value)) :
    Yaml.Construct.scalar (readType value) id building = .ok (readValue value, building) := by
  have read := text_eq found rfl
  cases value with
  | null => exact bind_eq read
  | bool truth =>
      refine (bind_eq read).trans ?_
      cases truth <;> rfl
  | int number =>
      have inside : Integer.isWritable number = true := by
        cases inside : Integer.isWritable number with
        | true => rfl
        | false => simp [Document.Scalar.written?, inside] at writable
      have lifted : (liftM (integerOf (readText (.int number)).1) : Construct Int) building =
          .ok (number, building) := by
        change (integerOf (.ofChars (Integer.numeral number).toList) >>=
          fun value => pure (value, building)) = _
        rw [integerOf_numeral inside]
        rfl
      exact (bind_eq read).trans (bind_eq lifted)
  | text written => exact bind_eq read

theorem once_eq {build : Construct Value} {value : Value} {objects : Array Object}
    {values : List (NodeId × Value)} {waiting : List Waiting}
    (unbuilt : building.values.lookup id = none) (idle : id ∉ building.active)
    (inside : build { building with active := id :: building.active } =
      .ok (value, { building with active := id :: building.active, objects, values, waiting })) :
    once id build building =
      .ok (value, { building with objects, values := (id, value) :: values, waiting }) := by
  have free : building.active.contains id = false := by simpa using idle
  rw [once, bind_eq get_eq]
  simp only [unbuilt, free, Bool.false_eq_true, ↓reduceIte]
  rw [bind_eq set_eq, bind_eq inside]
  change Except.ok (value, { building with
    objects, values := (id, value) :: values, active := (id :: building.active).erase id, waiting }) = _
  rw [List.erase_cons_head]

theorem once_built {build : Construct Value} {value : Value}
    (built : building.values.lookup id = some value) :
    once id build building = .ok (value, building) := by
  rw [once, bind_eq get_eq]
  simp only [built]
  rfl

theorem addObject_eq (object : Object) :
    addObject object building =
      .ok (building.objects.size, { building with objects := building.objects.push object }) :=
  rfl

theorem items_eq {build : NodeId → Construct Value} {tag : String} {ids : List NodeId}
    {items : List Value} {after : Building}
    (found : building.graph[id]? = some ⟨tag, .sequence ids⟩)
    (inside : ids.mapM build building = .ok (items, after)) :
    Yaml.Construct.items build id building = .ok (items, after) := by
  rw [Yaml.Construct.items, bind_eq (contentOf_eq found)]
  exact inside

def addEntry (build : NodeId → Construct Value) (done : List (Yaml.Scalar × Value))
    (entry : NodeEntry) : Construct (List (Yaml.Scalar × Value)) := do
  let key ← key (← build entry.1)
  let value ← build entry.2
  return putEntry done key value

theorem addEntry_eq {build : NodeId → Construct Value} {done : List (Yaml.Scalar × Value)}
    {entry : NodeEntry} {key : CodeText} {value : Value} {middle after : Building}
    (absent : .text key ∉ done.map (·.1))
    (key_eq : build entry.1 building = .ok (.scalar (.text key), middle))
    (value_eq : build entry.2 middle = .ok (value, after)) :
    addEntry build done entry building = .ok (done ++ [(.text key, value)], after) := by
  have key_read : Yaml.Construct.key (.scalar (.text key)) middle = .ok (.text key, middle) := rfl
  rw [addEntry, bind_eq key_eq, bind_eq key_read, bind_eq value_eq, putEntry_new value absent]
  rfl

theorem mappingEntries_eq {build : NodeId → Construct Value} {tag : String}
    {entries : List NodeEntry} {read : List (Yaml.Scalar × Value)} {after : Building}
    (found : building.graph[id]? = some ⟨tag, .mapping entries⟩)
    (texts : ∀ entry ∈ entries, building.graph.tagOf entry.1 = StandardType.str.tag)
    (inside : entries.foldlM (addEntry build) [] building = .ok (read, after)) :
    mappingEntries build id building = .ok (read, after) := by
  have entries_eq : building.graph.entriesOf id = entries := by
    rw [Graph.entriesOf, Graph.contentOf, found]
    rfl
  have flat : flatEntries id building = .ok (entries, building) := by
    have flattened := @flatten_eq building.graph id (by rwa [entries_eq])
    have lifted : (liftM ((Merging.flatten id).run building.graph) : Construct (Unit × Graph))
        building = .ok (((), building.graph), building) := by
      change (Merging.flatten id building.graph >>= fun result => pure (result, building)) = _
      rw [flattened]
      rfl
    rw [flatEntries, bind_eq get_eq]
    refine (bind_eq lifted).trans ?_
    change Except.ok (building.graph.entriesOf id, building) = _
    rw [entries_eq]
  rw [mappingEntries, bind_eq (contentOf_eq found)]
  refine (bind_eq flat).trans ?_
  exact inside

theorem record_eq {build : NodeId → Construct Value} {tag kind : String}
    {entries : List NodeEntry} {read : List (Yaml.Scalar × Value)} {after : Building}
    (found : building.graph[id]? = some ⟨tag, .mapping entries⟩)
    (texts : ∀ entry ∈ entries, building.graph.tagOf entry.1 = StandardType.str.tag)
    (inside : entries.foldlM (addEntry build) [] building = .ok (read, after)) :
    record build kind id building =
      .ok (.object after.objects.size,
        { after with objects := after.objects.push (.mapping (some kind) read) }) := by
  rw [record, bind_eq (contentOf_eq found)]
  refine (bind_eq (mappingEntries_eq found texts inside)).trans ?_
  exact bind_eq (addObject_eq _)

theorem record_empty {build : NodeId → Construct Value} {tag kind : String}
    (found : building.graph[id]? = some ⟨tag, .scalar []⟩) :
    record build kind id building =
      .ok (.object building.objects.size,
        { building with objects := building.objects.push (.mapping (some kind) []) }) := by
  rw [record, bind_eq (contentOf_eq found)]
  exact bind_eq (addObject_eq _)

abbrev mark : RecordMark :=
  some tagStart

theorem value_built {value : Value} (built : building.values.lookup id = some value) :
    Yaml.Construct.value mark (fuel + 1) atOnce id building = .ok (value, building) :=
  once_built built

theorem value_scalar {value : Document.Scalar} (writable : value.written?.isSome = true)
    (found : building.graph[id]? = some (scalarNode value))
    (unbuilt : building.values.lookup id = none) (idle : id ∉ building.active) :
    Yaml.Construct.value mark (fuel + 1) atOnce id building =
      .ok (.scalar (readValue value),
        { building with values := (id, .scalar (readValue value)) :: building.values }) := by
  refine once_eq unbuilt idle ?_
  have type_eq : StandardType.ofTag? (readType value).tag = some (readType value) := by
    cases value <;> rfl
  have collection_eq : CollectionType.of? (readType value) = none := by
    cases value <;> rfl
  rw [bind_eq get_eq]
  simp only [tagOf_eq found, scalarNode, type_eq, collection_eq]
  exact bind_eq (scalar_eq writable found)

theorem value_null (found : building.graph[id]? = some ⟨StandardType.null.tag, .scalar []⟩)
    (unbuilt : building.values.lookup id = none) (idle : id ∉ building.active) :
    Yaml.Construct.value mark (fuel + 1) atOnce id building =
      .ok (.scalar .null,
        { building with values := (id, .scalar .null) :: building.values }) := by
  refine once_eq unbuilt idle ?_
  have type_eq : StandardType.ofTag? StandardType.null.tag = some .null := rfl
  rw [bind_eq get_eq]
  simp only [tagOf_eq found, type_eq, CollectionType.of?]
  exact bind_eq (bind_eq (text_eq found rfl))

theorem value_list {ids : List NodeId} {items : List Value} {more : List Object}
    {values : List (NodeId × Value)}
    (found : building.graph[id]? = some ⟨StandardType.seq.tag, .sequence ids⟩)
    (unbuilt : building.values.lookup id = none) (idle : id ∉ building.active)
    (inside : ids.mapM (Yaml.Construct.value mark fuel true)
        { building with active := id :: building.active, objects := building.objects.push (.list []) } =
      .ok (items, { building with
        active := id :: building.active
        objects := building.objects.push (.list []) ++ more.toArray
        values })) :
    Yaml.Construct.value mark (fuel + 1) true id building =
      .ok (.object building.objects.size,
        { building with
          objects := building.objects.push (.list items) ++ more.toArray
          values := (id, .object building.objects.size) :: values }) := by
  refine once_eq unbuilt idle ?_
  have type_eq : StandardType.ofTag? StandardType.seq.tag = some .seq := rfl
  rw [bind_eq get_eq]
  simp only [tagOf_eq found, type_eq, CollectionType.of?]
  rw [collection, bind_eq (addObject_eq _)]
  simp only [↓reduceIte]
  have read : filled (Yaml.Construct.value mark fuel true) .list id
      { building with
        active := id :: building.active, objects := building.objects.push (.list []) } =
      .ok (.list items, { building with
        active := id :: building.active
        objects := building.objects.push (.list []) ++ more.toArray
        values }) :=
    bind_eq (items_eq found inside)
  refine (bind_eq read).trans ?_
  have set_last : (building.objects.push (.list []) ++ more.toArray).setIfInBounds
      building.objects.size (.list items) = building.objects.push (.list items) ++ more.toArray := by
    apply Array.ext'
    simp
  rw [← set_last]
  rfl

theorem value_record {kind : Kind} {entries : List NodeEntry}
    {read : List (Yaml.Scalar × Value)} {more : List Object} {values : List (NodeId × Value)}
    (found : building.graph[id]? = some (recordNode kind entries))
    (texts : ∀ entry ∈ entries, building.graph.tagOf entry.1 = StandardType.str.tag)
    (unbuilt : building.values.lookup id = none) (idle : id ∉ building.active)
    (inside : entries.foldlM (addEntry (Yaml.Construct.value mark fuel true)) []
        { building with active := id :: building.active } =
      .ok (read, { building with
        active := id :: building.active
        objects := building.objects ++ more.toArray
        values })) :
    Yaml.Construct.value mark (fuel + 1) atOnce id building =
      .ok (.object (building.objects.size + more.length),
        { building with
          objects := building.objects ++ (more ++ [Object.mapping (some kind.name) read]).toArray
          values := (id, .object (building.objects.size + more.length)) :: values }) := by
  refine once_eq unbuilt idle ?_
  have type_eq : StandardType.ofTag? (kindName kind) = none := by
    cases kind <;> decide
  have kind_eq : recordKind? mark (kindName kind) = some kind.name := by
    cases kind <;> decide
  rw [bind_eq get_eq]
  simp only [tagOf_eq found, recordNode, type_eq, kind_eq]
  by_cases shown : entries = []
  · subst shown
    have nothing : (.ok ([], { building with active := id :: building.active }) :
        Except Fault (List (Yaml.Scalar × Value) × Building)) = _ := inside
    simp only [Except.ok.injEq, Prod.mk.injEq, Building.mk.injEq, true_and, and_true] at nothing
    obtain ⟨rfl, objects_eq, rfl⟩ := nothing
    obtain rfl : more = [] := by
      have size_eq := congrArg Array.size objects_eq
      simpa using size_eq
    refine (@record_empty { building with active := id :: building.active } id _ _ _ found).trans ?_
    simp
  · have found_mapping : building.graph[id]? = some ⟨kindName kind, .mapping entries⟩ := by
      simpa [recordNode, shown] using found
    refine (@record_eq { building with active := id :: building.active } id _ _ _ _ _ _ found_mapping
      texts inside).trans ?_
    simp

end Construct

/-! ## From nodes to values -/

def SameOutside (first count : Nat) (before after : List (NodeId × Value)) : Prop :=
  ∀ id : Nat, id < first ∨ first + count ≤ id → after.lookup id = before.lookup id

theorem SameOutside.cons {first count : Nat} {before after : List (NodeId × Value)}
    (same : SameOutside (first + 1) count before after) (value : Value) :
    SameOutside first (1 + count) before ((first, value) :: after) := by
  intro id outside
  have other : (id == first) = false := by
    simp
    omega
  rw [List.lookup_cons, other]
  exact same id (by omega)

theorem SameOutside.single (first : Nat) (value : Value) (before : List (NodeId × Value)) :
    SameOutside first 1 before ((first, value) :: before) :=
  @SameOutside.cons first 0 before before (fun _ _ => rfl) value

theorem SameOutside.trans {first early late : Nat}
    {before middle after : List (NodeId × Value)} (left : SameOutside first early before middle)
    (right : SameOutside (first + early) late middle after) :
    SameOutside first (early + late) before after := by
  intro id outside
  rw [right id (by omega), left id (by omega)]

section Building

variable (find : CodeText → NodeId) (targets : CodeText → Value) (known : List CodeText)

structure Ready (building : Building) (first count : Nat) : Prop where
  unbuilt : ∀ id : Nat, first ≤ id → id < first + count → building.values.lookup id = none
  idle : ∀ id : Nat, first ≤ id → id < first + count → id ∉ building.active
  resolves : ∀ anchor ∈ known, IsAnchor anchor →
    building.values.lookup (find anchor) = some (targets anchor)

end Building

namespace Ready

variable {find : CodeText → NodeId} {targets : CodeText → Value} {known : List CodeText}
  {building : Building} {first count early late : Nat}

theorem left (ready : Ready find targets known building first (early + late)) :
    Ready find targets known building first early where
  unbuilt id low high := ready.unbuilt id low (by omega)
  idle id low high := ready.idle id low (by omega)
  resolves := ready.resolves

theorem enter (ready : Ready find targets known building first (1 + count))
    (objects : Array Object) :
    Ready find targets known { building with active := first :: building.active, objects }
      (first + 1) count where
  unbuilt id low high := ready.unbuilt id (by omega) (by omega)
  idle id low high := by
    have other : id ≠ first := by omega
    simpa [other] using ready.idle id (by omega) (by omega)
  resolves := ready.resolves

theorem after (ready : Ready find targets known building first (early + late))
    {values : List (NodeId × Value)} (same : SameOutside first early building.values values)
    (objects : Array Object) :
    Ready find targets known { building with objects, values } (first + early) late where
  unbuilt id low high := by
    rw [same id (by omega)]
    exact ready.unbuilt id (by omega) (by omega)
  idle id low high := ready.idle id (by omega) (by omega)
  resolves anchor mem proper := by
    have found := ready.resolves anchor mem proper
    have inside (id : Nat) (built : building.values.lookup id = some (targets anchor)) :
        id < first ∨ first + early ≤ id := by
      by_cases outside : id < first ∨ first + early ≤ id
      · exact outside
      · rw [ready.unbuilt id (by omega) (by omega)] at built
        cases built
    rw [same _ (inside _ found), found]

theorem learn (ready : Ready find targets known building first count) {anchor : Option CodeText}
    (built : ∀ name, anchor = some name →
      building.values.lookup (find name) = some (targets name)) :
    Ready find targets (anchor.toList ++ known) building first count where
  unbuilt := ready.unbuilt
  idle := ready.idle
  resolves name mem proper := by
    rcases List.mem_append.mp mem with mem | mem
    · exact built name (by simpa using mem)
    · exact ready.resolves name mem proper

end Ready

def Builds {α : Type} (part : Construct α) (building : Building) (result : α) (more : List Object)
    (first count : Nat) : Prop :=
  ∃ values, part building =
      .ok (result, { building with objects := building.objects ++ more.toArray, values }) ∧
    SameOutside first count building.values values

theorem Builds.of_eq {α : Type} {part : Construct α} {building : Building} {result : α}
    {first count : Nat} {values : List (NodeId × Value)}
    (run_eq : part building = .ok (result, { building with values }))
    (same : SameOutside first count building.values values) :
    Builds part building result [] first count :=
  ⟨values, by rw [run_eq, List.toArray, Array.append_empty], same⟩

theorem Builds.bind {α β : Type} {part : Construct α} {next : α → Construct β}
    {building : Building} {a : α} {result : β} {more others : List Object} {first early late : Nat}
    (left : Builds part building a more first early)
    (right : ∀ values, SameOutside first early building.values values →
      Builds (next a)
        { building with objects := building.objects ++ more.toArray, values }
        result others (first + early) late) :
    Builds (part >>= next) building result (more ++ others) first (early + late) := by
  obtain ⟨middle, left_eq, left_same⟩ := left
  obtain ⟨values, right_eq, right_same⟩ := right middle left_same
  refine ⟨values, ?_, left_same.trans right_same⟩
  rw [bind_eq left_eq, right_eq]
  simp

theorem Builds.map {α β : Type} {part : Construct α} {building : Building} {a : α}
    {more : List Object} {first count : Nat} (built : Builds part building a more first count)
    (f : α → β) : Builds (do return f (← part)) building (f a) more first count := by
  obtain ⟨values, run_eq, same⟩ := built
  exact ⟨values, bind_eq run_eq, same⟩

namespace Tree

open Construct

variable {find : CodeText → NodeId} {targets : CodeText → Value} {known : List CodeText}

theorem tagOf_key {graph : Graph} {first : Nat} {entries : List Entry}
    (standing : Standing graph first (entryNodes find first entries)) :
    ∀ entry ∈ entryIds find first entries, graph.tagOf entry.1 = StandardType.str.tag := by
  induction entries generalizing first with
  | nil => simp [entryIds]
  | cons entry rest ih =>
      obtain ⟨key, tree⟩ := entry
      intro ids mem
      rcases List.mem_cons.mp mem with rfl | mem
      · exact tagOf_eq standing.left.head
      · refine ih ?_ ids mem
        simpa [length_nodes, Nat.add_comm 1] using standing.right

theorem nodup_texts {entries : List Entry} (different : (entries.map (·.1)).Nodup) :
    (entries.map (Yaml.Scalar.text ·.1)).Nodup := by
  have mapped : ((entries.map (·.1)).map Yaml.Scalar.text).Nodup :=
    List.Pairwise.map _ (fun _ _ apart same => apart (Yaml.Scalar.text.inj same)) different
  rwa [List.map_map] at mapped

theorem build_record (kind : Kind) {entries : List Entry} (building : Building) {first fuel : Nat}
    (atOnce : Bool)
    (standing : Standing building.graph first ((record kind entries).nodes find first))
    (ready : Ready find targets known building first (1 + entryCount entries))
    (inside : Builds
      ((entryIds find (first + 1) entries).foldlM (addEntry (Yaml.Construct.value mark fuel true)) [])
      { building with active := first :: building.active }
      (entryValues targets building.objects.size entries)
      (entryObjects targets building.objects.size entries) (first + 1) (entryCount entries)) :
    ∃ values, Yaml.Construct.value mark (fuel + 1) atOnce first building =
        .ok ((record kind entries).valueAt targets building.objects.size,
          { building with
            objects := building.objects ++
              ((record kind entries).objects targets building.objects.size).toArray
            values }) ∧
      SameOutside first (1 + entryCount entries) building.values values ∧
      values.lookup first = some ((record kind entries).valueAt targets building.objects.size) := by
  obtain ⟨values, run_eq, same⟩ := inside
  have value_eq : Value.object (building.objects.size +
      (entryObjects targets building.objects.size entries).length) =
        (record kind entries).valueAt targets building.objects.size := by
    rw [length_entryObjects, valueAt]
  have built := @value_record building first fuel atOnce kind _ _ _ values standing.head
    (tagOf_key standing.tail) (ready.unbuilt first (by omega) (by omega))
    (ready.idle first (by omega) (by omega)) run_eq
  rw [value_eq] at built
  exact ⟨_, built, same.cons _, List.lookup_cons_self⟩

theorem build_list {items : List Tree} (shown : items ≠ []) {building : Building}
    {first fuel : Nat} (standing : Standing building.graph first ((list items).nodes find first))
    (ready : Ready find targets known building first (1 + itemCount items))
    (inside : Builds ((itemIds find (first + 1) items).mapM (Yaml.Construct.value mark fuel true))
      { building with
        active := first :: building.active, objects := building.objects.push (.list []) }
      (itemValues targets (building.objects.size + 1) items)
      (itemObjects targets (building.objects.size + 1) items) (first + 1) (itemCount items)) :
    Builds (Yaml.Construct.value mark (fuel + 1) true first) building
      ((list items).valueAt targets building.objects.size)
      ((list items).objects targets building.objects.size) first (1 + itemCount items) := by
  obtain ⟨values, run_eq, same⟩ := inside
  have found : building.graph[first]? =
      some ⟨StandardType.seq.tag, .sequence (itemIds find (first + 1) items)⟩ := by
    rw [standing.head, listNode]
    cases items with
    | nil => exact absurd rfl shown
    | cons => rfl
  have built := @value_list building first fuel _ _ _ values found
    (ready.unbuilt first (by omega) (by omega)) (ready.idle first (by omega) (by omega)) run_eq
  refine ⟨_, built.trans ?_, same.cons (.object building.objects.size)⟩
  simp [valueAt, objects, shown]

mutual

theorem build_tree (tree : Tree) (proper : tree.WellFormed known) (building : Building)
    {first : Nat}
    (standing : Standing building.graph first (tree.nodes find first))
    (ready : Ready find targets known building first tree.nodeCount) (fuel : Nat)
    (enough : tree.nodeCount ≤ fuel) :
    Builds (Yaml.Construct.value mark (fuel + 1) true (tree.nodeId find first)) building
      (tree.valueAt targets building.objects.size) (tree.objects targets building.objects.size)
      first tree.nodeCount := by
  cases tree with
  | scalar value =>
      have unbuilt := ready.unbuilt first (Nat.le_refl _) (Nat.lt_succ_self _)
      have idle := ready.idle first (Nat.le_refl _) (Nat.lt_succ_self _)
      exact .of_eq (value_scalar proper standing.head unbuilt idle) (.single first _ _)
  | reference anchor =>
      exact .of_eq (value_built (ready.resolves anchor proper.2 proper.1)) fun _ _ => rfl
  | emptyList =>
      have built := @value_list building first fuel [] [] [] building.values standing.head
        (ready.unbuilt first (Nat.le_refl _) (Nat.lt_succ_self _))
        (ready.idle first (Nat.le_refl _) (Nat.lt_succ_self _)) rfl
      refine ⟨_, built.trans ?_, .single first (.object building.objects.size) _⟩
      simp [valueAt, objects]
  | list items =>
      by_cases shown : items = []
      · subst shown
        have unbuilt := ready.unbuilt first (Nat.le_refl _) (Nat.lt_succ_self _)
        have idle := ready.idle first (Nat.le_refl _) (Nat.lt_succ_self _)
        exact .of_eq (value_null standing.head unbuilt idle) (.single first _ _)
      · obtain ⟨fuel, rfl⟩ := Nat.exists_eq_add_of_le' (n := fuel) (m := 1) (by
          rw [nodeCount] at enough
          omega)
        refine build_list shown standing ready ?_
        have inside := build_items items proper
          { building with
            active := first :: building.active, objects := building.objects.push (.list []) }
          standing.tail (ready.enter _) fuel (by rw [nodeCount] at enough; omega)
        rwa [Array.size_push] at inside
  | record kind entries =>
      obtain ⟨fuel, rfl⟩ := Nat.exists_eq_add_of_le' (n := fuel) (m := 1) (by
        rw [nodeCount] at enough
        omega)
      have inside := build_entries entries proper.2 []
        (nodup_texts proper.1) { building with active := first :: building.active }
        standing.tail (ready.enter _) fuel (by rw [nodeCount] at enough; omega)
      obtain ⟨values, run_eq, same, -⟩ := build_record kind building true standing ready inside
      exact ⟨values, run_eq, same⟩

theorem build_items (items : List Tree) (proper : ItemsWellFormed known items) (building : Building)
    {first : Nat} (standing : Standing building.graph first (itemNodes find first items))
    (ready : Ready find targets known building first (itemCount items)) (fuel : Nat)
    (enough : itemCount items ≤ fuel) :
    Builds ((itemIds find first items).mapM (Yaml.Construct.value mark (fuel + 1) true)) building
      (itemValues targets building.objects.size items)
      (itemObjects targets building.objects.size items) first (itemCount items) := by
  cases items with
  | nil => exact .of_eq rfl fun _ _ => rfl
  | cons tree rest =>
      obtain ⟨-, tree_proper, rest_proper⟩ := proper
      rw [itemCount] at enough ready
      have item := build_tree tree tree_proper building standing.left ready.left fuel (by omega)
      rw [itemIds, List.mapM_cons]
      refine item.bind fun values same => ?_
      have rest_standing : Standing building.graph (first + tree.nodeCount)
          (itemNodes find (first + tree.nodeCount) rest) := by
        simpa [length_nodes] using standing.right
      have later := build_items rest rest_proper
        { building with
          objects := building.objects ++ (tree.objects targets building.objects.size).toArray
          values }
        rest_standing (ready.after same _) fuel (by omega)
      simp only [Array.size_append, List.size_toArray, length_objects] at later
      exact later.map _

theorem build_entries (entries : List Entry) (proper : EntriesWellFormed known entries)
    (done : List (Yaml.Scalar × Value))
    (different : (done.map (·.1) ++ entries.map (Yaml.Scalar.text ·.1)).Nodup)
    (building : Building) {first : Nat}
    (standing : Standing building.graph first (entryNodes find first entries))
    (ready : Ready find targets known building first (entryCount entries)) (fuel : Nat)
    (enough : entryCount entries ≤ fuel) :
    Builds ((entryIds find first entries).foldlM
        (addEntry (Yaml.Construct.value mark (fuel + 1) true)) done) building
      (done ++ entryValues targets building.objects.size entries)
      (entryObjects targets building.objects.size entries) first (entryCount entries) := by
  cases entries with
  | nil => exact .of_eq (by rw [entryValues, List.append_nil]; rfl) fun _ _ => rfl
  | cons entry rest =>
      obtain ⟨key, tree⟩ := entry
      obtain ⟨tree_proper, rest_proper⟩ := proper
      rw [entryCount] at enough ready
      have absent : .text key ∉ done.map (·.1) := by
        intro mem
        exact (List.nodup_append.mp different).2.2 _ mem _ (by simp) rfl
      have key_built := @value_scalar building first fuel true (.text key) rfl standing.left.head
        (ready.unbuilt first (by omega) (by omega)) (ready.idle first (by omega) (by omega))
      have key_same := SameOutside.single first (.scalar (.text key)) building.values
      have value := build_tree tree tree_proper
        { building with values := (first, .scalar (.text key)) :: building.values }
        standing.left.tail
        (ready.left.after key_same building.objects) fuel (by omega)
      have first_built : Builds (addEntry (Yaml.Construct.value mark (fuel + 1) true) done
          (first, tree.nodeId find (first + 1))) building
          (done ++ [(.text key, tree.valueAt targets building.objects.size)])
          (tree.objects targets building.objects.size) first (1 + tree.nodeCount) := by
        obtain ⟨values, value_eq, same⟩ := value
        exact ⟨values, addEntry_eq absent key_built value_eq, key_same.trans same⟩
      rw [entryIds, List.foldlM_cons]
      refine first_built.bind fun values same => ?_
      have rest_standing : Standing building.graph (first + (1 + tree.nodeCount))
          (entryNodes find (first + (1 + tree.nodeCount)) rest) := by
        simpa [length_nodes, Nat.add_comm 1] using standing.right
      have later := build_entries rest rest_proper
        (done ++ [(.text key, tree.valueAt targets building.objects.size)])
        (by simpa using different)
        { building with
          objects := building.objects ++ (tree.objects targets building.objects.size).toArray
          values }
        rest_standing (ready.after same _) fuel (by omega)
      simpa [entryValues, length_objects] using later

end

end Tree

/-! ## Blocks -/

namespace Block

open Construct

def recordValue (first : Nat) (block : Block) : Value :=
  .object (first + Tree.entryObjectCount block.entries)

def objectSize (block : Block) : Nat :=
  block.entry.2.objectCount

variable {find : CodeText → NodeId} {targets : CodeText → Value} {known : List CodeText}

theorem build_block {block : Block} (proper : block.WellFormed known)
    {done : List (Yaml.Scalar × Value)} (absent : .text block.key ∉ done.map (·.1))
    (building : Building) {first : Nat}
    (standing : Standing building.graph first
      (scalarNode (.text block.key) :: block.entry.2.nodes find (first + 1)))
    (ready : Ready find targets known building first (1 + block.entry.2.nodeCount)) (fuel : Nat)
    (enough : block.entry.2.nodeCount ≤ fuel) :
    ∃ values, addEntry (Yaml.Construct.value mark (fuel + 1) false) done (first, first + 1)
          building =
        .ok (done ++ [(.text block.key, block.entry.2.valueAt targets building.objects.size)],
          { building with
            objects :=
              building.objects ++ (block.entry.2.objects targets building.objects.size).toArray
            values }) ∧
      SameOutside first (1 + block.entry.2.nodeCount) building.values values ∧
      values.lookup (first + 1) = some (block.recordValue building.objects.size) := by
  obtain ⟨key, kind, anchor, entries⟩ := block
  obtain ⟨fuel, rfl⟩ := Nat.exists_eq_add_of_le' (n := fuel) (m := 1) (by
    rw [entry, Tree.nodeCount] at enough
    omega)
  simp only [entry, Tree.nodeCount] at enough ready standing ⊢
  have key_built := @value_scalar building first (fuel + 1) false (.text key) rfl standing.head
    (ready.unbuilt first (by omega) (by omega)) (ready.idle first (by omega) (by omega))
  have key_same := SameOutside.single first (.scalar (.text key)) building.values
  have record_ready := ready.after key_same building.objects
  have inside := Tree.build_entries entries proper.inside.2 [] (Tree.nodup_texts proper.inside.1)
    { building with
      values := (first, .scalar (.text key)) :: building.values
      active := (first + 1) :: building.active }
    standing.tail.tail (record_ready.enter building.objects) fuel (by omega)
  obtain ⟨values, record_eq, record_same, found⟩ := Tree.build_record kind
    { building with values := (first, .scalar (.text key)) :: building.values } false
    standing.tail record_ready inside
  exact ⟨values, addEntry_eq absent key_built record_eq, key_same.trans record_same, found⟩

theorem build_blocks (blocks : List Block) (readable : Readable known blocks)
    (done : List (Yaml.Scalar × Value))
    (different : (done.map (·.1) ++ blocks.map (Yaml.Scalar.text ·.key)).Nodup)
    (building : Building) {first : Nat} (located : Located recordNode nodeSize find first blocks)
    (targeted : Located recordValue objectSize targets building.objects.size blocks)
    (standing : Standing building.graph first (Tree.entryNodes find first (blocks.map entry)))
    (ready : Ready find targets known building first (Tree.entryCount (blocks.map entry)))
    (fuel : Nat) (enough : Tree.entryCount (blocks.map entry) ≤ fuel) :
    Builds ((Tree.entryIds find first (blocks.map entry)).foldlM
        (addEntry (Yaml.Construct.value mark (fuel + 1) false)) done) building
      (done ++ Tree.entryValues targets building.objects.size (blocks.map entry))
      (Tree.entryObjects targets building.objects.size (blocks.map entry)) first
      (Tree.entryCount (blocks.map entry)) := by
  induction blocks generalizing known done building first with
  | nil => exact .of_eq (by rw [List.map_nil, Tree.entryValues, List.append_nil]; rfl) fun _ _ => rfl
  | cons block rest ih =>
      obtain ⟨proper, -, rest_readable⟩ := readable
      obtain ⟨anchor_located, rest_located⟩ := located
      obtain ⟨anchor_targeted, rest_targeted⟩ := targeted
      simp only [List.map_cons, Tree.entryCount] at enough ready
      have absent : .text block.key ∉ done.map (·.1) := by
        intro mem
        exact (List.nodup_append.mp different).2.2 _ mem _ (by simp) rfl
      obtain ⟨values, first_eq, same, found⟩ := build_block proper absent building standing.left
        ready.left fuel (by omega)
      have rest_standing : Standing building.graph (first + nodeSize block)
          (Tree.entryNodes find (first + nodeSize block) (rest.map entry)) := by
        have right := standing.right
        rw [List.length_cons, Tree.length_nodes, Nat.add_comm _ 1] at right
        exact right
      -- later blocks may refer to the record that has just been built
      have learned (name : CodeText) (anchored : block.anchor = some name) :
          values.lookup (find name) = some (targets name) := by
        rw [anchor_located name anchored, anchor_targeted name anchored]
        exact found
      have size_eq : (building.objects ++
          (block.entry.2.objects targets building.objects.size).toArray).size =
            building.objects.size + objectSize block := by
        simp [Tree.length_objects, objectSize]
      rw [← size_eq] at rest_targeted
      obtain ⟨final, rest_eq, rest_same⟩ := ih rest_readable
        (done ++ [(.text block.key, block.entry.2.valueAt targets building.objects.size)])
        (by simpa using different)
        { building with
          objects :=
            building.objects ++ (block.entry.2.objects targets building.objects.size).toArray
          values }
        rest_located rest_targeted rest_standing ((ready.after same _).learn learned) (by omega)
      refine ⟨final, ?_, same.trans rest_same⟩
      rw [List.map_cons, Tree.entryIds, List.foldlM_cons]
      refine (bind_eq first_eq).trans (rest_eq.trans ?_)
      rw [size_eq]
      simp [Tree.entryValues, Tree.entryObjects, objectSize, entry]

end Block

/-! ## Documents -/

def documentValue (targets : CodeText → Value) (blocks : List Block) : Loaded where
  root := .object 0
  objects :=
    (.mapping none (Tree.entryValues targets 1 (blocks.map Block.entry)) ::
      Tree.entryObjects targets 1 (blocks.map Block.entry)).toArray

namespace Construct

open Yaml.Construct

theorem value_root {graph : Graph} {standard : StandardType} {type : CollectionType}
    {content : Content} (fuel : Nat) (found : graph[0]? = some ⟨standard.tag, content⟩)
    (type_eq : CollectionType.of? standard = some type) :
    Yaml.Construct.value mark (fuel + 1) false 0 { graph } =
      .ok (.object 0, { graph, objects := #[type.empty], values := [(0, .object 0)],
                        waiting := [⟨type, 0, 0⟩] }) := by
  refine once_eq rfl (by simp) ?_
  have standard_eq : StandardType.ofTag? standard.tag = some standard := by
    cases standard <;> rfl
  rw [bind_eq get_eq]
  simp only [tagOf_eq found, standard_eq, type_eq]
  rfl

theorem fillWaiting_nil (fuel : Nat) {building : Building} (done : building.waiting = []) :
    fillWaiting mark fuel building = .ok ((), building) := by
  cases fuel with
  | zero => rfl
  | succ fuel =>
      rw [fillWaiting, bind_eq get_eq, done]
      rfl

theorem fillWaiting_root {graph : Graph} {type : CollectionType} (fuel : Nat) {object : Object}
    {more : List Object} {values : List (NodeId × Value)}
    (inside : filled (Yaml.Construct.value mark (graph.size + 1) false) type 0
        { graph, objects := #[type.empty], values := [(0, .object 0)] } =
      .ok (object, { graph, objects := #[type.empty] ++ more.toArray, values })) :
    fillWaiting mark (fuel + 1)
        { graph, objects := #[type.empty], values := [(0, .object 0)],
          waiting := [⟨type, 0, 0⟩] } =
      .ok ((), { graph, objects := (object :: more).toArray, values }) := by
  rw [fillWaiting, bind_eq get_eq]
  refine (bind_eq set_eq).trans ((bind_eq inside).trans ?_)
  refine (fillWaiting_nil fuel rfl).trans ?_
  simp

/-- A text whose root is a collection of a standard type is read once the collection is
filled. -/
theorem load_of_root {source : Source} {graph : Graph} {standard : StandardType}
    {type : CollectionType} {content : Content} {object : Object} {more : List Object}
    {values : List (NodeId × Value)} (composed : compose source = .ok (some 0, graph))
    (found : graph[0]? = some ⟨standard.tag, content⟩)
    (type_eq : CollectionType.of? standard = some type)
    (inside : filled (Yaml.Construct.value mark (graph.size + 1) false) type 0
        { graph, objects := #[type.empty], values := [(0, .object 0)] } =
      .ok (object, { graph, objects := #[type.empty] ++ more.toArray, values })) :
    Yaml.load mark source = .ok { root := .object 0, objects := (object :: more).toArray } := by
  obtain ⟨size, size_eq⟩ : ∃ size, graph.size = size + 1 := by
    obtain ⟨shown, -⟩ := Array.getElem?_eq_some_iff.mp found
    exact Nat.exists_eq_add_one_of_ne_zero (Nat.ne_of_gt shown)
  have filled_eq := fillWaiting_root size inside
  rw [← size_eq] at filled_eq
  rw [Yaml.load, composed]
  change (do
    let root ← Yaml.Construct.value mark (graph.size + 1) false 0
    fillWaiting mark graph.size
    return root : Construct Value) { graph } >>= _ = _
  rw [bind_eq (value_root _ found type_eq), bind_eq filled_eq]
  rfl

end Construct

open Construct in
theorem load_document {targets : CodeText → Value} {blocks : List Block} (shown : blocks ≠ [])
    (readable : Block.Readable [] blocks) (different : (blocks.map (·.key)).Nodup)
    (targeted : Block.Located Block.recordValue Block.objectSize targets 1 blocks) :
    Yaml.load mark (.ofText (blocks.flatMap Block.text)) = .ok (documentValue targets blocks) := by
  obtain ⟨find, located⟩ : ∃ find, Block.Located Block.recordNode Block.nodeSize find 1 blocks :=
    ⟨_, readable.located _ _ _⟩
  have texts : (blocks.map (Yaml.Scalar.text ·.key)).Nodup := by
    have keys : (blocks.map Block.entry).map (·.1) = blocks.map (·.key) := by
      simp [Block.entry]
    have nodup := @Tree.nodup_texts (blocks.map Block.entry) (by rwa [keys])
    rwa [List.map_map] at nodup
  have graph_size : (documentGraph find blocks).size =
      Tree.entryCount (blocks.map Block.entry) + 1 := by
    simp [documentGraph, Tree.length_entryNodes]
  have standing : Standing (documentGraph find blocks) 0
      (⟨StandardType.map.tag, .mapping (Tree.entryIds find 1 (blocks.map Block.entry))⟩ ::
        Tree.entryNodes find 1 (blocks.map Block.entry)) :=
    .toArray _
  have ready : Ready find targets []
      { graph := documentGraph find blocks
        objects := #[.mapping none []]
        values := [(0, .object 0)] } 1 (Tree.entryCount (blocks.map Block.entry)) := by
    refine ⟨fun id low _ => ?_, by simp, by simp⟩
    exact @SameOutside.single 0 (.object 0) [] id (.inr low)
  obtain ⟨values, entries_eq, -⟩ := Block.build_blocks blocks readable []
    (by simpa using texts) _ located targeted standing.tail ready
    (documentGraph find blocks).size (by omega)
  exact load_of_root (compose_document shown readable located) standing.head rfl
    (bind_eq (mappingEntries_eq standing.head (Tree.tagOf_key standing.tail) entries_eq))

/-! ## Reading trees back -/

namespace Tree

mutual

/-- A value says what a tree says; a reference is the value that its anchor stands for, and a
list without lines is null. -/
def ShownBy (loaded : Loaded) (targets : List (CodeText × Value)) (value : Value) : Tree → Prop
  | scalar written => value = .scalar (readValue written)
  | reference anchor => targets.lookup anchor = some value
  | emptyList => loaded.objectOf? value = some (.list [])
  | list items =>
    if items.isEmpty then value = .scalar .null
    else ∃ values, loaded.objectOf? value = some (.list values) ∧
      ItemsShownBy loaded targets values items
  | record kind entries =>
    ∃ read, loaded.objectOf? value = some (.mapping (some kind.name) read) ∧
      EntriesShownBy loaded targets read entries

def ItemsShownBy (loaded : Loaded) (targets : List (CodeText × Value)) (values : List Value) :
    List Tree → Prop
  | [] => values = []
  | tree :: rest =>
    ∃ value others, values = value :: others ∧ tree.ShownBy loaded targets value ∧
      ItemsShownBy loaded targets others rest

def EntriesShownBy (loaded : Loaded) (targets : List (CodeText × Value))
    (read : List (Yaml.Scalar × Value)) : List Entry → Prop
  | [] => read = []
  | (key, tree) :: rest =>
    ∃ value others, read = (.text key, value) :: others ∧ tree.ShownBy loaded targets value ∧
      EntriesShownBy loaded targets others rest

end

variable {known : List CodeText} {loaded : Loaded} {find : CodeText → Value}
  {targets : List (CodeText × Value)}

mutual

theorem shownBy_valueAt (tree : Tree) (proper : tree.WellFormed known)
    (resolves : ∀ anchor ∈ known, targets.lookup anchor = some (find anchor)) {first : Nat}
    (standing : Standing loaded.objects first (tree.objects find first)) :
    tree.ShownBy loaded targets (tree.valueAt find first) := by
  cases tree with
  | scalar value => rfl
  | reference anchor => exact resolves anchor proper.2
  | emptyList => exact standing.head
  | list items =>
      rw [ShownBy, valueAt]
      rw [objects] at standing
      split
      · rfl
      · rename_i shown
        rw [if_neg shown] at standing
        exact ⟨_, standing.head, itemsShownBy_itemValues items proper resolves standing.tail⟩
  | record kind entries =>
      refine ⟨_, ?_, entriesShownBy_entryValues entries proper.2 resolves standing.left⟩
      have last := standing.right.head
      rwa [length_entryObjects] at last

theorem itemsShownBy_itemValues (items : List Tree) (proper : ItemsWellFormed known items)
    (resolves : ∀ anchor ∈ known, targets.lookup anchor = some (find anchor)) {first : Nat}
    (standing : Standing loaded.objects first (itemObjects find first items)) :
    ItemsShownBy loaded targets (itemValues find first items) items := by
  cases items with
  | nil => rfl
  | cons tree rest =>
      obtain ⟨-, tree_proper, rest_proper⟩ := proper
      have later := standing.right
      rw [length_objects] at later
      exact ⟨_, _, rfl, shownBy_valueAt tree tree_proper resolves standing.left,
        itemsShownBy_itemValues rest rest_proper resolves later⟩

theorem entriesShownBy_entryValues (entries : List Entry)
    (proper : EntriesWellFormed known entries)
    (resolves : ∀ anchor ∈ known, targets.lookup anchor = some (find anchor)) {first : Nat}
    (standing : Standing loaded.objects first (entryObjects find first entries)) :
    EntriesShownBy loaded targets (entryValues find first entries) entries := by
  cases entries with
  | nil => rfl
  | cons entry rest =>
      obtain ⟨key, tree⟩ := entry
      obtain ⟨tree_proper, rest_proper⟩ := proper
      have later := standing.right
      rw [length_objects] at later
      exact ⟨_, _, rfl, shownBy_valueAt tree tree_proper resolves standing.left,
        entriesShownBy_entryValues rest rest_proper resolves later⟩

end

end Tree

namespace Block

/-- The entries of a document are its blocks in order, and each reference is the value of an
earlier block. -/
def ShownBy (loaded : Loaded) (targets : List (CodeText × Value))
    (read : List (Yaml.Scalar × Value)) : List Block → Prop
  | [] => read = []
  | block :: rest =>
    ∃ value others, read = (.text block.key, value) :: others ∧
      (Tree.record block.kind block.entries).ShownBy loaded targets value ∧
      ShownBy loaded ((block.anchor.map (·, value)).toList ++ targets) others rest

theorem shownBy_entryValues {known : List CodeText} {loaded : Loaded} {find : CodeText → Value}
    {targets : List (CodeText × Value)} {blocks : List Block} (readable : Readable known blocks)
    (resolves : ∀ anchor ∈ known, targets.lookup anchor = some (find anchor)) {first : Nat}
    (located : Located recordValue objectSize find first blocks)
    (standing : Standing loaded.objects first (Tree.entryObjects find first (blocks.map entry))) :
    ShownBy loaded targets (Tree.entryValues find first (blocks.map entry)) blocks := by
  induction blocks generalizing known targets first with
  | nil => rfl
  | cons block rest ih =>
      obtain ⟨proper, fresh, rest_readable⟩ := readable
      obtain ⟨anchor_located, rest_located⟩ := located
      have later := standing.right
      rw [Tree.length_objects] at later
      refine ⟨_, _, rfl, Tree.shownBy_valueAt _ proper.inside resolves standing.left, ?_⟩
      refine ih rest_readable (fun anchor mem => ?_) rest_located later
      cases own : block.anchor with
      | none => exact resolves anchor (by simpa [own] using mem)
      | some name =>
          by_cases same : anchor = name
          · subst same
            rw [anchor_located anchor own]
            exact List.lookup_cons_self
          · have other : (anchor == name) = false := beq_false_of_ne same
            change List.lookup anchor ((name, _) :: targets) = _
            rw [List.lookup_cons, other]
            exact resolves anchor (by simpa [own, same] using mem)

end Block

theorem load_blocks {blocks : List Block} (readable : Block.Readable [] blocks)
    (different : (blocks.map (·.key)).Nodup) :
    ∃ loaded read, load (.ofChars (blocks.flatMap Block.text)) = .ok loaded ∧
      loaded.objectOf? loaded.root = some (.mapping none read) ∧
      Block.ShownBy loaded [] read blocks := by
  rw [load, chars?_ofChars]
  by_cases shown : blocks = []
  · subst shown
    exact ⟨_, [], rfl, rfl, rfl⟩
  · have located := readable.located Block.recordValue Block.objectSize 1
    have loaded_eq := load_document shown readable different located
    refine ⟨documentValue _ blocks, _, ?_, rfl,
      Block.shownBy_entryValues readable (by simp) located (Standing.toArray _).tail⟩
    simp only [loaded_eq]
    rfl

end TypeCatalog.Document
