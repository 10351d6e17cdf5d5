import TypeCatalog.Yaml.Composition
import TypeCatalog.Yaml.Merge
import TypeCatalog.Yaml.Scalar

/-!
# The value of a text

A value is a scalar or an object: a list, a mapping, a set or a list of pairs.
Objects are numbered, and two values with the same number are one and the same
object: that is what an alias of a collection stands for.

Objects are built level by level.  A collection is empty at first, and is filled
when everything on its level exists, so it may contain itself.  What has a
record tag is built at once with everything in it, and therefore may not.

If a key is repeated, the last value counts, at the place of the first.
-/

namespace TypeCatalog.Yaml

open Text (CodeText)

abbrev ObjectId := Nat

inductive Value where
  | scalar (value : Scalar)
  | object (id : ObjectId)
  deriving DecidableEq, Repr, Inhabited

inductive Object where
  | list (items : List Value)
  | mapping (kind : Option String) (entries : List (Scalar × Value))
  | set (keys : List Scalar)
  | pairs (entries : List (Value × Value))
  deriving DecidableEq, Repr, Inhabited

def putEntry (entries : List (Scalar × Value)) (key : Scalar) (value : Value) :
    List (Scalar × Value) :=
  if entries.any (·.1.sameKey key) then
    entries.map fun entry => if entry.1.sameKey key then (entry.1, value) else entry
  else entries ++ [(key, value)]

/-! ## What tags ask for -/

abbrev RecordMark := Option String

def recordKind? (mark : RecordMark) (tag : String) : Option String :=
  match mark with
  | none => none
  | some mark =>
    if mark.toList.isPrefixOf tag.toList then
      some (String.ofList (tag.toList.drop mark.toList.length))
    else none

inductive CollectionType where
  | list
  | mapping
  | set
  | pairs
  deriving DecidableEq, Repr

def CollectionType.empty : CollectionType → Object
  | list => .list []
  | mapping => .mapping none []
  | set => .set []
  | pairs => .pairs []

def CollectionType.of? : StandardType → Option CollectionType
  | .seq => some .list
  | .map => some .mapping
  | .set => some .set
  | .omap | .pairs => some .pairs
  | _ => none

/-! ## Construction -/

structure Waiting where
  type : CollectionType
  node : NodeId
  object : ObjectId
  deriving DecidableEq, Repr

structure Building where
  graph : Graph
  objects : Array Object := #[]
  values : List (NodeId × Value) := []
  active : List NodeId := []
  waiting : List Waiting := []

abbrev Construct := StateT Building (Except Fault)

namespace Construct

def refuse {α : Type} (reason : Flaw) : Construct α :=
  fun _ => flaw reason

def contentOf (id : NodeId) : Construct Content :=
  return (← get).graph.contentOf id

/-- The text that a node stands for: that of a scalar, or that of the entry of a mapping which
stands for it. -/
def scalarText : Nat → NodeId → Construct CodeText
  | 0, _ => refuse .wrongKind
  | fuel + 1, id => do
    let graph := (← get).graph
    match graph.contentOf id with
    | .scalar text => return text
    | .sequence _ => refuse .wrongKind
    | .mapping entries =>
      match entries.find? fun entry => graph.tagOf entry.1 == StandardType.value.tag with
      | some (_, value) => scalarText fuel value
      | none => refuse .wrongKind

def text (id : NodeId) : Construct CodeText := do
  scalarText ((← get).graph.size + 1) id

/-- A time is read from a scalar alone. -/
def time (id : NodeId) : Construct Scalar := do
  let written ← text id
  match ← contentOf id with
  | .scalar _ => timeOf written
  | _ => fun _ => noValue .timeOfCollection

def scalar (type : StandardType) (id : NodeId) : Construct Scalar := do
  match type with
  | .null =>
    let _ ← text id
    return .null
  | .bool => return .bool (← truthOf (← text id))
  | .int => return .int (← integerOf (← text id))
  | .float => realOf id (← text id)
  | .binary => return .bytes (← bytesOf (← text id))
  | .timestamp => time id
  | .str => return .text (← text id)
  | _ => refuse .undefinedTag

/-! ## Objects -/

def addObject (object : Object) : Construct ObjectId := do
  let building ← get
  set { building with objects := building.objects.push object }
  return building.objects.size

def setObject (id : ObjectId) (object : Object) : Construct Unit :=
  modify fun building => { building with objects := building.objects.setIfInBounds id object }

def key : Value → Construct Scalar
  | .scalar value => return value
  | .object _ => refuse .collectionKey

def flatEntries (id : NodeId) : Construct (List NodeEntry) := do
  let building ← get
  let ((), graph) ← (Merging.flatten id).run building.graph
  set { building with graph }
  return graph.entriesOf id

def mappingEntries (build : NodeId → Construct Value) (id : NodeId) :
    Construct (List (Scalar × Value)) := do
  match ← contentOf id with
  | .mapping _ =>
    (← flatEntries id).foldlM (fun done entry => do
      let key ← key (← build entry.1)
      let value ← build entry.2
      return putEntry done key value) []
  | _ => refuse .wrongKind

def items (build : NodeId → Construct Value) (id : NodeId) : Construct (List Value) := do
  match ← contentOf id with
  | .sequence nodes => nodes.mapM build
  | _ => refuse .wrongKind

def pairs (build : NodeId → Construct Value) (id : NodeId) : Construct (List (Value × Value)) := do
  match ← contentOf id with
  | .sequence nodes =>
    nodes.mapM fun node => do
      match ← contentOf node with
      | .mapping [(key, value)] => return (← build key, ← build value)
      | _ => refuse .wrongKind
  | _ => refuse .wrongKind

def filled (build : NodeId → Construct Value) (type : CollectionType) (id : NodeId) :
    Construct Object := do
  match type with
  | .list => return .list (← items build id)
  | .mapping => return .mapping none (← mappingEntries build id)
  | .set => return .set ((← mappingEntries build id).map (·.1))
  | .pairs => return .pairs (← pairs build id)

/-- What a node with a record tag stands for.  An empty scalar is an empty record. -/
def record (build : NodeId → Construct Value) (kind : String) (id : NodeId) : Construct Value := do
  match ← contentOf id with
  | .mapping _ => return .object (← addObject (.mapping (some kind) (← mappingEntries build id)))
  | .sequence _ => return .object (← addObject (.list (← items build id)))
  | .scalar [] => return .object (← addObject (.mapping (some kind) []))
  | .scalar text => return .scalar (.text text)

def collection (build : NodeId → Construct Value) (atOnce : Bool) (type : CollectionType)
    (node : NodeId) : Construct Value := do
  let object ← addObject type.empty
  if atOnce then setObject object (← filled build type node)
  else
    modify fun building =>
      { building with waiting := building.waiting ++ [{ type, node, object }] }
  return .object object

/-! ## Nodes -/

/-- Builds a node; one that is being built already contains itself. -/
def once (id : NodeId) (build : Construct Value) : Construct Value := do
  let before ← get
  match before.values.lookup id with
  | some value => return value
  | none =>
    if before.active.contains id then refuse .recursiveAlias
    else
      set { before with active := id :: before.active }
      let value ← build
      modify fun building =>
        { building with
          values := (id, value) :: building.values, active := building.active.erase id }
      return value

/-- The value of a node.  The number is greater than that of the nodes not being built. -/
def value (mark : RecordMark) : Nat → Bool → NodeId → Construct Value
  | 0, _, _ => refuse .recursiveAlias
  | fuel + 1, atOnce, id =>
    once id do
      let tag := (← get).graph.tagOf id
      match StandardType.ofTag? tag, recordKind? mark tag with
      | some type, _ =>
        match CollectionType.of? type with
        | some type => collection (value mark fuel atOnce) atOnce type id
        | none => return .scalar (← scalar type id)
      | none, some kind => record (value mark fuel true) kind id
      | none, none => refuse .undefinedTag

/-- Fills the collections that wait for it, in order.  The number is at least that of the
nodes. -/
def fillWaiting (mark : RecordMark) : Nat → Construct Unit
  | 0 => pure ()
  | fuel + 1 => do
    let building ← get
    match building.waiting with
    | [] => pure ()
    | next :: others =>
      set { building with waiting := others }
      let depth := building.graph.size + 1
      setObject next.object (← filled (value mark depth false) next.type next.node)
      fillWaiting mark fuel

end Construct

/-! ## Texts -/

/-- The value of a text with its objects.  An empty text is null. -/
structure Loaded where
  root : Value
  objects : Array Object := #[]
  deriving Repr

namespace Loaded

def objectOf? (loaded : Loaded) : Value → Option Object
  | .scalar _ => none
  | .object id => loaded.objects[id]?

def typeName (loaded : Loaded) (value : Value) : String :=
  match value with
  | .scalar .null => "NoneType"
  | .scalar (.bool _) => "bool"
  | .scalar (.int _) => "int"
  | .scalar (.real _) | .scalar (.undefined _) => "float"
  | .scalar (.date _) => "date"
  | .scalar (.moment _) => "datetime"
  | .scalar (.bytes _) => "bytes"
  | .scalar (.text _) => "str"
  | .object _ =>
    match loaded.objectOf? value with
    | some (.mapping _ _) => "dict"
    | some (.set _) => "set"
    | _ => "list"

end Loaded

def load (mark : RecordMark) (source : Source) : Except Fault Loaded := do
  match ← compose source with
  | (none, _) => return { root := .scalar .null }
  | (some id, graph) =>
    let build : Construct Value := do
      let root ← Construct.value mark (graph.size + 1) false id
      Construct.fillWaiting mark graph.size
      return root
    let (root, building) ← build.run { graph }
    return { root, objects := building.objects }

end TypeCatalog.Yaml
