import TypeCatalog.Yaml.Fault
import TypeCatalog.Yaml.Form
import TypeCatalog.Yaml.Graph

/-!
# Merged mappings

A mapping takes the entries of another mapping, or of several ones, as the
value of a merge key.  They come before its own entries, so that its own ones
win.
-/

namespace TypeCatalog.Yaml

abbrev Merging := StateT Graph (Except Fault)

namespace Merging

def isMerge (graph : Graph) (entry : NodeEntry) : Bool :=
  graph.tagOf entry.1 == StandardType.merge.tag

def mergeCount (graph : Graph) : Nat :=
  ((List.range graph.size).flatMap fun id =>
    (graph.entriesOf id).filter (isMerge graph)).length

def nextMerge? (graph : Graph) (id : NodeId) (start : Nat) : Option (Nat × NodeId) :=
  let entries := graph.entriesOf id
  (((entries.zipIdx).drop start).find? fun entry => isMerge graph entry.1).map fun entry =>
    (entry.2, entry.1.2)

/-- A key that could stand for its mapping is a text in a mapping that is read as one. -/
def settleKeys (graph : Graph) (id : NodeId) : Graph :=
  (graph.entriesOf id).foldl (fun graph entry =>
    if graph.tagOf entry.1 == StandardType.value.tag then
      graph.setTag entry.1 StandardType.str.tag
    else graph) graph

def eraseEntry (graph : Graph) (id : NodeId) (place : Nat) : Graph :=
  graph.setContent id (.mapping ((graph.entriesOf id).eraseIdx place))

mutual

/-- Replaces the merge keys of a mapping by what they merge.  The numbers count down; they
start above four times the number of merge keys. -/
def mapping : Nat → NodeId → Merging Unit
  | 0, _ => pure ()
  | fuel + 1, id => do
    let merged ← entriesFrom fuel id 0 []
    modify fun graph =>
      if merged.isEmpty then settleKeys graph id
      else
        let settled := settleKeys graph id
        settled.setContent id (.mapping (merged ++ settled.entriesOf id))

def entriesFrom : Nat → NodeId → Nat → List NodeEntry → Merging (List NodeEntry)
  | 0, _, _, merged => return merged
  | fuel + 1, id, start, merged => do
    match nextMerge? (← get) id start with
    | none => return merged
    | some (place, value) =>
      modify (eraseEntry · id place)
      entriesFrom fuel id place (merged ++ (← entries fuel value))

/-- The entries of a mapping, or those of several mappings, the last one first. -/
def entries : Nat → NodeId → Merging (List NodeEntry)
  | 0, _ => return []
  | fuel + 1, value => do
    match (← get).contentOf value with
    | .mapping _ =>
      mapping fuel value
      return (← get).entriesOf value
    | .sequence items =>
      let parts ← items.mapM fun item => do
        match (← get).contentOf item with
        | .mapping _ =>
          mapping fuel item
          return (← get).entriesOf item
        | _ => fun _ => flaw .badMerge
      return parts.reverse.flatten
    | .scalar _ => fun _ => flaw .badMerge

end

def flatten (id : NodeId) : Merging Unit := do
  mapping (4 * mergeCount (← get) + 4) id

end Merging

end TypeCatalog.Yaml
