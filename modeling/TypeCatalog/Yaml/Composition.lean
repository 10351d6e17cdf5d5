import TypeCatalog.Yaml.Form
import TypeCatalog.Yaml.Graph
import TypeCatalog.Yaml.Token

/-!
# The graph that the tokens of a text describe

A text is one document.  An anchor is defined once, and before any alias of
it; a tag handle is one of the two standard ones or has a directive.
-/

namespace TypeCatalog.Yaml

open Text (CodeText)

structure Reading where
  stream : TokenStream
  handles : List (String × String) := []
  anchors : List (String × NodeId) := []
  graph : Graph := #[]

abbrev Reader := StateT Reading (Except Fault)

namespace Reader

def refuse {α : Type} (reason : Flaw) : Reader α :=
  fun _ => flaw reason

/-- The next token, none at the end.  Where the tokens end with a fault it is met here. -/
def peek : Reader (Option Token) := fun reading =>
  match reading.stream with
  | ⟨[], some fault⟩ => .error fault
  | ⟨tokens, _⟩ => .ok (tokens.head?, reading)

def advance : Reader Unit :=
  modify fun reading =>
    { reading with stream := { reading.stream with tokens := reading.stream.tokens.tail } }

def isNext (expected : List Token) : Reader Bool :=
  return (← peek).any expected.contains

def skip (expected : Token) : Reader Bool := do
  if ← isNext [expected] then
    advance
    return true
  else return false

def expect (expected : Token) : Reader Unit := do
  if !(← skip expected) then refuse .strayToken

/-! ## Properties -/

structure Properties where
  anchor : Option String := none
  tag : Option String := none

def anchor? : Reader (Option String) := do
  match ← peek with
  | some (.anchor name) =>
    advance
    return some name
  | _ => return none

def writtenTag? : Reader (Option WrittenTag) := do
  match ← peek with
  | some (.tag tag) =>
    advance
    return some tag
  | _ => return none

def fullTag (tag : WrittenTag) : Reader String := do
  match tag.handle with
  | none => return tag.suffix
  | some handle =>
    match (← get).handles.lookup handle with
    | some start => return start ++ tag.suffix
    | none => refuse .undefinedHandle

def properties : Reader Properties := do
  let (anchor, tag) ← match ← anchor? with
    | some name => pure (some name, ← writtenTag?)
    | none =>
      match ← writtenTag? with
      | some tag => pure (← anchor?, some tag)
      | none => pure (none, none)
  match tag with
  | some tag => return { anchor, tag := some (← fullTag tag) }
  | none => return { anchor }

end Reader

namespace Reader.Properties

/-- The tag of a collection.  The tag `!` asks for no particular type. -/
def collectionTag (properties : Properties) (standard : StandardType) : String :=
  match properties.tag with
  | none | some "!" => standard.tag
  | some name => name

/-- The tag of a scalar: a plain one, or one with the tag `!`, has the type of its form, and a
quoted one is a text. -/
def scalarTag (properties : Properties) (plain : Bool) (text : CodeText) : String :=
  match properties.tag with
  | none => if plain then (plainType text.toChars).tag else StandardType.str.tag
  | some "!" => (plainType text.toChars).tag
  | some name => name

end Reader.Properties

namespace Reader

/-! ## Nodes -/

def addNode (anchor : Option String) (node : Node) : Reader NodeId := do
  let reading ← get
  let id := reading.graph.size
  match anchor with
  | none => set { reading with graph := reading.graph.push node }
  | some name =>
    if (reading.anchors.lookup name).isSome then refuse .duplicateAnchor
    else
      set { reading with
            graph := reading.graph.push node, anchors := (name, id) :: reading.anchors }
  return id

def emptyNode : Reader NodeId :=
  addNode none { tag := StandardType.null.tag, content := .scalar [] }

def addCollection (anchor : Option String) (tag : String) (empty : Content)
    (read : Reader Content) : Reader NodeId := do
  let id ← addNode anchor { tag, content := empty }
  let content ← read
  modify fun reading => { reading with graph := reading.graph.setContent id content }
  return id

def reference (name : String) : Reader NodeId := do
  advance
  match (← get).anchors.lookup name with
  | some id => return id
  | none => refuse .undefinedAlias

/-! ## The grammar -/

structure Place where
  block : Bool
  indentless : Bool := false

mutual

/-- Reads a node.  The numbers count down; they start above the number of tokens. -/
def node : Nat → Place → Reader NodeId
  | 0, _ => refuse .strayToken
  | fuel + 1, place => do
    match ← peek with
    | some (.reference name) => reference name
    | _ => content fuel place (← properties)

/-- Reads a node after its properties.  With properties alone it is an empty scalar. -/
def content : Nat → Place → Properties → Reader NodeId
  | 0, _, _ => refuse .strayToken
  | fuel + 1, place, properties => do
    match ← peek with
    | some (.scalar text plain) =>
      advance
      addNode properties.anchor { tag := properties.scalarTag plain text, content := .scalar text }
    | some .flowSequenceStart => sequence properties (advance *> flowItems fuel true)
    | some .flowMappingStart => mapping properties (advance *> flowEntries fuel true)
    | some .blockSequenceStart =>
      if place.block then sequence properties (advance *> blockItems fuel)
      else emptyContent properties
    | some .blockMappingStart =>
      if place.block then mapping properties (advance *> blockEntries fuel)
      else emptyContent properties
    | some .blockEntry =>
      if place.indentless then sequence properties (indentlessItems fuel)
      else emptyContent properties
    | _ => emptyContent properties
where
  sequence (properties : Properties) (items : Reader (List NodeId)) : Reader NodeId :=
    addCollection properties.anchor (properties.collectionTag .seq) (.sequence [])
      (return .sequence (← items))
  mapping (properties : Properties) (entries : Reader (List NodeEntry)) : Reader NodeId :=
    addCollection properties.anchor (properties.collectionTag .map) (.mapping [])
      (return .mapping (← entries))
  emptyContent (properties : Properties) : Reader NodeId :=
    if properties.anchor.isSome || properties.tag.isSome then
      addNode properties.anchor { tag := properties.scalarTag true [], content := .scalar [] }
    else refuse .strayToken

def nodeUnless : Nat → List Token → Place → Reader NodeId
  | 0, _, _ => refuse .strayToken
  | fuel + 1, ends, place => do
    if ← isNext ends then emptyNode else node fuel place

def blockItems : Nat → Reader (List NodeId)
  | 0 => refuse .strayToken
  | fuel + 1 => do
    if ← skip .blockEntry then
      let item ← nodeUnless fuel [.blockEntry, .blockEnd] { block := true }
      return item :: (← blockItems fuel)
    else
      expect .blockEnd
      return []

def indentlessItems : Nat → Reader (List NodeId)
  | 0 => refuse .strayToken
  | fuel + 1 => do
    if ← skip .blockEntry then
      let item ← nodeUnless fuel [.blockEntry, .key, .value, .blockEnd] { block := true }
      return item :: (← indentlessItems fuel)
    else return []

def blockEntries : Nat → Reader (List NodeEntry)
  | 0 => refuse .strayToken
  | fuel + 1 => do
    let place : Place := { block := true, indentless := true }
    if ← skip .key then
      let key ← nodeUnless fuel [.key, .value, .blockEnd] place
      let value ←
        if ← skip .value then nodeUnless fuel [.key, .value, .blockEnd] place else emptyNode
      return (key, value) :: (← blockEntries fuel)
    else
      expect .blockEnd
      return []

/-- The items of a flow sequence, up to its end.  An entry of a mapping stands for a mapping
of its own. -/
def flowItems : Nat → Bool → Reader (List NodeId)
  | 0, _ => refuse .strayToken
  | fuel + 1, first => do
    if ← skip .flowSequenceEnd then return []
    if !first then expect .flowEntry
    if ← skip .flowSequenceEnd then return []
    let ends := [.flowEntry, .flowSequenceEnd]
    let item ←
      if ← isNext [.key] then
        addCollection none StandardType.map.tag (.mapping []) do
          return .mapping [← flowEntry fuel ends]
      else node fuel { block := false }
    return item :: (← flowItems fuel false)

/-- The entries of a flow mapping, up to its end.  A key alone has an empty value. -/
def flowEntries : Nat → Bool → Reader (List NodeEntry)
  | 0, _ => refuse .strayToken
  | fuel + 1, first => do
    if ← skip .flowMappingEnd then return []
    if !first then expect .flowEntry
    if ← skip .flowMappingEnd then return []
    let ends := [.flowEntry, .flowMappingEnd]
    let entry ←
      if ← isNext [.key] then flowEntry fuel ends
      else
        let key ← node fuel { block := false }
        pure (key, ← emptyNode)
    return entry :: (← flowEntries fuel false)

def flowEntry : Nat → List Token → Reader NodeEntry
  | 0, _ => refuse .strayToken
  | fuel + 1, ends => do
    expect .key
    let key ← nodeUnless fuel (.value :: ends) { block := false }
    let value ← if ← skip .value then nodeUnless fuel ends { block := false } else emptyNode
    return (key, value)

end

/-! ## Documents -/

def standardHandles : List (String × String) :=
  [("!", "!"), ("!!", standardTag)]

/-- Reads directives.  The version is that of the first ones; it is stated at most once, and a
handle is given at most once. -/
def directives : Nat → Bool → Reader Unit
  | 0, _ => refuse .strayToken
  | fuel + 1, versioned => do
    match ← peek with
    | some (.directive (.version major _)) =>
      advance
      if versioned || major != 1 then refuse .refusedDirective
      directives fuel true
    | some (.directive (.handle name start)) =>
      advance
      let reading ← get
      if (reading.handles.lookup name).isSome then refuse .refusedDirective
      set { reading with handles := (name, start) :: reading.handles }
      directives fuel versioned
    | some (.directive .other) =>
      advance
      directives fuel versioned
    | _ => pure ()

def addStandardHandles : Reader Unit :=
  modify fun reading => { reading with handles := reading.handles ++ standardHandles }

def skipEnds : Nat → Reader Unit
  | 0 => pure ()
  | fuel + 1 => do
    if ← skip .documentEnd then skipEnds fuel

def markedDocument (fuel : Nat) : Reader NodeId := do
  match ← peek with
  | none | some .documentStart | some .documentEnd | some (.directive _) => emptyNode
  | _ => node fuel { block := true }

/-- The only document of a text, if there is one.  A text without a mark before its document
may not end it before it starts. -/
def document (fuel : Nat) : Reader (Option NodeId) := do
  match ← peek with
  | none => return none
  | some .documentStart | some (.directive _) =>
    directives fuel false
    addStandardHandles
    expect .documentStart
    return some (← markedDocument fuel)
  | _ =>
    addStandardHandles
    return some (← node fuel { block := true })

def secondDocument {α : Type} (fuel : Nat) : Reader α := do
  modify fun reading => { reading with handles := [] }
  directives fuel false
  expect .documentStart
  refuse .strayToken

def singleDocument (fuel : Nat) : Reader (Option NodeId) := do
  let root ← document fuel
  skipEnds fuel
  if (← peek).isSome then secondDocument fuel else return root

end Reader

def compose (source : Source) : Except Fault (Option NodeId × Graph) := do
  let stream := tokens source
  let (root, reading) ← (Reader.singleDocument (4 * stream.tokens.length + 4)).run { stream }
  return (root, reading.graph)

end TypeCatalog.Yaml
