import TypeCatalog.Proofs.TreeScanning
import TypeCatalog.Yaml.Composition

/-!
# The graph of a document

The nodes of a document are numbered in the order of their tokens: a
collection before its content, a key before its value.  A reference adds no
node, it is the node of its anchor.
-/

namespace TypeCatalog.Document

open Text
open Yaml

/-! ## Nodes of trees -/

def scalarNode (value : Scalar) : Node :=
  ⟨(readType value).tag, .scalar (readText value).1⟩

def kindName (kind : Kind) : String :=
  "!" ++ ("compex/" ++ kind.name)

def listNode (ids : List NodeId) : Node :=
  if ids.isEmpty then ⟨StandardType.null.tag, .scalar []⟩
  else ⟨StandardType.seq.tag, .sequence ids⟩

def recordNode (kind : Kind) (entries : List NodeEntry) : Node :=
  ⟨kindName kind, if entries.isEmpty then .scalar [] else .mapping entries⟩

namespace Tree

mutual

def nodeCount : Tree → Nat
  | scalar _ | emptyList => 1
  | reference _ => 0
  | list items => 1 + itemCount items
  | record _ entries => 1 + entryCount entries

def itemCount : List Tree → Nat
  | [] => 0
  | tree :: rest => tree.nodeCount + itemCount rest

def entryCount : List Entry → Nat
  | [] => 0
  | (_, tree) :: rest => 1 + tree.nodeCount + entryCount rest

end

section Nodes

variable (find : CodeText → NodeId)

def nodeId (first : NodeId) : Tree → NodeId
  | reference anchor => find anchor
  | _ => first

def itemIds (first : NodeId) : List Tree → List NodeId
  | [] => []
  | tree :: rest => tree.nodeId find first :: itemIds (first + tree.nodeCount) rest

def entryIds (first : NodeId) : List Entry → List NodeEntry
  | [] => []
  | (_, tree) :: rest =>
    (first, tree.nodeId find (first + 1)) :: entryIds (first + (1 + tree.nodeCount)) rest

mutual

def nodes (first : NodeId) : Tree → List Node
  | scalar value => [scalarNode value]
  | reference _ => []
  | emptyList => [⟨StandardType.seq.tag, .sequence []⟩]
  | list items => listNode (itemIds find (first + 1) items) :: itemNodes (first + 1) items
  | record kind entries =>
    recordNode kind (entryIds find (first + 1) entries) :: entryNodes (first + 1) entries

def itemNodes (first : NodeId) : List Tree → List Node
  | [] => []
  | tree :: rest => tree.nodes first ++ itemNodes (first + tree.nodeCount) rest

def entryNodes (first : NodeId) : List Entry → List Node
  | [] => []
  | (key, tree) :: rest =>
    scalarNode (.text key) :: tree.nodes (first + 1) ++
      entryNodes (first + (1 + tree.nodeCount)) rest

end

end Nodes

mutual

theorem length_nodes (find : CodeText → NodeId) (first : NodeId) (tree : Tree) :
    (tree.nodes find first).length = tree.nodeCount := by
  cases tree with
  | scalar | reference | emptyList => rfl
  | list items =>
      rw [nodes, nodeCount, List.length_cons, length_itemNodes, Nat.add_comm]
  | record kind entries =>
      rw [nodes, nodeCount, List.length_cons, length_entryNodes, Nat.add_comm]

theorem length_itemNodes (find : CodeText → NodeId) (first : NodeId) (items : List Tree) :
    (itemNodes find first items).length = itemCount items := by
  cases items with
  | nil => rfl
  | cons tree rest =>
      rw [itemNodes, itemCount, List.length_append, length_nodes, length_itemNodes]

theorem length_entryNodes (find : CodeText → NodeId) (first : NodeId) (entries : List Entry) :
    (entryNodes find first entries).length = entryCount entries := by
  cases entries with
  | nil => rfl
  | cons entry rest =>
      obtain ⟨key, tree⟩ := entry
      rw [entryNodes, entryCount, List.length_append, List.length_cons, length_nodes,
        length_entryNodes, Nat.add_comm 1]

end

end Tree

/-! ## Reading tokens -/

def readingAt (tokens : List Token) (anchors : List (String × NodeId)) (graph : Graph) : Reading :=
  { stream := ⟨tokens, none⟩, handles := Reader.standardHandles, anchors, graph }

section Runs

variable {σ α β : Type} {before after : σ}

theorem bind_eq {part : StateT σ (Except Fault) α} {next : α → StateT σ (Except Fault) β} {a : α}
    (first : part before = .ok (a, after)) : (part >>= next) before = next a after := by
  change (part before >>= fun result => next result.1 result.2) = _
  rw [first]
  rfl

theorem seqRight_eq {part : StateT σ (Except Fault) α} {next : StateT σ (Except Fault) β} {a : α}
    (first : part before = .ok (a, after)) : (part *> next) before = next after :=
  bind_eq first

theorem get_eq : (get : StateT σ (Except Fault) σ) before = .ok (before, before) :=
  rfl

theorem set_eq : (set after : StateT σ (Except Fault) PUnit) before = .ok (.unit, after) :=
  rfl

end Runs

namespace Reading

open Reader

variable {after : Reading} {token expected : Token} {tokens : List Token}
  {anchors : List (String × NodeId)} {graph : Graph}

theorem peek_eq :
    peek (readingAt (token :: tokens) anchors graph) =
      .ok (some token, readingAt (token :: tokens) anchors graph) :=
  rfl

theorem advance_eq :
    advance (readingAt (token :: tokens) anchors graph) =
      .ok ((), readingAt tokens anchors graph) :=
  rfl

theorem isNext_eq (expected : List Token) :
    isNext expected (readingAt (token :: tokens) anchors graph) =
      .ok (expected.contains token, readingAt (token :: tokens) anchors graph) :=
  rfl

theorem skip_eq :
    skip token (readingAt (token :: tokens) anchors graph) =
      .ok (true, readingAt tokens anchors graph) := by
  rw [skip, bind_eq (isNext_eq _)]
  simp only [List.contains_cons, beq_self_eq_true, Bool.true_or, ↓reduceIte]
  rw [bind_eq advance_eq]
  rfl

theorem skip_other (different : token ≠ expected) :
    skip expected (readingAt (token :: tokens) anchors graph) =
      .ok (false, readingAt (token :: tokens) anchors graph) := by
  rw [skip, bind_eq (isNext_eq _)]
  simp [different]
  rfl

theorem expect_eq :
    expect token (readingAt (token :: tokens) anchors graph) =
      .ok ((), readingAt tokens anchors graph) := by
  rw [expect, bind_eq skip_eq]
  rfl

/-! ## Properties -/

def IsPlainToken : Token → Prop
  | .anchor _ | .tag _ | .reference _ => False
  | _ => True

theorem anchor?_none (bare : ∀ name, token ≠ .anchor name) :
    anchor? (readingAt (token :: tokens) anchors graph) =
      .ok (none, readingAt (token :: tokens) anchors graph) := by
  rw [anchor?, bind_eq peek_eq]
  cases token with
  | anchor name => exact absurd rfl (bare name)
  | _ => rfl

theorem writtenTag?_none (bare : ∀ tag, token ≠ .tag tag) :
    writtenTag? (readingAt (token :: tokens) anchors graph) =
      .ok (none, readingAt (token :: tokens) anchors graph) := by
  rw [writtenTag?, bind_eq peek_eq]
  cases token with
  | tag tag => exact absurd rfl (bare tag)
  | _ => rfl

theorem writtenTag?_tag {tag : WrittenTag} :
    writtenTag? (readingAt (.tag tag :: tokens) anchors graph) =
      .ok (some tag, readingAt tokens anchors graph) :=
  rfl

theorem properties_none (bare : IsPlainToken token) :
    properties (readingAt (token :: tokens) anchors graph) =
      .ok ({}, readingAt (token :: tokens) anchors graph) := by
  have no_anchor (name : String) : token ≠ .anchor name := by
    rintro rfl
    exact bare
  have no_tag (tag : WrittenTag) : token ≠ .tag tag := by
    rintro rfl
    exact bare
  rw [properties, bind_eq (anchor?_none no_anchor)]
  exact bind_eq (writtenTag?_none no_tag)

theorem properties_tag (kind : Kind) (bare : ∀ name, token ≠ .anchor name) :
    properties (readingAt (.tag (kindTag kind) :: token :: tokens) anchors graph) =
      .ok ({ tag := some (kindName kind) }, readingAt (token :: tokens) anchors graph) := by
  rw [properties, bind_eq (anchor?_none (by simp))]
  refine (bind_eq writtenTag?_tag).trans ?_
  exact bind_eq (anchor?_none bare)

theorem properties_anchor (kind : Kind) (name : String) :
    properties (readingAt (.anchor name :: .tag (kindTag kind) :: tokens) anchors graph) =
      .ok ({ anchor := some name, tag := some (kindName kind) },
        readingAt tokens anchors graph) :=
  rfl

/-! ## Nodes -/

theorem node_eq {fuel : Nat} {place : Reader.Place} {properties : Properties}
    (apart : ∀ name, token ≠ .reference name)
    (first : Reader.properties (readingAt (token :: tokens) anchors graph) =
      .ok (properties, after)) :
    node (fuel + 1) place (readingAt (token :: tokens) anchors graph) =
      content fuel place properties after := by
  rw [node, bind_eq peek_eq]
  cases token with
  | reference name => exact absurd rfl (apart name)
  | _ => exact bind_eq first

theorem node_plain {fuel : Nat} {place : Reader.Place} (bare : IsPlainToken token) :
    node (fuel + 1) place (readingAt (token :: tokens) anchors graph) =
      content fuel place {} (readingAt (token :: tokens) anchors graph) := by
  refine node_eq ?_ (properties_none bare)
  rintro name rfl
  exact bare

theorem node_reference {fuel : Nat} {place : Reader.Place} {name : String} {id : NodeId}
    (found : anchors.lookup name = some id) :
    node (fuel + 1) place (readingAt (.reference name :: tokens) anchors graph) =
      .ok (id, readingAt tokens anchors graph) := by
  rw [node, bind_eq peek_eq]
  change (reference name) _ = _
  rw [reference, bind_eq advance_eq]
  refine (bind_eq get_eq).trans ?_
  rw [show (readingAt tokens anchors graph).anchors = anchors from rfl, found]
  rfl

def withAnchor (anchor : Option String) (id : NodeId) (anchors : List (String × NodeId)) :
    List (String × NodeId) :=
  (anchor.map (·, id)).toList ++ anchors

theorem addNode_eq {anchor : Option String} (node : Node)
    (fresh : ∀ name, anchor = some name → anchors.lookup name = none) :
    addNode anchor node (readingAt tokens anchors graph) =
      .ok (graph.size, readingAt tokens (withAnchor anchor graph.size anchors) (graph.push node)) := by
  cases anchor with
  | none => rfl
  | some name =>
      have unknown : ((readingAt tokens anchors graph).anchors.lookup name).isSome = false := by
        rw [show (readingAt tokens anchors graph).anchors = anchors from rfl, fresh name rfl]
        rfl
      rw [addNode, bind_eq get_eq]
      simp only [unknown, Bool.false_eq_true, ↓reduceIte]
      rfl

theorem setContent_push (node : Node) (content : Content) (more : List Node) :
    Graph.setContent (graph.push node ++ more.toArray) graph.size content =
      graph.push ⟨node.tag, content⟩ ++ more.toArray := by
  have tag_eq : Graph.tagOf (graph.push node ++ more.toArray) graph.size = node.tag := by
    simp [Graph.tagOf]
  rw [Graph.setContent, tag_eq]
  apply Array.ext'
  simp

theorem addCollection_eq {anchor : Option String} {tag : String} {empty content : Content}
    {read : Reader Content} {rest : List Token} {known : List (String × NodeId)} {more : List Node}
    (fresh : ∀ name, anchor = some name → anchors.lookup name = none)
    (inside : read (readingAt tokens (withAnchor anchor graph.size anchors)
      (graph.push ⟨tag, empty⟩)) =
        .ok (content, readingAt rest known (graph.push ⟨tag, empty⟩ ++ more.toArray))) :
    addCollection anchor tag empty read (readingAt tokens anchors graph) =
      .ok (graph.size, readingAt rest known (graph.push ⟨tag, content⟩ ++ more.toArray)) := by
  rw [addCollection, bind_eq (addNode_eq _ fresh), bind_eq inside]
  change Except.ok (graph.size, readingAt rest known
    (Graph.setContent (graph.push ⟨tag, empty⟩ ++ more.toArray) graph.size content)) = _
  rw [setContent_push]

theorem content_scalar {fuel : Nat} {place : Reader.Place} (value : Document.Scalar) :
    content (fuel + 1) place {}
        (readingAt (.scalar (readText value).1 (readText value).2 :: tokens) anchors graph) =
      .ok (graph.size, readingAt tokens anchors (graph.push (scalarNode value))) := by
  have tag_eq : Properties.scalarTag {} (readText value).2 (readText value).1 =
      (readType value).tag := by
    cases plain : (readText value).2 with
    | true => exact congrArg StandardType.tag (plainType_readText plain)
    | false => rw [readType_of_quoted plain]; rfl
  rw [content, bind_eq peek_eq]
  refine (bind_eq advance_eq).trans ?_
  rw [tag_eq]
  rfl

theorem sequence_eq {items : Reader (List NodeId)} {ids : List NodeId} {rest : List Token}
    {more : List Node}
    (inside : items (readingAt tokens anchors (graph.push ⟨StandardType.seq.tag, .sequence []⟩)) =
        .ok (ids, readingAt rest anchors
          (graph.push ⟨StandardType.seq.tag, .sequence []⟩ ++ more.toArray))) :
    content.sequence {} items (readingAt tokens anchors graph) =
      .ok (graph.size, readingAt rest anchors
        (graph.push ⟨StandardType.seq.tag, .sequence ids⟩ ++ more.toArray)) :=
  addCollection_eq (by simp) (bind_eq inside)

theorem content_sequence {fuel : Nat} {place : Reader.Place} {ids : List NodeId} {rest : List Token}
    {more : List Node} (placed : place.block = true)
    (inside : blockItems fuel (readingAt tokens anchors
      (graph.push ⟨StandardType.seq.tag, .sequence []⟩)) =
        .ok (ids, readingAt rest anchors
          (graph.push ⟨StandardType.seq.tag, .sequence []⟩ ++ more.toArray))) :
    content (fuel + 1) place {} (readingAt (.blockSequenceStart :: tokens) anchors graph) =
      .ok (graph.size, readingAt rest anchors
        (graph.push ⟨StandardType.seq.tag, .sequence ids⟩ ++ more.toArray)) := by
  rw [content, bind_eq peek_eq]
  simp only [placed, ↓reduceIte]
  exact sequence_eq ((seqRight_eq advance_eq).trans inside)

theorem content_emptyList {fuel : Nat} {place : Reader.Place} :
    content (fuel + 2) place {}
        (readingAt (.flowSequenceStart :: .flowSequenceEnd :: tokens) anchors graph) =
      .ok (graph.size, readingAt tokens anchors
        (graph.push ⟨StandardType.seq.tag, .sequence []⟩)) := by
  have none_left (graph : Graph) :
      flowItems (fuel + 1) true (readingAt (.flowSequenceEnd :: tokens) anchors graph) =
        .ok ([], readingAt tokens anchors (graph ++ [].toArray)) := by
    rw [flowItems, bind_eq skip_eq, Array.append_empty]
    rfl
  have read := @sequence_eq (.flowSequenceStart :: .flowSequenceEnd :: tokens) anchors graph _ _ _ _
    ((seqRight_eq advance_eq).trans (none_left _))
  rw [Array.append_empty] at read
  rw [content, bind_eq peek_eq]
  exact read

theorem content_mapping {fuel : Nat} {place : Reader.Place} {properties : Properties}
    {entries : List NodeEntry} {rest : List Token} {known : List (String × NodeId)}
    {more : List Node} (placed : place.block = true)
    (fresh : ∀ name, properties.anchor = some name → anchors.lookup name = none)
    (inside : blockEntries fuel (readingAt tokens (withAnchor properties.anchor graph.size anchors)
      (graph.push ⟨properties.collectionTag .map, .mapping []⟩)) =
        .ok (entries, readingAt rest known
          (graph.push ⟨properties.collectionTag .map, .mapping []⟩ ++ more.toArray))) :
    content (fuel + 1) place properties (readingAt (.blockMappingStart :: tokens) anchors graph) =
      .ok (graph.size, readingAt rest known
        (graph.push ⟨properties.collectionTag .map, .mapping entries⟩ ++ more.toArray)) := by
  rw [content, bind_eq peek_eq]
  simp only [placed, ↓reduceIte]
  refine addCollection_eq fresh ?_
  exact bind_eq ((seqRight_eq advance_eq).trans inside)

theorem content_properties {fuel : Nat} {place : Reader.Place} (anchor : Option String)
    (kind : Kind)
    (fresh : ∀ name, anchor = some name → anchors.lookup name = none)
    (ended : token = .blockEnd ∨ token = .key ∨ token = .blockEntry ∧ place.indentless = false) :
    content (fuel + 1) place { anchor, tag := some (kindName kind) }
        (readingAt (token :: tokens) anchors graph) =
      .ok (graph.size, readingAt (token :: tokens) (withAnchor anchor graph.size anchors)
        (graph.push ⟨kindName kind, .scalar []⟩)) := by
  have tag_eq : Properties.scalarTag { anchor, tag := some (kindName kind) } true [] =
      kindName kind := by
    cases kind <;> rfl
  have empty : content.emptyContent { anchor, tag := some (kindName kind) }
      (readingAt (token :: tokens) anchors graph) =
        .ok (graph.size, readingAt (token :: tokens) (withAnchor anchor graph.size anchors)
          (graph.push ⟨kindName kind, .scalar []⟩)) := by
    rw [content.emptyContent, tag_eq]
    simp only [Option.isSome_some, Bool.or_true, ↓reduceIte]
    exact addNode_eq _ fresh
  rw [content, bind_eq peek_eq]
  rcases ended with rfl | rfl | ⟨rfl, level⟩
  · exact empty
  · exact empty
  · simp only [level, Bool.false_eq_true, ↓reduceIte]
    exact empty

theorem nodeUnless_end {fuel : Nat} {ends : List Token} {place : Reader.Place}
    (ended : token ∈ ends) :
    nodeUnless (fuel + 1) ends place (readingAt (token :: tokens) anchors graph) =
      .ok (graph.size, readingAt (token :: tokens) anchors
        (graph.push ⟨StandardType.null.tag, .scalar []⟩)) := by
  rw [nodeUnless, bind_eq (isNext_eq ends)]
  simp only [List.contains_iff_mem.mpr ended, ↓reduceIte]
  exact addNode_eq _ (by simp)

theorem nodeUnless_eq {fuel : Nat} {ends : List Token} {place : Reader.Place}
    (inside : token ∉ ends) :
    nodeUnless (fuel + 1) ends place (readingAt (token :: tokens) anchors graph) =
      node fuel place (readingAt (token :: tokens) anchors graph) := by
  rw [nodeUnless, bind_eq (isNext_eq ends)]
  simp [inside]

theorem nodeUnless_scalar {fuel : Nat} {ends : List Token} {place : Reader.Place}
    (value : Document.Scalar) (apart : ∀ text plain, .scalar text plain ∉ ends) :
    nodeUnless (fuel + 3) ends place
        (readingAt (.scalar (readText value).1 (readText value).2 :: tokens) anchors graph) =
      .ok (graph.size, readingAt tokens anchors (graph.push (scalarNode value))) := by
  rw [nodeUnless_eq (apart _ _)]
  exact (node_plain (by trivial)).trans (content_scalar value)

theorem blockItems_cons {fuel : Nat} {id : NodeId} {ids : List NodeId} {after final : Reading}
    (item : nodeUnless fuel [.blockEntry, .blockEnd] { block := true }
      (readingAt tokens anchors graph) = .ok (id, after))
    (others : blockItems fuel after = .ok (ids, final)) :
    blockItems (fuel + 1) (readingAt (.blockEntry :: tokens) anchors graph) =
      .ok (id :: ids, final) := by
  rw [blockItems, bind_eq skip_eq]
  simp only [↓reduceIte]
  rw [bind_eq item, bind_eq others]
  rfl

theorem blockItems_nil {fuel : Nat} :
    blockItems (fuel + 1) (readingAt (.blockEnd :: tokens) anchors graph) =
      .ok ([], readingAt tokens anchors graph) := by
  rw [blockItems, bind_eq (skip_other (by simp))]
  simp only [Bool.false_eq_true, ↓reduceIte]
  rw [bind_eq expect_eq]
  rfl

theorem blockEntries_cons {fuel : Nat} {key : CodeText} {id : NodeId} {entries : List NodeEntry}
    {after final : Reading}
    (value : nodeUnless (fuel + 3) [.key, .value, .blockEnd] { block := true, indentless := true }
      (readingAt tokens anchors (graph.push (scalarNode (.text key)))) = .ok (id, after))
    (others : blockEntries (fuel + 3) after = .ok (entries, final)) :
    blockEntries (fuel + 4)
        (readingAt (.key :: .scalar key (isWrittenPlain key) :: .value :: tokens) anchors graph) =
      .ok ((graph.size, id) :: entries, final) := by
  have key_read : nodeUnless (fuel + 3) [.key, .value, .blockEnd] { block := true, indentless := true }
      (readingAt (.scalar key (isWrittenPlain key) :: .value :: tokens) anchors graph) =
        .ok (graph.size, readingAt (.value :: tokens) anchors
          (graph.push (scalarNode (.text key)))) :=
    nodeUnless_scalar (.text key) (by simp)
  rw [blockEntries, bind_eq skip_eq]
  simp only [↓reduceIte]
  rw [bind_eq key_read]
  refine (bind_eq skip_eq).trans ?_
  simp only [↓reduceIte]
  rw [bind_eq value, bind_eq others]
  rfl

theorem blockEntries_nil {fuel : Nat} :
    blockEntries (fuel + 1) (readingAt (.blockEnd :: tokens) anchors graph) =
      .ok ([], readingAt tokens anchors graph) := by
  rw [blockEntries, bind_eq (skip_other (by simp))]
  simp only [Bool.false_eq_true, ↓reduceIte]
  rw [bind_eq expect_eq]
  rfl

end Reading

/-! ## From tokens to nodes -/

def Resolves (anchors : List (String × NodeId)) (known : List CodeText) (find : CodeText → NodeId) :
    Prop :=
  ∀ anchor ∈ known, IsAnchor anchor →
    anchors.lookup (String.ofList anchor.toChars) = some (find anchor)

namespace Tree

open Reading Reader

variable {known : List CodeText} {find : CodeText → NodeId} {anchors : List (String × NodeId)}

/-- A list without lines has no token; another tree starts with a token that no block ends with
and no entry starts with. -/
theorem exists_cons_tokens (tree : Tree) :
    tree = .list [] ∨ ∃ token tokens, tree.tokens = token :: tokens ∧
      token ∉ [Token.blockEntry, .key, .value, .blockEnd] := by
  cases tree with
  | list items =>
      cases items with
      | nil => exact .inl rfl
      | cons => exact .inr ⟨_, _, rfl, by simp⟩
  | _ => exact .inr ⟨_, _, rfl, by simp⟩

theorem nodeUnless_tree {tree : Tree} (ends : List Token) {place : Reader.Place} {next : Token}
    {rest : List Token} {graph : Graph} {fuel : Nat} (ended : next ∈ ends)
    (inside : ends ⊆ [.blockEntry, .key, .value, .blockEnd])
    (read : tree.tokens ≠ [] → node fuel place (readingAt (tree.tokens ++ next :: rest) anchors graph) =
      .ok (tree.nodeId find graph.size,
        readingAt (next :: rest) anchors (graph ++ (tree.nodes find graph.size).toArray))) :
    nodeUnless (fuel + 1) ends place (readingAt (tree.tokens ++ next :: rest) anchors graph) =
      .ok (tree.nodeId find graph.size,
        readingAt (next :: rest) anchors (graph ++ (tree.nodes find graph.size).toArray)) := by
  rcases tree.exists_cons_tokens with rfl | ⟨token, tokens, tokens_eq, apart⟩
  · exact (nodeUnless_end ended).trans (by simp [nodes, itemNodes, itemIds, listNode, nodeId])
  · rw [← read (by simp [tokens_eq]), tokens_eq]
    exact nodeUnless_eq fun mem => apart (inside mem)

theorem content_record (anchor : Option String) (kind : Kind) (entries : List Entry)
    {place : Reader.Place}
    (placed : place.block = true) {graph : Graph} {next : Token} {rest : List Token} {fuel : Nat}
    (ended : next = .blockEnd ∨ next = .key ∨ next = .blockEntry ∧ place.indentless = false)
    (fresh : ∀ name, anchor = some name → anchors.lookup name = none)
    (inside : blockEntries fuel
        (readingAt (entryTokens entries ++ .blockEnd :: next :: rest)
          (withAnchor anchor graph.size anchors) (graph.push ⟨kindName kind, .mapping []⟩)) =
      .ok (entryIds find (graph.size + 1) entries,
        readingAt (next :: rest) (withAnchor anchor graph.size anchors)
          (graph.push ⟨kindName kind, .mapping []⟩ ++
            (entryNodes find (graph.size + 1) entries).toArray))) :
    content (fuel + 1) place { anchor, tag := some (kindName kind) }
        (readingAt (blockTokens .blockMappingStart (entryTokens entries) ++ next :: rest) anchors
          graph) =
      .ok (graph.size, readingAt (next :: rest) (withAnchor anchor graph.size anchors)
        (graph ++ ((record kind entries).nodes find graph.size).toArray)) := by
  have tag_eq : Properties.collectionTag { anchor, tag := some (kindName kind) } .map =
      kindName kind := by
    cases kind <;> rfl
  cases entries with
  | nil =>
      refine (content_properties anchor kind fresh ended).trans ?_
      simp [nodes, entryNodes, entryIds, recordNode]
  | cons entry others =>
      have start_eq : blockTokens .blockMappingStart (entryTokens (entry :: others)) ++ next :: rest =
          .blockMappingStart :: (entryTokens (entry :: others) ++ .blockEnd :: next :: rest) := by
        simp [blockTokens, entryTokens]
      rw [start_eq, content_mapping placed fresh (by rw [tag_eq]; exact inside), tag_eq]
      simp [nodes, recordNode, entryIds]

theorem properties_record (kind : Kind) (entries : List Entry) {next : Token} {rest : List Token}
    {graph : Graph} (bare : ∀ name, next ≠ .anchor name) :
    properties (readingAt ((record kind entries).tokens ++ next :: rest) anchors graph) =
      .ok ({ tag := some (kindName kind) },
        readingAt (blockTokens .blockMappingStart (entryTokens entries) ++ next :: rest) anchors
          graph) := by
  cases entries with
  | nil => exact properties_tag kind bare
  | cons => exact properties_tag kind (by simp)

theorem length_entryTokens_lt (kind : Kind) (entries : List Entry) :
    (entryTokens entries).length < (record kind entries).tokens.length := by
  cases entries with
  | nil => simp [entryTokens, tokens]
  | cons entry others =>
      simp only [tokens_record kind (List.cons_ne_nil entry others), List.length_cons,
        List.length_append]
      omega

mutual

theorem node_tokens (tree : Tree) (proper : tree.WellFormed known)
    (resolves : Resolves anchors known find) (graph : Graph) (place : Reader.Place)
    (placed : place.block = true) (next : Token) (rest : List Token) (fuel : Nat)
    (ended : next = .blockEnd ∨ next = .key ∨ next = .blockEntry ∧ place.indentless = false)
    (enough : 4 * tree.tokens.length ≤ fuel) (shown : tree.tokens ≠ []) :
    node fuel place (readingAt (tree.tokens ++ next :: rest) anchors graph) =
      .ok (tree.nodeId find graph.size,
        readingAt (next :: rest) anchors (graph ++ (tree.nodes find graph.size).toArray)) := by
  cases tree with
  | scalar value =>
      obtain ⟨fuel, rfl⟩ := Nat.exists_eq_add_of_le' (Nat.le_trans (by decide : 2 ≤ 4) enough)
      exact (node_plain (by trivial)).trans (content_scalar value)
  | reference anchor =>
      obtain ⟨fuel, rfl⟩ := Nat.exists_eq_add_of_le' (Nat.le_trans (by decide : 1 ≤ 4) enough)
      refine (node_reference (resolves anchor proper.2 proper.1)).trans ?_
      simp [nodes, nodeId]
  | emptyList =>
      obtain ⟨fuel, rfl⟩ := Nat.exists_eq_add_of_le' (Nat.le_trans (by decide : 3 ≤ 8) enough)
      exact (node_plain (by trivial)).trans content_emptyList
  | list items =>
      cases items with
      | nil => exact absurd rfl shown
      | cons item others =>
          have tokens_eq := tokens_list (List.cons_ne_nil item others)
          have size_eq : (list (item :: others)).tokens.length =
              (itemTokens (item :: others)).length + 2 := by
            simp [tokens_eq]
          obtain ⟨fuel, rfl⟩ := Nat.exists_eq_add_of_le' (n := fuel) (m := 2) (by omega)
          have inside := items_tokens (item :: others) proper resolves
            (graph.push ⟨StandardType.seq.tag, .sequence []⟩) (next :: rest) fuel (by omega)
          have start_eq : (list (item :: others)).tokens ++ next :: rest =
              .blockSequenceStart :: (itemTokens (item :: others) ++ .blockEnd :: next :: rest) := by
            simp [tokens_eq]
          rw [start_eq]
          refine (node_plain (by trivial)).trans ((content_sequence placed inside).trans ?_)
          simp [nodes, nodeId, listNode, itemIds]
  | record kind entries =>
      have within := length_entryTokens_lt kind entries
      obtain ⟨fuel, rfl⟩ := Nat.exists_eq_add_of_le' (n := fuel) (m := 2) (by omega)
      have inside := entries_tokens entries proper.2 resolves
        (graph.push ⟨kindName kind, .mapping []⟩) (next :: rest) fuel (by omega)
      rw [Array.size_push] at inside
      have bare (name : String) : next ≠ .anchor name := by
        rintro rfl
        simp at ended
      refine (node_eq (by simp) (properties_record kind entries bare)).trans ?_
      exact content_record none kind entries placed ended (by simp) inside

theorem items_tokens (items : List Tree) (proper : ItemsWellFormed known items)
    (resolves : Resolves anchors known find) (graph : Graph) (rest : List Token) (fuel : Nat)
    (enough : 4 * (itemTokens items).length + 2 ≤ fuel) :
    blockItems fuel (readingAt (itemTokens items ++ .blockEnd :: rest) anchors graph) =
      .ok (itemIds find graph.size items,
        readingAt rest anchors (graph ++ (itemNodes find graph.size items).toArray)) := by
  cases items with
  | nil =>
      obtain ⟨fuel, rfl⟩ := Nat.exists_eq_add_of_le' (Nat.le_trans (by decide : 1 ≤ 2) enough)
      exact blockItems_nil.trans (by simp [itemIds, itemNodes])
  | cons tree others =>
      obtain ⟨-, tree_proper, others_proper⟩ := proper
      have size_eq : (itemTokens (tree :: others)).length =
          tree.tokens.length + (itemTokens others).length + 1 := by
        simp [itemTokens]
      obtain ⟨fuel, rfl⟩ := Nat.exists_eq_add_of_le' (n := fuel) (m := 2) (by omega)
      obtain ⟨next, more, next_eq, ended⟩ : ∃ next more,
          itemTokens others ++ .blockEnd :: rest = next :: more ∧
            (next = .blockEntry ∨ next = .blockEnd) := by
        cases others <;> exact ⟨_, _, rfl, by simp⟩
      have item := node_tokens tree tree_proper resolves graph { block := true } rfl next more
        fuel (by rcases ended with rfl | rfl <;> simp) (by omega)
      have later := items_tokens others others_proper resolves
        (graph ++ (tree.nodes find graph.size).toArray) rest (fuel + 1) (by omega)
      have start_eq : itemTokens (tree :: others) ++ .blockEnd :: rest =
          .blockEntry :: (tree.tokens ++ next :: more) := by
        simp [itemTokens, next_eq]
      rw [next_eq] at later
      rw [start_eq]
      refine (blockItems_cons (nodeUnless_tree _ ?_ (by simp) item) later).trans ?_
      · rcases ended with rfl | rfl <;> simp
      · simp [itemIds, itemNodes, length_nodes]

theorem entries_tokens (entries : List Entry) (proper : EntriesWellFormed known entries)
    (resolves : Resolves anchors known find) (graph : Graph) (rest : List Token) (fuel : Nat)
    (enough : 4 * (entryTokens entries).length + 2 ≤ fuel) :
    blockEntries fuel (readingAt (entryTokens entries ++ .blockEnd :: rest) anchors graph) =
      .ok (entryIds find graph.size entries,
        readingAt rest anchors (graph ++ (entryNodes find graph.size entries).toArray)) := by
  cases entries with
  | nil =>
      obtain ⟨fuel, rfl⟩ := Nat.exists_eq_add_of_le' (Nat.le_trans (by decide : 1 ≤ 2) enough)
      exact blockEntries_nil.trans (by simp [entryIds, entryNodes])
  | cons entry others =>
      obtain ⟨key, tree⟩ := entry
      obtain ⟨tree_proper, others_proper⟩ := proper
      have size_eq : (entryTokens ((key, tree) :: others)).length =
          tree.tokens.length + (entryTokens others).length + 3 := by
        simp [entryTokens]
      obtain ⟨fuel, rfl⟩ := Nat.exists_eq_add_of_le' (n := fuel) (m := 4) (by omega)
      obtain ⟨next, more, next_eq, ended⟩ : ∃ next more,
          entryTokens others ++ .blockEnd :: rest = next :: more ∧
            (next = .key ∨ next = .blockEnd) := by
        cases others <;> exact ⟨_, _, rfl, by simp⟩
      have value := node_tokens tree tree_proper resolves (graph.push (scalarNode (.text key)))
        { block := true, indentless := true } rfl next more (fuel + 2)
        (by rcases ended with rfl | rfl <;> simp) (by omega)
      have later := entries_tokens others others_proper resolves
        (graph.push (scalarNode (.text key)) ++ (tree.nodes find (graph.size + 1)).toArray)
        rest (fuel + 3) (by omega)
      have start_eq : entryTokens ((key, tree) :: others) ++ .blockEnd :: rest =
          .key :: .scalar key (isWrittenPlain key) :: .value :: (tree.tokens ++ next :: more) := by
        simp [entryTokens, next_eq]
      have read := nodeUnless_tree [.key, .value, .blockEnd]
        (by rcases ended with rfl | rfl <;> simp) (by simp) value
      rw [Array.size_push] at read
      rw [next_eq] at later
      rw [start_eq]
      refine (blockEntries_cons read later).trans ?_
      simp [entryIds, entryNodes, length_nodes, Nat.add_comm tree.nodeCount]

end

end Tree

/-! ## Blocks -/

namespace Block

open Reading Reader

def entry (block : Block) : Entry :=
  (block.key, .record block.kind block.entries)

/-- Blocks that can be read in a row: they refer to earlier ones, and no anchor is defined
twice. -/
def Readable (known : List CodeText) : List Block → Prop
  | [] => True
  | block :: rest =>
    block.WellFormed known ∧ (∀ anchor, block.anchor = some anchor → anchor ∉ known) ∧
      Readable (block.anchor.toList ++ known) rest

section Places

variable {α : Type} (place : Nat → Block → α) (size : Block → Nat)

def Located (find : CodeText → α) (first : Nat) : List Block → Prop
  | [] => True
  | block :: rest =>
    (∀ anchor, block.anchor = some anchor → find anchor = place first block) ∧
      Located find (first + size block) rest

def locate [Inhabited α] (first : Nat) : List Block → CodeText → α
  | [], _ => default
  | block :: rest, anchor =>
    if block.anchor = some anchor then place first block
    else locate (first + size block) rest anchor

end Places

def recordNode (first : Nat) (_ : Block) : NodeId :=
  first + 1

def nodeSize (block : Block) : Nat :=
  1 + block.entry.2.nodeCount

theorem Readable.wellFormed {known : List CodeText} {blocks : List Block}
    (readable : Readable known blocks) : ∀ block ∈ blocks, ∃ known, block.WellFormed known := by
  induction blocks generalizing known with
  | nil => simp
  | cons block rest ih =>
      obtain ⟨first, -, others⟩ := readable
      intro other mem
      rcases List.mem_cons.mp mem with rfl | mem
      · exact ⟨known, first⟩
      · exact ih others other mem

theorem Readable.notMem {known : List CodeText} {blocks : List Block}
    (readable : Readable known blocks) {block : Block} (mem : block ∈ blocks) {anchor : CodeText}
    (anchored : block.anchor = some anchor) : anchor ∉ known := by
  induction blocks generalizing known with
  | nil => cases mem
  | cons first rest ih =>
      obtain ⟨-, fresh, others⟩ := readable
      rcases List.mem_cons.mp mem with rfl | mem
      · exact fresh anchor anchored
      · exact fun held => ih others mem (List.mem_append_right _ held)

section Places

variable {α : Type} {place : Nat → Block → α} {size : Block → Nat}

theorem Located.congr {find other : CodeText → α} {first : Nat} {blocks : List Block}
    (located : Located place size find first blocks)
    (same : ∀ block ∈ blocks, ∀ anchor, block.anchor = some anchor → other anchor = find anchor) :
    Located place size other first blocks := by
  induction blocks generalizing first with
  | nil => trivial
  | cons block rest ih =>
      refine ⟨fun anchor anchored => ?_, ih located.2 fun next mem => same next (by simp [mem])⟩
      rw [same block (by simp) anchor anchored, located.1 anchor anchored]

theorem Readable.located [Inhabited α] {known : List CodeText} {blocks : List Block}
    (readable : Readable known blocks) (place : Nat → Block → α) (size : Block → Nat)
    (first : Nat) : Located place size (locate place size first blocks) first blocks := by
  induction blocks generalizing known first with
  | nil => trivial
  | cons block rest ih =>
      obtain ⟨-, -, others⟩ := readable
      refine ⟨fun anchor anchored => if_pos anchored, ?_⟩
      refine (ih others _).congr fun next mem anchor anchored => if_neg fun same => ?_
      exact others.notMem mem anchored (by simp [same])

end Places

end Block

theorem IsAnchor.eq_of_name {first second : CodeText} (first_proper : IsAnchor first)
    (second_proper : IsAnchor second)
    (same : String.ofList first.toChars = String.ofList second.toChars) : first = second := by
  obtain ⟨first_chars, rfl, -, -⟩ := first_proper
  obtain ⟨second_chars, rfl, -, -⟩ := second_proper
  rw [toChars_ofChars, toChars_ofChars] at same
  rw [String.ofList_injective same]

structure Knows (anchors : List (String × NodeId)) (known : List CodeText)
    (find : CodeText → NodeId) : Prop where
  resolves : Resolves anchors known find
  unknown : ∀ anchor ∉ known, IsAnchor anchor →
    anchors.lookup (String.ofList anchor.toChars) = none

theorem Knows.withAnchor {anchors : List (String × NodeId)} {known : List CodeText}
    {find : CodeText → NodeId} (knows : Knows anchors known find) {block : Block} {id : NodeId}
    (anchored : ∀ anchor, block.anchor = some anchor → IsAnchor anchor ∧ find anchor = id) :
    Knows (Reading.withAnchor (block.anchor.map fun anchor => String.ofList anchor.toChars) id
      anchors) (block.anchor.toList ++ known) find := by
  cases anchor_eq : block.anchor with
  | none => exact knows
  | some own =>
      obtain ⟨own_proper, rfl⟩ := anchored own anchor_eq
      have lookup_eq (anchor : CodeText) (proper : IsAnchor anchor) :
          (Reading.withAnchor (some (String.ofList own.toChars)) (find own) anchors).lookup
            (String.ofList anchor.toChars) =
          if anchor = own then some (find own)
          else anchors.lookup (String.ofList anchor.toChars) := by
        change List.lookup _ ((String.ofList own.toChars, find own) :: anchors) = _
        rw [List.lookup_cons]
        by_cases same : anchor = own
        · subst same
          simp
        · have different : (String.ofList anchor.toChars == String.ofList own.toChars) = false :=
            beq_false_of_ne fun names => same (proper.eq_of_name own_proper names)
          simp [same, different]
      refine ⟨fun anchor mem proper => ?_, fun anchor absent proper => ?_⟩
      · refine (lookup_eq anchor proper).trans ?_
        by_cases same : anchor = own
        · rw [if_pos same, same]
        · have mem : anchor ∈ known := by simpa [same] using mem
          rw [if_neg same, knows.resolves anchor mem proper]
      · have apart : anchor ≠ own ∧ anchor ∉ known := by simpa using absent
        refine (lookup_eq anchor proper).trans ?_
        rw [if_neg apart.1, knows.unknown anchor apart.2 proper]

namespace Block

open Reading Reader

variable {known : List CodeText} {find : CodeText → NodeId} {anchors : List (String × NodeId)}

theorem node_block {block : Block} (proper : block.WellFormed known)
    (fresh : ∀ anchor, block.anchor = some anchor → anchor ∉ known)
    (knows : Knows anchors known find) (graph : Graph)
    (located : ∀ anchor, block.anchor = some anchor → find anchor = graph.size)
    (place : Reader.Place) (placed : place.block = true) (next : Token) (rest : List Token)
    (fuel : Nat)
    (ended : next = .blockEnd ∨ next = .key)
    (enough : 4 * block.entry.2.tokens.length ≤ fuel) :
    node fuel place
        (readingAt (block.anchorTokens ++ block.entry.2.tokens ++ next :: rest) anchors graph) =
      .ok (graph.size, readingAt (next :: rest)
        (Reading.withAnchor (block.anchor.map fun anchor => String.ofList anchor.toChars) graph.size
          anchors)
        (graph ++ (block.entry.2.nodes find graph.size).toArray)) := by
  have ended : next = .blockEnd ∨ next = .key ∨ next = .blockEntry ∧ place.indentless = false :=
    ended.imp_right .inl
  obtain ⟨key, kind, anchor, entries⟩ := block
  cases anchor with
  | none =>
      exact Tree.node_tokens _ proper.inside knows.resolves graph place placed next rest fuel ended
        enough (by simp [Tree.tokens])
  | some anchor =>
      have within := Tree.length_entryTokens_lt kind entries
      simp only [entry] at enough
      obtain ⟨fuel, rfl⟩ := Nat.exists_eq_add_of_le' (n := fuel) (m := 2) (by omega)
      have own_proper := proper.anchored anchor rfl
      have own_fresh := knows.unknown anchor (fresh anchor rfl) own_proper
      have knows_own := @Knows.withAnchor _ _ _ knows ⟨key, kind, some anchor, entries⟩ graph.size
        fun other anchored => ⟨proper.anchored other anchored, located other anchored⟩
      have resolves : Resolves _ known find :=
        fun other mem => knows_own.resolves other (List.mem_append_right _ mem)
      have inside := Tree.entries_tokens entries proper.inside.2 resolves
        (graph.push ⟨kindName kind, .mapping []⟩) (next :: rest) fuel (by omega)
      rw [Array.size_push] at inside
      refine (node_eq (by simp) (properties_anchor kind _)).trans ?_
      exact Tree.content_record (some _) kind entries placed ended (by simpa using own_fresh) inside

theorem entries_blocks (blocks : List Block) (readable : Readable known blocks)
    (knows : Knows anchors known find) (graph : Graph)
    (located : Located recordNode nodeSize find graph.size blocks)
    (rest : List Token) (fuel : Nat)
    (enough : 4 * (blocks.flatMap Block.tokens).length + 2 ≤ fuel) :
    ∃ all, blockEntries fuel
        (readingAt (blocks.flatMap Block.tokens ++ .blockEnd :: rest) anchors graph) =
      .ok (Tree.entryIds find graph.size (blocks.map entry),
        readingAt rest all
          (graph ++ (Tree.entryNodes find graph.size (blocks.map entry)).toArray)) := by
  induction blocks generalizing known anchors graph fuel with
  | nil =>
      obtain ⟨fuel, rfl⟩ := Nat.exists_eq_add_of_le' (Nat.le_trans (by decide : 1 ≤ 2) enough)
      exact ⟨anchors, blockEntries_nil.trans (by simp [Tree.entryIds, Tree.entryNodes])⟩
  | cons block others ih =>
      obtain ⟨proper, fresh, others_readable⟩ := readable
      obtain ⟨first_located, others_located⟩ := located
      rw [recordNode] at first_located
      have tokens_eq : block.tokens = .key :: .scalar block.key (isWrittenPlain block.key) ::
          .value :: (block.anchorTokens ++ block.entry.2.tokens) := by
        simp [Block.tokens, entry]
      have size_eq : ((block :: others).flatMap Block.tokens).length =
          block.anchorTokens.length + block.entry.2.tokens.length +
            (others.flatMap Block.tokens).length + 3 := by
        simp [tokens_eq]
        omega
      obtain ⟨fuel, rfl⟩ := Nat.exists_eq_add_of_le' (n := fuel) (m := 4) (by omega)
      obtain ⟨next, more, next_eq, ended⟩ : ∃ next more,
          others.flatMap Block.tokens ++ .blockEnd :: rest = next :: more ∧
            (next = .blockEnd ∨ next = .key) := by
        cases others <;> exact ⟨_, _, rfl, by simp⟩
      have value := node_block proper fresh knows (graph.push (scalarNode (.text block.key)))
        (by simpa using first_located) { block := true, indentless := true } rfl next more (fuel + 2)
        ended (by omega)
      -- a block has two nodes of its own, the key and then the record that the anchor names
      have knows_all := knows.withAnchor fun anchor anchored =>
        ⟨proper.anchored anchor anchored, first_located anchor anchored⟩
      have size_next : (graph.push (scalarNode (.text block.key)) ++
          (block.entry.2.nodes find (graph.size + 1)).toArray).size =
            graph.size + (1 + block.entry.2.nodeCount) := by
        simp [Tree.length_nodes, Nat.add_comm 1]
      rw [Array.size_push] at value
      obtain ⟨all, later⟩ := ih others_readable knows_all _ (by rw [size_next]; exact others_located)
        (fuel + 3) (by omega)
      refine ⟨all, ?_⟩
      obtain ⟨token, tokens, start_eq, inside⟩ : ∃ token tokens,
          block.anchorTokens ++ block.entry.2.tokens = token :: tokens ∧
            token ∉ [Token.key, .value, .blockEnd] := by
        obtain ⟨key, kind, anchor, entries⟩ := block
        cases anchor <;> exact ⟨_, _, rfl, by simp⟩
      rw [start_eq] at value
      rw [next_eq] at later
      have whole_eq : (block :: others).flatMap Block.tokens ++ .blockEnd :: rest =
          .key :: .scalar block.key (isWrittenPlain block.key) :: .value ::
            (token :: tokens ++ next :: more) := by
        rw [List.flatMap_cons, tokens_eq, start_eq, ← next_eq]
        simp
      rw [whole_eq]
      refine (blockEntries_cons ((nodeUnless_eq inside).trans value) later).trans ?_
      rw [size_next]
      simp [entry, Tree.entryIds, Tree.entryNodes, Tree.nodeId]

end Block

/-! ## Documents -/

def documentGraph (find : CodeText → NodeId) (blocks : List Block) : Graph :=
  (⟨StandardType.map.tag, .mapping (Tree.entryIds find 1 (blocks.map Block.entry))⟩ ::
    Tree.entryNodes find 1 (blocks.map Block.entry)).toArray

open Reading Reader in
theorem compose_of_node {source : Source} {start : Token} {tokens : List Token} {root : NodeId}
    {anchors : List (String × NodeId)} {graph : Graph}
    (tokens_eq : Yaml.tokens source = ⟨start :: tokens, none⟩)
    (opens : start = .blockMappingStart ∨ start = .blockSequenceStart)
    (read : node (4 * (start :: tokens).length + 4) { block := true }
      (readingAt (start :: tokens) [] #[]) = .ok (root, readingAt [] anchors graph)) :
    compose source = .ok (some root, graph) := by
  have started : addStandardHandles { stream := ⟨start :: tokens, none⟩ } =
      .ok ((), readingAt (start :: tokens) [] #[]) :=
    rfl
  have document_eq : document (4 * (start :: tokens).length + 4)
      { stream := ⟨start :: tokens, none⟩ } = .ok (some root, readingAt [] anchors graph) := by
    have unmarked : document (4 * (start :: tokens).length + 4)
        { stream := ⟨start :: tokens, none⟩ } = (do
          addStandardHandles
          let id ← node (4 * (start :: tokens).length + 4) { block := true }
          return some id : Reader _) { stream := ⟨start :: tokens, none⟩ } := by
      rcases opens with rfl | rfl <;> rfl
    rw [unmarked, bind_eq started, bind_eq read]
    rfl
  have ended : skipEnds (4 * (start :: tokens).length + 4) (readingAt [] anchors graph) =
      .ok ((), readingAt [] anchors graph) :=
    rfl
  rw [compose, tokens_eq]
  change (singleDocument (4 * (start :: tokens).length + 4)
    { stream := ⟨start :: tokens, none⟩ } >>= fun result => .ok (result.1, result.2.graph)) = _
  rw [singleDocument, bind_eq document_eq, bind_eq ended]
  rfl

open Reading in
theorem compose_document {find : CodeText → NodeId} {blocks : List Block} (shown : blocks ≠ [])
    (readable : Block.Readable [] blocks)
    (located : Block.Located Block.recordNode Block.nodeSize find 1 blocks) :
    compose (.ofText (blocks.flatMap Block.text)) = .ok (some 0, documentGraph find blocks) := by
  have tokens_eq : documentTokens blocks =
      .blockMappingStart :: (blocks.flatMap Block.tokens ++ [.blockEnd]) := by
    simp [documentTokens, shown]
  have knows : Knows [] [] find := ⟨by simp [Resolves], by simp⟩
  have scanned := tokens_document blocks readable.wellFormed
  rw [tokens_eq] at scanned
  obtain ⟨fuel, fuel_eq⟩ : ∃ fuel, 4 * (Token.blockMappingStart ::
      (blocks.flatMap Block.tokens ++ [.blockEnd])).length + 4 = fuel + 2 :=
    ⟨_, rfl⟩
  obtain ⟨all, inside⟩ := Block.entries_blocks blocks readable knows
    #[⟨StandardType.map.tag, .mapping []⟩] located [] fuel (by
      simp only [List.length_cons, List.length_append, List.length_nil] at fuel_eq
      omega)
  have root : Reader.node (fuel + 2) { block := true } (readingAt (.blockMappingStart ::
      (blocks.flatMap Block.tokens ++ [.blockEnd])) [] #[]) =
        .ok (0, readingAt [] all (documentGraph find blocks)) := by
    refine (node_plain (by trivial)).trans ((content_mapping rfl (by simp) inside).trans ?_)
    simp [documentGraph, Reader.Properties.collectionTag]
  rw [← fuel_eq] at root
  exact compose_of_node scanned (.inl rfl) root

end TypeCatalog.Document
