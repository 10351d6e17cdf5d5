import TypeCatalog.Proofs.Anchors
import TypeCatalog.Proofs.KeyLines
import TypeCatalog.Proofs.Loading

/-!
# Every mapping of a document has different keys

The keys at the top of a document are claimed in one scope for all calls of a
catalog, and those of a block in a scope of its own, where no slot looks like
a fixed key.  So no mapping has a key twice in the text, whatever the catalog
is called for and however its calls end.
-/

namespace TypeCatalog

open Document
open Text (CodeText)

/-! ## Blocks -/

namespace Document

structure Block.Proper (block : Block) : Prop where
  anchored : ∀ anchor, block.anchor = some anchor → IsAnchor anchor
  inside : ∃ known, (Tree.record block.kind block.entries).WellFormed known

def Block.headLine (block : Block) : Line :=
  ⟨0, Scalar.writtenText block.key ++ ':' :: ' ' :: propertyText block.kind block.anchor⟩

theorem Block.key?_headLine (block : Block) :
    block.headLine.key? = some (Scalar.writtenText block.key) :=
  key?_written _ _ (.inr rfl)

theorem Block.Proper.lines_eq {block : Block} (proper : block.Proper) (text : List Char) :
    lines (block.text ++ text) =
      block.headLine :: lines (Tree.entriesText 1 block.entries ++ text) := by
  rw [Block.text, List.append_assoc]
  refine lines_lineText 0 (isContent_key block.key fun c mem => ?_) _
  rcases List.mem_cons.mp mem with rfl | mem
  · decide
  · exact flat_propertyText block.kind proper.anchored c mem

variable {blocks : List Block}

theorem leaves_blocks (proper : ∀ block ∈ blocks, block.Proper) :
    Leaves 1 (blocks.flatMap Block.text) := by
  cases blocks with
  | nil => exact ⟨⟨0, []⟩, [], rfl, by decide⟩
  | cons block rest =>
      rw [List.flatMap_cons]
      exact ⟨_, _, (proper block (by simp)).lines_eq _, by simp [Block.headLine]⟩

/-- Beside a line at the left stand the first lines of the blocks after it, and the empty line
at the end. -/
theorem siblings_blocks {line : Line} (left : line.indent = 0)
    (proper : ∀ block ∈ blocks, block.Proper) :
    line.siblings (lines (blocks.flatMap Block.text)) =
      blocks.map Block.headLine ++ [⟨0, []⟩] := by
  induction blocks with
  | nil => exact Line.siblings_beside [] left
  | cons block rest ih =>
      obtain ⟨known, inside⟩ := (proper block (by simp)).inside
      rw [List.flatMap_cons, (proper block (by simp)).lines_eq, Line.siblings_beside _ left,
        Tree.siblings_entries block.entries inside.2 (by omega),
        ih fun other mem => proper other (by simp [mem])]
      rfl

theorem keysDiffer_blocks (different : (blocks.map (·.key)).Nodup)
    (proper : ∀ block ∈ blocks, block.Proper) :
    KeysDiffer (lines (blocks.flatMap Block.text)) := by
  induction blocks with
  | nil => exact ⟨by simp [Line.key?, writtenKey?, Line.ofText], trivial⟩
  | cons block rest ih =>
      have others (other : Block) (mem : other ∈ rest) := proper other (by simp [mem])
      obtain ⟨known, inside⟩ := (proper block (by simp)).inside
      rw [List.map_cons, List.nodup_cons] at different
      rw [List.flatMap_cons, (proper block (by simp)).lines_eq]
      refine ⟨?_, Tree.keysDiffer_entries block.entries inside.1 inside.2 (leaves_blocks others)
        (ih different.2 others)⟩
      intro key key_eq other mem
      rw [Tree.siblings_entries block.entries inside.2 (by simp [Block.headLine]),
        siblings_blocks rfl others] at mem
      rw [Block.key?_headLine] at key_eq
      cases key_eq
      rcases List.mem_append.mp mem with mem | mem
      · obtain ⟨sibling, held, rfl⟩ := List.mem_map.mp mem
        rw [Block.key?_headLine]
        intro same
        refine different.1 (List.mem_map.mpr ⟨sibling, held, ?_⟩)
        exact writtenText_injective (Option.some.inj same)
      · rw [List.mem_singleton.mp mem]
        simp [Line.key?, writtenKey?]

end Document

/-! ## Calls -/

/-- The block of a declaration is proper, also that of a record that names itself. -/
theorem Ledger.Documents.proper {before after : Ledger} {declaration : Declaration}
    {result : Except WalkFault Bool} {blocks : List Block}
    (documented : before.Documents declaration result after blocks) :
    ∀ block ∈ blocks, block.Proper := by
  cases documented with
  | ignored | unread | forward | passed | ineligible | aborted | repeated => simp
  | @defined record own next header entries ordinal _ reading complete decided handed bases accepted
      exactly begins =>
      obtain ⟨-, -, published⟩ := define_some decided
      cases published
      intro block mem
      rw [List.mem_singleton.mp mem]
      refine ⟨?_, _, (Tree.begins_record .struct begins).wellFormed
        (Entries.shaped_ofRecord _ _ _ fun _ _ _ _ held => held)⟩
      rintro anchor ⟨⟩
      exact Walk.isAnchor_identify before record
  | entered reading eligible calm fresh handed bases accepted begins =>
      intro block mem
      rw [List.mem_singleton.mp mem]
      exact ⟨by simp, [], (Tree.begins_record .function begins).wellFormed
        (Entries.shaped_function _ _ _)⟩

theorem Stubs.proper {keys after : UniqueKeys} {awaited : List AwaitedRecord}
    {result : Except WalkFault Unit} {blocks : List Block}
    (stubs : Stubs keys awaited result after blocks) : ∀ block ∈ blocks, block.Proper := by
  have stub (key : CodeText) (awaited : AwaitedRecord) {entries : List Entry}
      (begins : Tree.EntriesBegin entries (Entries.ofStub awaited)) :
      Block.Proper ⟨key, .struct, none, entries⟩ :=
    ⟨by simp, [], (Tree.begins_record .struct begins).wellFormed (Entries.shaped_ofStub awaited)⟩
  induction stubs with
  | done => simp
  | fails unclean bases begins =>
      intro block mem
      rw [List.mem_singleton.mp mem]
      exact stub _ _ begins
  | step later begins ih =>
      intro block mem
      rcases List.mem_cons.mp mem with rfl | mem
      · exact stub _ _ begins
      · exact ih block mem

theorem Catalog.call_claims {catalog : Catalog} (ground : catalog.writer.depth = 0)
    (call : WalkCall) :
    (catalog.call call).1.writer.depth = 0 ∧ ∃ blocks,
      Event.written (catalog.call call).2 = blocks.flatMap Block.text ∧
        (∀ block ∈ blocks, block.Proper) ∧
        catalog.keys.Claims (catalog.call call).1.keys blocks := by
  cases call with
  | document declaration =>
      obtain ⟨bottom, -, blocks, text_eq, documented⟩ :=
        (Walk.documentDeclaration_writes declaration ground).perform
      exact ⟨bottom, blocks, text_eq, documented.proper, documented.claims⟩
  | finish =>
      obtain ⟨bottom, blocks, text_eq, -, stubs⟩ := (Walk.finish_writes ground).perform
      exact ⟨bottom, blocks, text_eq, stubs.proper, stubs.claims⟩

theorem Catalog.callAll_claims {catalog : Catalog} (ground : catalog.writer.depth = 0)
    (calls : List WalkCall) :
    ∃ blocks, Event.written (catalog.callAll calls).2 = blocks.flatMap Block.text ∧
      (∀ block ∈ blocks, block.Proper) ∧
      catalog.keys.Claims (catalog.callAll calls).1.keys blocks := by
  induction calls generalizing catalog with
  | nil => exact ⟨[], rfl, by simp, .refl _⟩
  | cons call rest ih =>
      obtain ⟨bottom, blocks, text_eq, proper, claims⟩ := call_claims ground call
      obtain ⟨others, others_eq, others_proper, later⟩ := ih bottom
      refine ⟨blocks ++ others, ?_, ?_, claims.trans later⟩
      · simp [callAll, text_eq, others_eq]
      · intro block mem
        rcases List.mem_append.mp mem with mem | mem
        · exact proper block mem
        · exact others_proper block mem

/-- Whatever a catalog without claimed keys is called for, and whichever types it knows before,
no mapping of the text it writes has two keys that are written alike. -/
theorem keys_differ_in_every_mapping (dumpAll : Bool) (tagNames : List CodeText)
    (identities : Identities) (calls : List WalkCall) :
    let run := Catalog.callAll { dumpAll, tagNames, identities } calls
    KeysDiffer (lines (Event.document run.2).toList) := by
  intro run
  obtain ⟨blocks, text_eq, proper, claims⟩ :=
    @Catalog.callAll_claims { dumpAll, tagNames, identities } rfl calls
  rw [Event.document_toList, text_eq]
  exact keysDiffer_blocks claims.fresh proper

end TypeCatalog
