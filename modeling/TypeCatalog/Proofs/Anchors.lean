import Mathlib.Data.List.Forall2
import TypeCatalog.Proofs.LedgerRun

/-!
# Anchors and references

The ledger decides about references, not the text.  Along every sequence of
calls its defined names are the anchors in the headers written so far, in
order; so no anchor is written twice, and a base is a reference exactly if the
header with its anchor is in the text already.
-/

namespace TypeCatalog

open Document
open Text (CodeText)

/-! ## Calls -/

/-- What the user of a catalog asks for.  A call that fails may be followed by others. -/
inductive WalkCall where
  | document (declaration : Declaration)
  | finish

namespace Catalog

def call (catalog : Catalog) : WalkCall → Catalog × List Event
  | .document declaration =>
    let step := catalog.documentDeclaration declaration
    (step.catalog, step.events)
  | .finish => (catalog.finish.catalog, catalog.finish.events)

def callAll (catalog : Catalog) : List WalkCall → Catalog × List Event
  | [] => (catalog, [])
  | first :: rest =>
    let (middle, events) := catalog.call first
    let (after, others) := middle.callAll rest
    (after, events ++ others)

end Catalog

/-! ## Sound references -/

/-- The entries of a base refer to an anchor exactly if it is that of the base and among those
written. -/
def RefersTo (anchors : List CodeText) (base : Base) (entries : List Entry) : Prop :=
  ∀ anchor : CodeText, (CodeText.ofString "ref", Tree.reference anchor) ∈ entries ↔
    ∃ name, Text.proper? base.type.name = some name ∧ anchor = Identities.namedType name ∧
      anchor ∈ anchors

def Document.Block.Sound (records : Record → Prop) (earlier : List Block) (block : Block) : Prop :=
  match block.anchor with
  | none => block.bases = []
  | some anchor =>
    anchor ∉ anchorsOf earlier ∧ block.kind = .struct ∧
      ∃ record, records record ∧
        (∀ canonical, record.canonical? = some canonical → anchor = canonical) ∧
        ∃ bases, bases <+: record.bases.items ∧
          List.Forall₂ (RefersTo (anchorsOf (earlier ++ [block]))) bases block.bases

theorem refersTo_ofBase (base : Base) {defined anchors : List CodeText}
    (same : ∀ anchor, anchor ∈ defined ↔ anchor ∈ anchors) :
    RefersTo anchors base (Entries.ofBase defined base) := by
  intro anchor
  have plain : (CodeText.ofString "ref", Tree.reference anchor) ∈ Entries.ofBase defined base ↔
      (CodeText.ofString "ref", Tree.reference anchor) ∈ Entries.ofReference defined base := by
    simp only [Entries.ofBase, Entries.ofAccess_eq, Entries.text, Entries.flag, List.mem_append,
      List.mem_singleton]
    cases base.virtual <;> simp
  rw [plain, Entries.ofReference]
  rcases Text.proper? base.type.name with _ | name
  · simp
  · constructor
    · intro mem
      have refers : Identities.namedType name ∈ defined ∧ anchor = Identities.namedType name := by
        simpa using mem
      obtain ⟨known, rfl⟩ := refers
      exact ⟨name, rfl, rfl, (same _).mp known⟩
    · rintro ⟨_, ⟨⟩, rfl, mem⟩
      simp [(same _).mpr mem]

theorem exists_forall₂_refersTo {defined anchors : List CodeText} {bases : List Base}
    {entries : List (List Entry)} (listed : entries <+: bases.map (Entries.ofBase defined))
    (same : ∀ anchor, anchor ∈ defined ↔ anchor ∈ anchors) :
    ∃ first, first <+: bases ∧ List.Forall₂ (RefersTo anchors) first entries := by
  rw [List.prefix_iff_eq_take, ← List.map_take] at listed
  refine ⟨bases.take entries.length, List.take_prefix _ _, ?_⟩
  rw [listed, List.length_map, List.forall₂_map_right_iff]
  have first_eq : bases.take (bases.take entries.length).length = bases.take entries.length := by
    simp
  rw [first_eq, List.forall₂_same]
  exact fun base _ => refersTo_ofBase base same

/-! ## The invariant -/

/-- What holds of the blocks written by the calls so far, with the records among them. -/
structure Ledger.Anchored (records : Record → Prop) (ledger : Ledger) (blocks : List Block) :
    Prop where
  defined_eq : ledger.defined.reverse = anchorsOf blocks
  nodup : (anchorsOf blocks).Nodup
  sound : ∀ earlier block later, blocks = earlier ++ block :: later →
    block.Sound records earlier

theorem Ledger.Anchored.mem_iff {records : Record → Prop} {ledger : Ledger} {blocks : List Block}
    (anchored : ledger.Anchored records blocks) (anchor : CodeText) :
    anchor ∈ ledger.defined ↔ anchor ∈ anchorsOf blocks := by
  rw [← anchored.defined_eq, List.mem_reverse]

theorem anchorsOf_append (first second : List Block) :
    anchorsOf (first ++ second) = anchorsOf first ++ anchorsOf second :=
  List.filterMap_append

variable {records : Record → Prop}

theorem Ledger.Anchored.snoc {before after : Ledger} {blocks : List Block} {block : Block}
    (anchored : before.Anchored records blocks) (sound : block.Sound records blocks)
    (defined_eq : after.defined = block.anchor.toList ++ before.defined) :
    after.Anchored records (blocks ++ [block]) := by
  have anchors_eq : anchorsOf (blocks ++ [block]) = anchorsOf blocks ++ block.anchor.toList := by
    rw [anchorsOf_append]
    rcases block with ⟨key, kind, _ | anchor, entries⟩ <;> rfl
  refine ⟨?_, ?_, ?_⟩
  · rw [anchors_eq, defined_eq, List.reverse_append, anchored.defined_eq]
    rcases block.anchor with _ | anchor <;> rfl
  · rw [anchors_eq]
    rcases anchor_eq : block.anchor with _ | anchor
    · simpa using anchored.nodup
    · have fresh : anchor ∉ anchorsOf blocks := by
        simp only [Block.Sound, anchor_eq] at sound
        exact sound.1
      rw [Option.toList_some, List.nodup_append]
      refine ⟨anchored.nodup, by simp, ?_⟩
      rintro other mem _ last rfl
      rw [List.mem_singleton.mp last] at mem
      exact fresh mem
  · intro earlier other later split
    rcases later.eq_nil_or_concat with rfl | ⟨front, last, rfl⟩
    · obtain ⟨rfl, last_eq⟩ := List.append_inj' split rfl
      cases last_eq
      exact sound
    · rw [List.concat_eq_append, ← List.cons_append, ← List.append_assoc] at split
      exact anchored.sound _ _ _ (List.append_inj_left' split rfl)

theorem Ledger.Anchored.same_defined {before after : Ledger} {blocks : List Block}
    (anchored : before.Anchored records blocks) (defined_eq : after.defined = before.defined) :
    after.Anchored records blocks :=
  ⟨defined_eq ▸ anchored.defined_eq, anchored.nodup, anchored.sound⟩

theorem Ledger.Anchored.append_plain {before after : Ledger} {blocks others : List Block}
    (anchored : before.Anchored records blocks) (defined_eq : after.defined = before.defined)
    (plain : ∀ block ∈ others, block.anchor = none ∧ block.bases = []) :
    after.Anchored records (blocks ++ others) := by
  induction others generalizing blocks before with
  | nil =>
      rw [List.append_nil]
      exact anchored.same_defined defined_eq
  | cons block rest ih =>
      obtain ⟨no_anchor, no_bases⟩ := plain block (by simp)
      have snoc : before.Anchored records (blocks ++ [block]) := by
        refine anchored.snoc ?_ (by simp [no_anchor])
        simp only [Block.Sound, no_anchor]
        exact no_bases
      rw [List.append_cons]
      exact ih snoc defined_eq fun other mem => plain other (by simp [mem])

theorem Ledger.Documents.anchored {before after : Ledger} {declaration : Declaration}
    {result : Except WalkFault Bool} {blocks added : List Block}
    (documented : before.Documents declaration result after added)
    (anchored : before.Anchored records blocks)
    (recorded : ∀ record, declaration = .record record → records record) :
    after.Anchored records (blocks ++ added) := by
  cases documented with
  | ignored | unread | ineligible | aborted | repeated =>
      rw [List.append_nil]
      exact anchored
  | forward =>
      rw [List.append_nil]
      exact anchored.same_defined (await_defined _ _ _)
  | @passed record own _ reading complete decided =>
      rw [List.append_nil]
      apply anchored.same_defined
      rcases define_none decided with ⟨-, rfl⟩ | ⟨-, -, rfl⟩
      · rfl
      · exact before.identify_defined record
  | @defined record own next header entries ordinal _ reading complete decided handed bases =>
      obtain ⟨-, fresh, published⟩ := define_some decided
      cases published
      refine anchored.snoc ?_ (by simp)
      rw [anchored.mem_iff] at fresh
      refine ⟨fresh, rfl, record, recorded record rfl, ?_, ?_⟩
      · intro canonical named
        simp [identify, named]
      · refine exists_forall₂_refersTo bases fun anchor => ?_
        rw [anchorsOf_append, List.mem_append, ← anchored.mem_iff]
        simp [anchorsOf, or_comm]
  | entered reading eligible calm fresh handed bases =>
      refine anchored.append_plain rfl ?_
      rintro block mem
      rw [List.mem_singleton.mp mem]
      exact ⟨rfl, bases⟩

theorem baseBlocks_ofStub (awaited : AwaitedRecord) :
    (Entries.ofStub awaited).filterMap baseBlock? = [] := by
  unfold Entries.ofStub Entries.ofTags
  split <;> simp [Entries.ofLocation, Entries.flag, Entries.text, Entries.number, baseBlock?]

theorem Stubs.plain {keys after : UniqueKeys} {awaited : List AwaitedRecord}
    {result : Except WalkFault Unit} {blocks : List Block}
    (stubs : Stubs keys awaited result after blocks) :
    ∀ block ∈ blocks, block.anchor = none ∧ block.bases = [] := by
  induction stubs with
  | done => simp
  | fails unclean bases =>
      intro block mem
      rw [List.mem_singleton.mp mem]
      exact ⟨rfl, bases⟩
  | @step _ _ awaited _ _ _ later _ ih =>
      intro block mem
      rcases List.mem_cons.mp mem with rfl | mem
      · exact ⟨rfl, baseBlocks_ofStub awaited⟩
      · exact ih block mem

/-! ## Every sequence of calls -/

theorem Walk.Writes.perform {part : Walk α} {start : Catalog}
    {post : Except WalkFault α → Catalog → List Char → Prop} (writes : part.Writes start post) :
    post (start.perform part).result (start.perform part).catalog
      (Event.written (start.perform part).events) := by
  obtain ⟨text, written, holds⟩ := writes #[]
  have text_eq : Event.written (start.perform part).events = text := written
  rw [text_eq]
  exact holds

theorem Catalog.call_anchored {catalog : Catalog} {call : WalkCall} {blocks : List Block}
    (ground : catalog.writer.depth = 0) (anchored : catalog.ledger.Anchored records blocks)
    (recorded : ∀ record, call = .document (.record record) → records record) :
    (catalog.call call).1.writer.depth = 0 ∧ ∃ added,
      Event.written (catalog.call call).2 = added.flatMap Block.text ∧
        (catalog.call call).1.ledger.Anchored records (blocks ++ added) := by
  cases call with
  | document declaration =>
      obtain ⟨bottom, -, added, text_eq, documented⟩ :=
        (Walk.documentDeclaration_writes declaration ground).perform
      refine ⟨bottom, added, text_eq, documented.anchored anchored ?_⟩
      rintro record rfl
      exact recorded record rfl
  | finish =>
      obtain ⟨bottom, added, text_eq, defined_eq, stubs⟩ := (Walk.finish_writes ground).perform
      exact ⟨bottom, added, text_eq, anchored.append_plain defined_eq stubs.plain⟩

theorem Catalog.callAll_anchored {catalog : Catalog} {calls : List WalkCall} {blocks : List Block}
    (ground : catalog.writer.depth = 0) (anchored : catalog.ledger.Anchored records blocks)
    (recorded : ∀ record, .document (.record record) ∈ calls → records record) :
    ∃ added, Event.written (catalog.callAll calls).2 = added.flatMap Block.text ∧
      (catalog.callAll calls).1.ledger.Anchored records (blocks ++ added) := by
  induction calls generalizing catalog blocks with
  | nil => exact ⟨[], rfl, by rwa [List.append_nil]⟩
  | cons call rest ih =>
      obtain ⟨bottom, added, text_eq, anchored⟩ :=
        @call_anchored _ _ call _ ground anchored fun record call_eq =>
          recorded record (by simp [call_eq])
      obtain ⟨others, others_eq, anchored⟩ :=
        ih bottom anchored fun record mem => recorded record (by simp [mem])
      refine ⟨added ++ others, ?_, ?_⟩
      · simp [callAll, text_eq, others_eq]
      · rwa [← List.append_assoc]

/-- Whatever a fresh catalog is called for, it writes every anchor once, and the bases in its
blocks refer to exactly those anchors that are in the text before them. -/
theorem anchors_once_and_references_sound (dumpAll : Bool) (tagNames : List CodeText)
    (calls : List WalkCall) :
    let run := Catalog.callAll { dumpAll, tagNames } calls
    ∃ blocks, Event.written run.2 = blocks.flatMap Block.text ∧ (anchorsOf blocks).Nodup ∧
      ∀ earlier block later, blocks = earlier ++ block :: later →
        block.Sound (fun record => .document (.record record) ∈ calls) earlier := by
  intro run
  have start : (Catalog.ledger { dumpAll, tagNames }).Anchored
      (fun record => .document (.record record) ∈ calls) [] :=
    ⟨rfl, List.nodup_nil, by simp⟩
  obtain ⟨blocks, text_eq, anchored⟩ :=
    Catalog.callAll_anchored rfl start fun _ mem => mem
  exact ⟨blocks, text_eq, anchored.nodup, anchored.sound⟩

end TypeCatalog
