import TypeCatalog.Proofs.EntryShape
import TypeCatalog.Proofs.LedgerRun
import TypeCatalog.Proofs.ValueConstruction

/-!
# Documents load

Whatever a run is about and wherever it breaks off, its blocks have different
keys and refer to anchors of earlier blocks, so the document loads.  Two things
are left to the declarations: a record that names itself as a base refers to
the block it stands in, and a key can be too long to be read as one.
-/

namespace TypeCatalog

open Document
open Text (CodeText)

def Base.canonical? (base : Base) : Option CodeText :=
  (Text.proper? base.type.name).map Identities.namedType

def Record.NamesItself (declaration : Record) : Prop :=
  ∃ base ∈ declaration.bases.items, base.canonical? ≠ none ∧
    declaration.canonical? = base.canonical?

instance (declaration : Record) : Decidable declaration.NamesItself :=
  inferInstanceAs (Decidable (∃ base ∈ declaration.bases.items, _ ∧ _))

def Declaration.NamesItself : Declaration → Prop
  | record declaration => declaration.NamesItself
  | _ => False

instance : (declaration : Declaration) → Decidable declaration.NamesItself
  | .record declaration => inferInstanceAs (Decidable declaration.NamesItself)
  | .function _ | .field _ | .parameter _ | .base _ => isFalse id

/-! ## Blocks in a row -/

namespace Document.Block

theorem Readable.append {known : List CodeText} {first second : List Block}
    (early : Readable known first)
    (late : Readable ((anchorsOf first).reverse ++ known) second) :
    Readable known (first ++ second) := by
  induction first generalizing known with
  | nil => exact late
  | cons block rest ih =>
      obtain ⟨proper, fresh, others⟩ := early
      refine ⟨proper, fresh, ih others ?_⟩
      rcases block with ⟨key, kind, _ | anchor, entries⟩
      · exact late
      · simpa [anchorsOf] using late

theorem readable_single {known : List CodeText} {block : Block} (proper : block.WellFormed known)
    (fresh : ∀ anchor, block.anchor = some anchor → anchor ∉ known) : Readable known [block] :=
  ⟨proper, fresh, trivial⟩

end Document.Block

structure UniqueKeys.Claims (before after : UniqueKeys) (blocks : List Block) : Prop where
  claimed : after.claimed = (blocks.map (·.key)).reverse ++ before.claimed
  nodup : before.claimed.Nodup → after.claimed.Nodup

namespace UniqueKeys.Claims

theorem refl (keys : UniqueKeys) : keys.Claims keys [] :=
  ⟨rfl, id⟩

theorem claim (keys : UniqueKeys) (name : CodeText) (block : Block)
    (key_eq : block.key = (keys.claim name).1) : keys.Claims (keys.claim name).2 [block] where
  claimed := by simp [claim_claimed, key_eq]
  nodup different := nodup_claim different name

theorem trans {before middle after : UniqueKeys} {blocks others : List Block}
    (early : before.Claims middle blocks) (late : middle.Claims after others) :
    before.Claims after (blocks ++ others) where
  claimed := by simp [late.claimed, early.claimed]
  nodup different := late.nodup (early.nodup different)

theorem fresh {after : UniqueKeys} {blocks : List Block}
    (claims : UniqueKeys.Claims {} after blocks) :
    (blocks.map (·.key)).Nodup := by
  have different := claims.nodup List.nodup_nil
  rw [claims.claimed] at different
  simpa using different

end UniqueKeys.Claims

/-! ## One declaration -/

namespace Ledger

variable {before after : Ledger} {blocks : List Block}

/-- The bases of a record refer to blocks before its own, unless it names itself. -/
theorem refers_identify {record : Record} (apart : ¬record.NamesItself) {base : Base}
    (mem : base ∈ record.bases.items) :
    Entries.Refers before.defined
      ((before.identify record).1 :: (before.identify record).2.defined) base := by
  intro name proper held
  rw [identify_defined] at held
  rcases List.mem_cons.mp held with same | held
  · rcases named : record.canonical? with _ | canonical
    · rw [identify_unnamed named] at same
      exact absurd same (namedType_ne_unknownName name _)
    · rw [identify_named named] at same
      have base_eq : base.canonical? = some (Identities.namedType name) := by
        rw [Base.canonical?, proper]
        rfl
      exact absurd ⟨base, mem, by simp [base_eq], by rw [named, base_eq, same]⟩ apart
  · exact held

theorem Documents.readable {declaration : Declaration} {result : Except WalkFault Bool}
    (documented : before.Documents declaration result after blocks)
    (apart : ¬declaration.NamesItself)
    (short : ∀ block ∈ blocks, ∀ key ∈ block.keys, IsShortKey key) :
    Block.Readable before.defined blocks ∧
      after.defined = (anchorsOf blocks).reverse ++ before.defined := by
  cases documented with
  | ignored | unread | ineligible | aborted | repeated => exact ⟨trivial, rfl⟩
  | forward => exact ⟨trivial, await_defined _ _ _⟩
  | @passed record own _ reading complete decided =>
      refine ⟨trivial, ?_⟩
      rcases define_none decided with ⟨-, rfl⟩ | ⟨-, -, rfl⟩
      · rfl
      · exact before.identify_defined record
  | @defined record own next header entries ordinal _ reading complete decided handed bases accepted
      exactly begins headed =>
      obtain ⟨-, fresh, published⟩ := define_some decided
      cases published
      refine ⟨Block.readable_single ⟨short _ (by simp), ?_, ?_⟩ ?_, by simp [anchorsOf]⟩
      · rintro anchor ⟨⟩
        exact Walk.isAnchor_identify before record
      -- the anchor of the record is in the registry already when its bases are written
      · refine (Tree.begins_record .struct begins).wellFormed (Entries.shaped_ofRecord _ _ _ ?_)
        exact fun base => refers_identify apart
      · rintro anchor ⟨⟩
        exact fresh
  | @entered function own entries ordinal _ reading eligible calm fresh handed bases accepted
      begins =>
      refine ⟨Block.readable_single ⟨short _ (by simp), by simp, ?_⟩ (by simp), rfl⟩
      exact (Tree.begins_record .function begins).wellFormed (Entries.shaped_function _ _ _)

theorem Documents.claims {declaration : Declaration} {result : Except WalkFault Bool}
    (documented : before.Documents declaration result after blocks) :
    before.keys.Claims after.keys blocks := by
  cases documented with
  | ignored | unread | ineligible | aborted | repeated => exact .refl _
  | forward =>
      rw [await_keys]
      exact .refl _
  | @passed record own _ reading complete decided =>
      rcases define_none decided with ⟨-, rfl⟩ | ⟨-, -, rfl⟩
      · exact .refl _
      · rw [identify_keys]
        exact .refl _
  | @defined record own next header entries ordinal _ reading complete decided =>
      obtain ⟨-, -, published⟩ := define_some decided
      cases published
      have claimed := UniqueKeys.Claims.claim before.keys
        ((Text.proper? record.name).getD (before.identify record).1)
      simp only [identify_keys]
      exact claimed _ rfl
  | entered => exact .claim _ _ _ rfl

/-! ## Runs -/

theorem Runs.readable {declarations : List Declaration} {result : Except WalkFault Unit}
    (runs : before.Runs declarations result after blocks)
    (apart : ∀ declaration ∈ declarations, ¬declaration.NamesItself)
    (short : ∀ block ∈ blocks, ∀ key ∈ block.keys, IsShortKey key) :
    Block.Readable before.defined blocks ∧
      after.defined = (anchorsOf blocks).reverse ++ before.defined := by
  induction runs with
  | done => exact ⟨trivial, rfl⟩
  | fails abroad documented =>
      exact documented.readable (apart _ (by simp)) short
  | step documented later ih =>
      obtain ⟨first, defined_eq⟩ := documented.readable (apart _ (by simp))
        fun block mem => short block (by simp [mem])
      obtain ⟨others, later_eq⟩ := ih (fun declaration mem => apart declaration (by simp [mem]))
        fun block mem => short block (by simp [mem])
      rw [defined_eq] at others later_eq
      refine ⟨first.append others, ?_⟩
      simp [later_eq, anchorsOf]

theorem Runs.claims {declarations : List Declaration} {result : Except WalkFault Unit}
    (runs : before.Runs declarations result after blocks) :
    before.keys.Claims after.keys blocks := by
  induction runs with
  | done => exact .refl _
  | fails abroad documented => exact documented.claims
  | step documented later ih => exact documented.claims.trans ih

end Ledger

namespace Stubs

variable {keys after : UniqueKeys} {awaited : List AwaitedRecord} {result : Except WalkFault Unit}
  {blocks : List Block}

theorem readable (stubs : Stubs keys awaited result after blocks) (known : List CodeText)
    (short : ∀ block ∈ blocks, ∀ key ∈ block.keys, IsShortKey key) :
    Block.Readable known blocks := by
  induction stubs with
  | done => trivial
  | fails unclean bases begins =>
      refine Block.readable_single ⟨short _ (by simp), by simp, ?_⟩ (by simp)
      exact (Tree.begins_record .struct begins).wellFormed (Entries.shaped_ofStub _)
  | step later begins ih =>
      refine ⟨⟨short _ (by simp), by simp, ?_⟩, by simp, ih fun block mem => ?_⟩
      · exact (Tree.begins_record .struct begins).wellFormed (Entries.shaped_ofStub _)
      · exact short block (by simp [mem])

theorem claims (stubs : Stubs keys awaited result after blocks) : keys.Claims after blocks := by
  induction stubs with
  | done => exact .refl _
  | fails => exact .claim _ _ _ rfl
  | step later begins ih => exact (UniqueKeys.Claims.claim _ _ _ rfl).trans ih

end Stubs

/-! ## Keys in a short text -/

namespace Document

mutual

theorem Tree.length_key_le {tree : Tree} {key : CodeText} (mem : key ∈ tree.keys) (depth : Nat) :
    (Scalar.writtenText key).length ≤ (tree.bodyText depth).length := by
  cases tree with
  | scalar | reference | emptyList => cases mem
  | list items => exact Tree.length_itemKey_le mem _
  | record kind entries => exact Tree.length_entryKey_le mem _

theorem Tree.length_itemKey_le {items : List Tree} {key : CodeText} (mem : key ∈ itemKeys items)
    (depth : Nat) : (Scalar.writtenText key).length ≤ (itemsText depth items).length := by
  cases items with
  | nil => cases mem
  | cons tree rest =>
      simp only [itemsText, List.length_append]
      rcases List.mem_append.mp mem with mem | mem
      · have := Tree.length_key_le mem depth
        omega
      · have := Tree.length_itemKey_le mem depth
        omega

theorem Tree.length_entryKey_le {entries : List Entry} {key : CodeText}
    (mem : key ∈ entryKeys entries) (depth : Nat) :
    (Scalar.writtenText key).length ≤ (entriesText depth entries).length := by
  cases entries with
  | nil => cases mem
  | cons entry rest =>
      simp only [entriesText, lineText, List.length_append]
      rcases List.mem_append.mp mem with mem | mem
      · rcases List.mem_cons.mp mem with rfl | mem
        · omega
        · have := Tree.length_key_le mem depth
          omega
      · have := Tree.length_entryKey_le mem depth
        omega

end

theorem Block.length_key_le {block : Block} {key : CodeText} (mem : key ∈ block.keys) :
    (Scalar.writtenText key).length ≤ block.text.length := by
  simp only [Block.text, lineText, List.length_append]
  rcases List.mem_cons.mp mem with rfl | mem
  · omega
  · have := Tree.length_entryKey_le mem 1
    omega

/-- No key is too long in a text that is not longer than a key may be. -/
theorem Block.short_of_length_le {blocks : List Block}
    (small : (blocks.flatMap Block.text).length ≤ Yaml.keyReach) :
    ∀ block ∈ blocks, ∀ key ∈ block.keys, IsShortKey key := by
  intro block held key mem
  calc (Scalar.writtenText key).length
    _ ≤ block.text.length := length_key_le mem
    _ ≤ (blocks.flatMap Block.text).length :=
        (List.sublist_flatten_of_mem (List.mem_map_of_mem held)).length_le
    _ ≤ Yaml.keyReach := small

end Document

/-! ## Documents -/

def Document.Loads (events : List Event) (blocks : List Block) : Prop :=
  ∃ loaded read, load (.ofString (Event.document events)) = .ok loaded ∧
    loaded.objectOf? loaded.root = some (.mapping none read) ∧
    Block.ShownBy loaded [] read blocks

theorem Document.loads_of_readable {events : List Event} {blocks : List Block}
    (text_eq : Event.written events = blocks.flatMap Block.text)
    (readable : Block.Readable [] blocks) (different : (blocks.map (·.key)).Nodup) :
    Loads events blocks := by
  have document_eq : CodeText.ofString (Event.document events) =
      .ofChars (blocks.flatMap Block.text) := by
    rw [CodeText.ofString, Event.document_toList, text_eq]
  rw [Loads, document_eq]
  exact load_blocks readable different

theorem Ledger.Runs.loads {dumpAll : Bool} {names : List CodeText} {declarations : List Declaration}
    {walked result : Except WalkFault Unit} {middle : Ledger} {blocks stubs : List Block}
    {keys : UniqueKeys} {events : List Event}
    (ending : match walked with
      | .ok _ => Stubs middle.keys middle.awaited result keys stubs
      | .error fault => result = .error fault ∧ stubs = [])
    (runs : (Ledger.fresh dumpAll names).Runs declarations walked middle blocks)
    (text_eq : Event.written events = (blocks ++ stubs).flatMap Block.text)
    (apart : ∀ declaration ∈ declarations, ¬declaration.NamesItself)
    (short : ∀ block ∈ blocks ++ stubs, ∀ key ∈ block.keys, IsShortKey key) :
    Loads events (blocks ++ stubs) := by
  obtain ⟨readable, -⟩ := runs.readable apart fun block mem => short block (by simp [mem])
  rcases walked with fault | ⟨⟩
  · obtain ⟨-, rfl⟩ := ending
    rw [List.append_nil] at text_eq ⊢
    exact loads_of_readable text_eq readable runs.claims.fresh
  · have later := ending.readable ((anchorsOf blocks).reverse ++ [])
      fun block mem => short block (by simp [mem])
    exact loads_of_readable text_eq (readable.append later) (runs.claims.trans ending.claims).fresh

/-- A run writes blocks, and its document loads and shows them if no key is too long and no
record names itself as a base. -/
theorem documentGroups_loads (groups : List (List Declaration)) (dumpAll : Bool)
    (tagNames : List CodeText)
    (apart : ∀ declaration ∈ groups.flatten, ¬declaration.NamesItself) :
    let run := documentGroups groups dumpAll tagNames
    ∃ blocks, Event.written run.events = blocks.flatMap Block.text ∧
      ((∀ block ∈ blocks, ∀ key ∈ block.keys, IsShortKey key) → Loads run.events blocks) := by
  intro run
  obtain ⟨middle, walked, blocks, stubs, text_eq, runs, ending⟩ :=
    documentGroups_blocks groups dumpAll tagNames
  exact ⟨blocks ++ stubs, text_eq, runs.loads ending text_eq apart⟩

/-- A record that breaks off after its first field, and one that is derived from it. -/
def interruptedShape : List (List Declaration) :=
  [[.record
      { name := some "Shape", location := ⟨"shape.h", 3⟩, size := some 8, align := some 8,
        fields :=
          { items := [{ name := some "id", type := { name := some "long" } }],
            fault := some "no more members" },
        attributes := [{ name := "compex_tag" }] }],
    [.record
      { name := some "Circle", location := ⟨"circle.h", 5⟩,
        bases := { items := [{ type := { name := some "Shape" } }] },
        attributes := [{ name := "compex_tag" }] }]]

theorem interruptedShape_loads :
    ∃ blocks, Loads (documentGroups interruptedShape false Tag.defaultNames).events blocks := by
  obtain ⟨blocks, text_eq, loads⟩ :=
    documentGroups_loads interruptedShape false Tag.defaultNames (by decide +kernel)
  have small :
      (Event.written (documentGroups interruptedShape false Tag.defaultNames).events).length ≤
        Yaml.keyReach := by decide +kernel
  exact ⟨blocks, loads (Block.short_of_length_le (text_eq ▸ small))⟩

def selfDerived : List (List Declaration) :=
  [[.record
      { name := some "A", location := ⟨"a.h", 1⟩, size := some 8, align := some 8,
        bases := { items := [{ type := { name := some "A" } }] },
        attributes := [{ name := "compex_tag" }] }]]

/-- The reference stands in the block that it refers to, so the document of a run without
faults does not load. -/
theorem selfDerived_does_not_load :
    let run := documentGroups selfDerived false Tag.defaultNames
    run.result = .ok () ∧ ∀ loaded, load (.ofString (Event.document run.events)) ≠ .ok loaded := by
  intro run
  have done : run.result = .ok () := by decide +kernel
  have refused : (load (.ofString (Event.document run.events))).toOption.isSome = false := by
    decide +kernel
  refine ⟨done, fun loaded loads => ?_⟩
  rw [loads] at refused
  cases refused

end TypeCatalog
