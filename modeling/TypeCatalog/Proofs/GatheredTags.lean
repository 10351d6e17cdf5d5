import TypeCatalog.Proofs.Coverage
import TypeCatalog.Proofs.EntryShape

/-!
# Tags of forward declarations

The tags of forward declarations wait for a definition.  Along a run the ledger
keeps, for every type without a block, the tags of all its forward declarations
so far in order; so a definition shows them before its own, and a stub shows
those of the whole run.  The first definition for which there are tags gets
the block of its type.
-/

namespace TypeCatalog

open Document
open Text (CodeText)

/-! ## What the declarations of a type say -/

def Declaration.forwardTags (names : List CodeText) (canonical : CodeText) : Declaration → TagList
  | record declaration =>
    if declaration.complete = false ∧ declaration.canonical? = some canonical then
      Tag.read names declaration.attributes
    else []
  | _ => []

def forwardTags (names : List CodeText) (declarations : List Declaration) (canonical : CodeText) :
    TagList :=
  declarations.flatMap (·.forwardTags names canonical)

/-- The tags for a definition after some declarations: those of the forward declarations of its
type, then its own. -/
def gatheredTags (names : List CodeText) (earlier : List Declaration) (record : Record) : TagList :=
  (record.canonical?.map (forwardTags names earlier)).getD [] ++ Tag.read names record.attributes

def IsDue (dumpAll : Bool) (names : List CodeText) (earlier : List Declaration) (record : Record) :
    Prop :=
  record.complete = true ∧ Tag.isEligible (gatheredTags names earlier record) dumpAll = true

def HasDue (dumpAll : Bool) (names : List CodeText) (declarations : List Declaration)
    (canonical : CodeText) : Prop :=
  ∃ earlier record later, declarations = earlier ++ .record record :: later ∧
    record.canonical? = some canonical ∧ IsDue dumpAll names earlier record

section Declarations

variable {dumpAll : Bool} {names : List CodeText} {earlier : List Declaration}
  {declaration : Declaration} {canonical : CodeText}

theorem forwardTags_snoc :
    forwardTags names (earlier ++ [declaration]) canonical =
      forwardTags names earlier canonical ++ declaration.forwardTags names canonical := by
  simp [forwardTags]

theorem hasDue_snoc :
    HasDue dumpAll names (earlier ++ [declaration]) canonical ↔
      HasDue dumpAll names earlier canonical ∨
        ∃ record, declaration = .record record ∧ record.canonical? = some canonical ∧
          IsDue dumpAll names earlier record := by
  constructor
  · rintro ⟨front, record, later, split, named, due⟩
    rcases later.eq_nil_or_concat with rfl | ⟨middle, last, rfl⟩
    · obtain ⟨rfl, last_eq⟩ := List.append_inj' split rfl
      cases last_eq
      exact .inr ⟨record, rfl, named, due⟩
    · rw [List.concat_eq_append, ← List.cons_append, ← List.append_assoc] at split
      exact .inl ⟨front, record, middle, List.append_inj_left' split rfl, named, due⟩
  · rintro (⟨front, record, later, rfl, named, due⟩ | ⟨record, rfl, named, due⟩)
    · exact ⟨front, record, later ++ [declaration], by simp, named, due⟩
    · exact ⟨earlier, record, [], rfl, named, due⟩

end Declarations

/-! ## What waits -/

namespace Ledger

def waitingTags (ledger : Ledger) (canonical : CodeText) : TagList :=
  ((ledger.awaited.find? (·.canonical == canonical)).map (·.tags)).getD []

variable {ledger : Ledger} {record : Record} {own : TagList} {canonical other : CodeText}

theorem tagsFor_named (named : record.canonical? = some canonical) :
    ledger.tagsFor record own = ledger.waitingTags canonical ++ own := by
  simp [tagsFor, carried?, named, waitingTags]

theorem tagsFor_unnamed (unnamed : record.canonical? = none) :
    ledger.tagsFor record own = own := by
  simp [tagsFor, carried?, unnamed]

theorem waitingTags_carry (named : record.canonical? = some canonical) (tags : TagList) :
    (ledger.carry record canonical tags).waitingTags other =
      if other = canonical then tags else ledger.waitingTags other := by
  have carried_eq : ledger.carried? record =
      ledger.awaited.find? (·.canonical == canonical) := by
    simp [carried?, named]
  rcases found : ledger.awaited.find? (·.canonical == canonical) with _ | entry <;>
    simp only [waitingTags, carry, carried_eq, found, Option.isNone_none, Option.isNone_some,
      Bool.false_eq_true, ↓reduceIte]
  · by_cases same : other = canonical
    · subst same
      simp [List.find?_append, found]
    · have different : (canonical == other) = false := beq_false_of_ne fun eq => same eq.symm
      simp [List.find?_append, different, same]
  · have kept : (fun candidate : AwaitedRecord => candidate.canonical == other) ∘
        (fun candidate => if candidate.canonical == canonical then { candidate with tags }
          else candidate) = fun candidate => candidate.canonical == other := by
      funext candidate
      simp only [Function.comp_apply]
      split <;> rfl
    rw [List.find?_map, kept]
    by_cases same : other = canonical
    · subst same
      have canonical_eq : entry.canonical = other := by simpa using List.find?_some found
      simp [found, canonical_eq]
    · rcases waiting : ledger.awaited.find? (·.canonical == other) with _ | candidate
      · simp [same, waiting]
      · have canonical_eq : candidate.canonical = other := by simpa using List.find?_some waiting
        simp [same, waiting, canonical_eq]

theorem waitingTags_await (named : record.canonical? = some canonical)
    (fresh : canonical ∉ ledger.defined) :
    (ledger.await record own).waitingTags other =
      if other = canonical then ledger.waitingTags canonical ++ own
      else ledger.waitingTags other := by
  simp only [await, named, fresh, List.contains_iff_mem, ↓reduceIte, tagsFor_named named]
  split
  · rename_i skipped
    obtain ⟨-, nothing, rfl⟩ : ledger.dumpAll = false ∧ ledger.waitingTags canonical = [] ∧
        own = [] := by
      simpa [Tag.isEligible] using skipped
    by_cases same : other = canonical
    · simp [same, nothing]
    · simp [same]
  · exact waitingTags_carry named _

theorem waitingTags_identify_of_ne (named : record.canonical? = some canonical)
    (apart : other ≠ canonical) :
    (ledger.identify record).2.waitingTags other = ledger.waitingTags other := by
  have kept : (ledger.awaited.filter (·.canonical != canonical)).find? (·.canonical == other) =
      ledger.awaited.find? (·.canonical == other) := by
    rw [List.find?_filter]
    congr 1
    funext candidate
    by_cases same : candidate.canonical = other
    · simp [same, apart]
    · simp [same]
  rw [identify_named named, waitingTags, waitingTags, kept]

theorem waitingTags_of_mem {entry : AwaitedRecord} (mem : entry ∈ ledger.awaited)
    (different : (ledger.awaited.map (·.canonical)).Nodup) :
    ledger.waitingTags entry.canonical = entry.tags := by
  rcases found : ledger.awaited.find? (·.canonical == entry.canonical) with _ | first
  · simpa using List.find?_eq_none.mp found entry mem
  · have same : first.canonical = entry.canonical := by simpa using List.find?_some found
    have first_eq : first = entry :=
      List.inj_on_of_nodup_map different (List.mem_of_find?_eq_some found) mem same
    rw [waitingTags, found, first_eq]
    rfl

end Ledger

/-! ## Along a run -/

/-- What the ledger knows after declarations none of which failed. -/
structure TagsGathered (dumpAll : Bool) (names : List CodeText) (declarations : List Declaration)
    (ledger : Ledger) : Prop where
  dumpAll_eq : ledger.dumpAll = dumpAll
  names_eq : ledger.names = names
  defined_iff : ∀ name, Identities.namedType name ∈ ledger.defined ↔
    HasDue dumpAll names declarations (Identities.namedType name)
  waiting : ∀ canonical ∉ ledger.defined,
    ledger.waitingTags canonical = forwardTags names declarations canonical

namespace TagsGathered

variable {dumpAll : Bool} {names : List CodeText} {before : List Declaration}
  {declaration : Declaration} {ledger after : Ledger} {record : Record} {own : TagList}

theorem fresh : TagsGathered dumpAll names [] (Ledger.fresh dumpAll names) where
  dumpAll_eq := rfl
  names_eq := rfl
  defined_iff := by simp [Ledger.fresh, HasDue]
  waiting := by simp [Ledger.fresh, Ledger.waitingTags, forwardTags]

theorem tagsFor_eq (gathered : TagsGathered dumpAll names before ledger)
    (reading : (Tag.ofAttributes ledger.names record.attributes).result = .ok own)
    (fresh : ∀ canonical, record.canonical? = some canonical → canonical ∉ ledger.defined) :
    ledger.tagsFor record own = gatheredTags names before record := by
  rw [gathered.names_eq] at reading
  rcases named : record.canonical? with _ | canonical
  · simp [Ledger.tagsFor_unnamed named, gatheredTags, named, Tag.read_of_result reading]
  · simp [Ledger.tagsFor_named named, gatheredTags, named, Tag.read_of_result reading,
      gathered.waiting canonical (fresh canonical named)]

theorem isDue_iff (gathered : TagsGathered dumpAll names before ledger)
    (reading : (Tag.ofAttributes ledger.names record.attributes).result = .ok own)
    (complete : record.complete = true)
    (fresh : ∀ canonical, record.canonical? = some canonical → canonical ∉ ledger.defined) :
    IsDue dumpAll names before record ↔
      Tag.isEligible (ledger.tagsFor record own) ledger.dumpAll = true := by
  rw [IsDue, gathered.tagsFor_eq reading fresh, gathered.dumpAll_eq]
  exact and_iff_right complete

/-- One more declaration: a type gets defined just if the declaration is due, and the tags of
a forward declaration are added. -/
theorem snoc (gathered : TagsGathered dumpAll names before ledger)
    (dumpAll_eq : after.dumpAll = ledger.dumpAll) (names_eq : after.names = ledger.names)
    (more : ledger.defined ⊆ after.defined)
    (defined_iff : ∀ name, Identities.namedType name ∈ after.defined ↔
      Identities.namedType name ∈ ledger.defined ∨
        ∃ record, declaration = .record record ∧
          record.canonical? = some (Identities.namedType name) ∧
          IsDue dumpAll names before record)
    (waiting : ∀ canonical ∉ after.defined, after.waitingTags canonical =
      ledger.waitingTags canonical ++ declaration.forwardTags names canonical) :
    TagsGathered dumpAll names (before ++ [declaration]) after where
  dumpAll_eq := dumpAll_eq.trans gathered.dumpAll_eq
  names_eq := names_eq.trans gathered.names_eq
  defined_iff name := by rw [defined_iff, hasDue_snoc, gathered.defined_iff]
  waiting canonical fresh := by
    rw [waiting canonical fresh, forwardTags_snoc,
      gathered.waiting canonical fun known => fresh (more known)]

theorem other (gathered : TagsGathered dumpAll names before ledger)
    (notRecord : ∀ record, declaration ≠ .record record)
    (dumpAll_eq : after.dumpAll = ledger.dumpAll) (names_eq : after.names = ledger.names)
    (defined_eq : after.defined = ledger.defined) (awaited_eq : after.awaited = ledger.awaited) :
    TagsGathered dumpAll names (before ++ [declaration]) after := by
  refine gathered.snoc dumpAll_eq names_eq (by simp [defined_eq]) (fun name => ?_) ?_
  · rw [defined_eq]
    exact (or_iff_left fun ⟨record, is_record, _⟩ => notRecord record is_record).symm
  · intro canonical _
    have nothing : declaration.forwardTags names canonical = [] := by
      cases declaration with
      | record record => exact absurd rfl (notRecord record)
      | _ => rfl
    simp [Ledger.waitingTags, awaited_eq, nothing]

theorem await (gathered : TagsGathered dumpAll names before ledger)
    (reading : (Tag.ofAttributes ledger.names record.attributes).result = .ok own)
    (incomplete : record.complete = false) :
    TagsGathered dumpAll names (before ++ [.record record]) (ledger.await record own) := by
  rw [gathered.names_eq] at reading
  refine gathered.snoc (by simp) (by simp) (by simp) (fun name => ?_) fun other missing => ?_
  · rw [Ledger.await_defined]
    refine (or_iff_left ?_).symm
    rintro ⟨_, ⟨⟩, -, complete, -⟩
    simp [incomplete] at complete
  · rw [Ledger.await_defined] at missing
    simp only [Declaration.forwardTags, incomplete, true_and, Tag.read_of_result reading]
    rcases named : record.canonical? with _ | canonical
    · simp [Ledger.await, named]
    · simp only [Option.some.injEq]
      by_cases known : canonical ∈ ledger.defined
      · have apart : canonical ≠ other := fun same => missing (same ▸ known)
        simp [Ledger.await, named, known, apart]
      · rw [Ledger.waitingTags_await named known]
        by_cases same : other = canonical
        · simp [same]
        · simp [same, Ne.symm same]

theorem define (gathered : TagsGathered dumpAll names before ledger)
    (complete : record.complete = true) (dumpAll_eq : after.dumpAll = ledger.dumpAll)
    (names_eq : after.names = ledger.names) (more : ledger.defined ⊆ after.defined)
    (defined_iff : ∀ name, Identities.namedType name ∈ after.defined ↔
      Identities.namedType name ∈ ledger.defined ∨
        record.canonical? = some (Identities.namedType name) ∧ IsDue dumpAll names before record)
    (waiting : ∀ canonical ∉ after.defined,
      after.waitingTags canonical = ledger.waitingTags canonical) :
    TagsGathered dumpAll names (before ++ [.record record]) after := by
  refine gathered.snoc dumpAll_eq names_eq more (fun name => ?_) fun canonical missing => ?_
  · simpa using defined_iff name
  · simp [waiting canonical missing, Declaration.forwardTags, complete]

end TagsGathered

theorem Ledger.Documents.tagsGathered {dumpAll : Bool} {names : List CodeText}
    {before : List Declaration} {declaration : Declaration} {ledger after : Ledger}
    {written : Bool} {added : List Block}
    (documented : ledger.Documents declaration (.ok written) after added)
    (gathered : TagsGathered dumpAll names before ledger) :
    TagsGathered dumpAll names (before ++ [declaration]) after := by
  cases documented with
  | ignored notRecord => exact gathered.other notRecord rfl rfl rfl rfl
  | ineligible | aborted | repeated | entered => exact gathered.other (by simp) rfl rfl rfl rfl
  | forward reading incomplete => exact gathered.await reading incomplete
  | @passed record own after reading complete decided =>
      -- either there are no tags for the definition, or its type has a block already
      have known_of_due (name : CodeText)
          (named : record.canonical? = some (Identities.namedType name))
          (due : IsDue dumpAll names before record)
          (skipped : Tag.isEligible (ledger.tagsFor record own) ledger.dumpAll = false) :
          Identities.namedType name ∈ ledger.defined := by
        by_contra fresh
        have eligible := (gathered.isDue_iff reading complete (by simpa [named] using fresh)).mp due
        simp [skipped] at eligible
      rcases define_none decided with ⟨skipped, rfl⟩ | ⟨-, known, rfl⟩
      · refine gathered.define complete rfl rfl (by simp) (fun name => ?_) fun _ _ => rfl
        exact (or_iff_left_of_imp fun due => known_of_due name due.1 due.2 skipped).symm
      · rcases named : record.canonical? with _ | canonical
        · rw [identify_unnamed named]
          exact gathered.define complete rfl rfl (by simp) (by simp [named]) fun _ _ => rfl
        · have kept (other : CodeText) (missing : other ∉ ledger.defined) :
              (ledger.identify record).2.waitingTags other = ledger.waitingTags other := by
            refine waitingTags_identify_of_ne named ?_
            rintro rfl
            rw [identify_named named] at known
            exact missing known
          rw [identify_named named] at known
          refine gathered.define complete (by simp) (by simp) (by simp) (fun name => ?_)
            (by simpa using kept)
          rw [identify_defined, named]
          refine (or_iff_left_of_imp ?_).symm
          rintro ⟨⟨⟩, -⟩
          exact known
  | @defined record own next header entries ordinal result reading complete decided =>
      obtain ⟨eligible, fresh, published⟩ := define_some decided
      cases published
      rcases named : record.canonical? with _ | canonical
      · rw [identify_unnamed named]
        refine gathered.define complete rfl rfl (by simp) (fun name => ?_) fun _ _ => rfl
        simp [named, namedType_ne_unknownName]
      · rw [identify_named named] at fresh
        -- the tags of this type are shown now, those of all others still wait
        have due : IsDue dumpAll names before record :=
          (gathered.isDue_iff reading complete (by simpa [named] using fresh)).mpr eligible
        refine gathered.define complete (by simp) (by simp) (by simp) (fun name => ?_) ?_
        · simp [identify_named named, named, due, or_comm, eq_comm]
        · intro other missing
          refine waitingTags_identify_of_ne named ?_
          rintro rfl
          simp [identify_named named] at missing

/-! ## The tags of a block -/

def Document.Block.tagEntries (block : Block) : List Entry :=
  block.entries.filter (·.1 == .ofString "tags")

namespace Entries

theorem filter_tags_ofTags (tags : TagList) :
    (ofTags tags).filter (·.1 == .ofString "tags") = ofTags tags := by
  unfold ofTags
  split <;> simp

theorem filter_tags_ofHeader (record : Record) (tags : TagList) :
    (ofHeader record tags).filter (·.1 == .ofString "tags") = ofTags tags := by
  have others : (ofLocation record.location ++
      [knownNumber "$sizeof" record.size, knownNumber "$alignof" record.align]).filter
        (·.1 == .ofString "tags") = [] := rfl
  rw [ofHeader, List.filter_append, others, filter_tags_ofTags, List.nil_append]

theorem filter_tags_ofStub (awaited : AwaitedRecord) :
    (ofStub awaited).filter (·.1 == .ofString "tags") = ofTags awaited.tags := by
  have others : (ofLocation awaited.declaration.location ++ flag "incomplete" true).filter
      (·.1 == .ofString "tags") = [] := rfl
  rw [ofStub, List.filter_append, others, filter_tags_ofTags, List.nil_append]

theorem filter_tags_ofRecord {names defined : List CodeText} {ordinal : Nat} {record : Record}
    {tags : TagList} {entries : List Entry} (headed : ofHeader record tags <+: entries)
    (begins : Tree.EntriesBegin entries (ofRecord names defined ordinal record tags).1) :
    entries.filter (·.1 == .ofString "tags") = ofTags tags := by
  obtain ⟨rest, rfl⟩ := headed
  have keys := begins.keys
  rw [ofRecord_eq, List.map_append, List.map_append, List.prefix_append_right_inj] at keys
  have members : rest.filter (·.1 == .ofString "tags") = [] := by
    rw [List.filter_eq_nil_iff]
    intro entry mem tagged
    obtain ⟨member, held, key_eq⟩ := List.mem_map.mp (keys.subset (List.mem_map_of_mem mem))
    have slot := (slots_ofMembers names defined ordinal record).2 member held
    rw [key_eq, beq_iff_eq.mp tagged] at slot
    exact not_isSlotKey_header (by simp [headerNames]) slot
  rw [List.filter_append, filter_tags_ofHeader, members, List.append_nil]

end Entries

/-- What the block of an origin is written for: the first definition of a type that is due, or a
type without one; and the tags gathered for it. -/
def Origin.Gathers (dumpAll : Bool) (names : List CodeText) (declarations : List Declaration)
    (tags : TagList) : Origin → Prop
  | definition record => ∃ earlier later, declarations = earlier ++ .record record :: later ∧
      IsDue dumpAll names earlier record ∧
      (∀ canonical, record.canonical? = some canonical → ¬HasDue dumpAll names earlier canonical) ∧
      tags = gatheredTags names earlier record
  | stub record => ∃ canonical, record.canonical? = some canonical ∧
      ¬HasDue dumpAll names declarations canonical ∧
      tags = forwardTags names declarations canonical
  | function _ => True

theorem Ledger.Documents.gathers {dumpAll : Bool} {names : List CodeText}
    {before : List Declaration} {declaration : Declaration} {ledger after : Ledger}
    {result : Except WalkFault Bool} {added : List Block}
    (documented : ledger.Documents declaration result after added)
    (gathered : TagsGathered dumpAll names before ledger) (later : List Declaration) :
    ∀ entry ∈ declaration.origins added, ∃ tags,
      entry.1.Gathers dumpAll names (before ++ declaration :: later) tags ∧
      ((∃ written, result = .ok written) → entry.2.kind = .struct →
        entry.2.tagEntries = Entries.ofTags tags) := by
  cases documented with
  | ignored | unread => cases declaration <;> simp [Declaration.origins]
  | forward | passed | ineligible | aborted | repeated => simp [Declaration.origins]
  | @defined record own next header entries ordinal _ reading complete decided handed bases accepted
      exactly begins headed =>
      obtain ⟨eligible, fresh, published⟩ := define_some decided
      cases published
      rintro entry mem
      rw [List.mem_singleton.mp mem]
      have unknown (canonical : CodeText) (named : record.canonical? = some canonical) :
          canonical ∉ ledger.defined := by
        rwa [identify_named named] at fresh
      refine ⟨_, ⟨before, later, rfl, (gathered.isDue_iff reading complete unknown).mpr eligible,
        fun canonical named due => ?_, (gathered.tagsFor_eq reading unknown)⟩, ?_⟩
      · obtain ⟨name, -, rfl⟩ := exists_name_of_canonical? named
        exact unknown _ named ((gathered.defined_iff name).mpr due)
      · rintro ⟨written, rfl⟩ -
        exact Entries.filter_tags_ofRecord (headed (by simp)) begins
  | entered =>
      rintro entry mem
      rw [List.mem_singleton.mp mem]
      exact ⟨[], trivial, by simp⟩

/-! ## Whole runs -/

/-- The origins of blocks.  Each block but a broken one at the end shows all the tags gathered
for it. -/
structure Traced (dumpAll : Bool) (names : List CodeText) (declarations : List Declaration)
    (done : Prop) (blocks : List Block) (whole broken : Origins) : Prop where
  blocks_eq : blocks = (whole ++ broken).map (·.2)
  single : broken.length ≤ 1
  complete : done → broken = []
  heads : ∀ entry ∈ whole ++ broken, entry.1.declaration ∈ declarations ∧ entry.1.Heads entry.2
  shows : ∀ entry ∈ whole, ∃ tags, entry.1.Gathers dumpAll names declarations tags ∧
    (entry.2.kind = .struct → entry.2.tagEntries = Entries.ofTags tags)
  gathers : ∀ entry ∈ broken, ∃ tags, entry.1.Gathers dumpAll names declarations tags

namespace Traced

variable {dumpAll : Bool} {names : List CodeText} {declarations : List Declaration}
  {done : Prop} {blocks others : List Block} {first whole broken : Origins}

theorem nil : Traced dumpAll names declarations done [] [] [] where
  blocks_eq := rfl
  single := by simp
  complete _ := rfl
  heads := by simp
  shows := by simp
  gathers := by simp

theorem append (early : Traced dumpAll names declarations True blocks first [])
    (late : Traced dumpAll names declarations done others whole broken) :
    Traced dumpAll names declarations done (blocks ++ others) (first ++ whole) broken where
  blocks_eq := by simp [early.blocks_eq, late.blocks_eq]
  single := late.single
  complete := late.complete
  heads entry mem := by
    rw [List.append_assoc] at mem
    rcases List.mem_append.mp mem with mem | mem
    · exact early.heads entry (by simp [mem])
    · exact late.heads entry mem
  shows entry mem := by
    rcases List.mem_append.mp mem with mem | mem
    · exact early.shows entry mem
    · exact late.shows entry mem
  gathers := late.gathers

theorem stub {entry : AwaitedRecord} {block : Block}
    (declared : entry.declaration.complete = false ∧ .record entry.declaration ∈ declarations)
    (heads : (Origin.stub entry.declaration).Heads block)
    (gathers : (Origin.stub entry.declaration).Gathers dumpAll names declarations entry.tags)
    (shows : block.tagEntries = Entries.ofTags entry.tags) :
    Traced dumpAll names declarations True [block] [(.stub entry.declaration, block)] [] where
  blocks_eq := rfl
  single := by simp
  complete _ := rfl
  heads other mem := by
    rw [List.append_nil, List.mem_singleton] at mem
    rw [mem]
    exact ⟨declared.2, heads⟩
  shows other mem := by
    rw [List.mem_singleton.mp mem]
    exact ⟨entry.tags, gathers, fun _ => shows⟩
  gathers := by simp

end Traced

section Runs

variable {dumpAll : Bool} {names : List CodeText} {before declarations : List Declaration}
  {ledger after : Ledger}

theorem Ledger.Documents.traced {declaration : Declaration} {written : Bool} {added : List Block}
    (documented : ledger.Documents declaration (.ok written) after added)
    (gathered : TagsGathered dumpAll names before ledger) (later : List Declaration) :
    Traced dumpAll names (before ++ declaration :: later) True added
      (declaration.origins added) [] where
  blocks_eq := by rw [List.append_nil, documented.heads.1]
  single := by simp
  complete _ := rfl
  heads entry mem := by
    rw [List.append_nil] at mem
    obtain ⟨declared, heads⟩ := documented.heads.2 entry mem
    exact ⟨by simp [declared], heads⟩
  shows entry mem := by
    obtain ⟨tags, gathers, shows⟩ := documented.gathers gathered later entry mem
    exact ⟨tags, gathers, shows ⟨written, rfl⟩⟩
  gathers := by simp

theorem Ledger.Runs.traced {result : Except WalkFault Unit} {added : List Block}
    (runs : ledger.Runs declarations result after added)
    (gathered : TagsGathered dumpAll names before ledger) :
    ∃ whole broken, Traced dumpAll names (before ++ declarations) (result = .ok ()) added
        whole broken ∧
      (result = .ok () → TagsGathered dumpAll names (before ++ declarations) after) := by
  induction runs generalizing before with
  | done => exact ⟨[], [], .nil, fun _ => by simpa using gathered⟩
  | @fails ledger after declaration rest fault added abroad documented =>
      refine ⟨[], declaration.origins added, ?_, by simp⟩
      have added_eq := documented.heads.1
      have most : added.length ≤ 1 := by cases documented <;> simp
      refine ⟨added_eq.symm, ?_, by simp, fun entry mem => ?_, by simp, fun entry mem => ?_⟩
      · rwa [← added_eq, List.length_map] at most
      · obtain ⟨declared, heads⟩ := documented.heads.2 entry mem
        exact ⟨by simp [declared], heads⟩
      · obtain ⟨tags, gathers, -⟩ := documented.gathers gathered rest entry mem
        exact ⟨tags, gathers⟩
  | @step ledger middle after declaration rest written result added others documented later ih =>
      obtain ⟨whole, broken, traced, gathered_later⟩ := ih (documented.tagsGathered gathered)
      rw [List.append_assoc, List.singleton_append] at traced gathered_later
      exact ⟨_, broken, (documented.traced gathered rest).append traced, gathered_later⟩

theorem Stubs.traced {keys claimed : UniqueKeys} {awaited : List AwaitedRecord}
    {result : Except WalkFault Unit} {added : List Block}
    (stubs : Stubs keys awaited result claimed added)
    (declared : ∀ entry ∈ awaited,
      entry.declaration.complete = false ∧ .record entry.declaration ∈ declarations)
    (gathers : ∀ entry ∈ awaited,
      (Origin.stub entry.declaration).Gathers dumpAll names declarations entry.tags) :
    ∃ whole broken, Traced dumpAll names declarations (result = .ok ()) added whole broken ∧
      (result = .ok () → ∀ entry ∈ awaited, ∃ block, (.stub entry.declaration, block) ∈ whole) := by
  induction stubs with
  | done => exact ⟨[], [], .nil, by simp⟩
  | @fails keys first rest fault entries =>
      obtain ⟨incomplete, mem⟩ := declared first (by simp)
      refine ⟨[], [(.stub first.declaration, _)], ⟨rfl, by simp, by simp, ?_, by simp, ?_⟩, by simp⟩
      · rintro entry one
        rw [List.nil_append, List.mem_singleton] at one
        rw [one]
        exact ⟨mem, heads_stub keys entries incomplete⟩
      · rintro entry one
        rw [List.mem_singleton.mp one]
        exact ⟨first.tags, gathers first (by simp)⟩
  | @step keys claimed first rest result others later _ ih =>
      obtain ⟨whole, broken, traced, all⟩ := ih (fun entry mem => declared entry (by simp [mem]))
        fun entry mem => gathers entry (by simp [mem])
      have stub := Traced.stub (declared first (by simp))
        (heads_stub keys _ (declared first (by simp)).1) (gathers first (by simp))
        (Entries.filter_tags_ofStub first)
      refine ⟨_, broken, stub.append traced, fun done entry mem => ?_⟩
      rcases List.mem_cons.mp mem with rfl | mem
      · exact ⟨_, List.mem_cons_self⟩
      · obtain ⟨block, held⟩ := all done entry mem
        exact ⟨block, List.mem_append_right _ held⟩

/-- What waits at the end of the declarations is gathered for types without a definition that
is due. -/
theorem TagsGathered.gathers_stub {blocks : Origins} {entry : AwaitedRecord}
    (gathered : TagsGathered dumpAll names declarations ledger)
    (covered : TypesCovered dumpAll names declarations ledger blocks)
    (waits : entry ∈ ledger.awaited) :
    (Origin.stub entry.declaration).Gathers dumpAll names declarations entry.tags := by
  have named := (covered.waiting_declared entry waits).1
  have fresh := covered.waiting_fresh entry waits
  refine ⟨entry.canonical, named, fun due => ?_, ?_⟩
  · obtain ⟨name, -, name_eq⟩ := exists_name_of_canonical? named
    rw [name_eq] at due fresh
    exact fresh ((gathered.defined_iff name).mpr due)
  · rw [← Ledger.waitingTags_of_mem waits covered.waiting_nodup]
    exact gathered.waiting entry.canonical fresh

end Runs

/-- The blocks of a run with their origins.  At the end of the run, each type that is to be
documented and has no definition that is due has a stub. -/
theorem documentGroups_traced (groups : List (List Declaration)) (dumpAll : Bool)
    (tagNames : List CodeText) :
    let run := documentGroups groups dumpAll tagNames
    let declarations := groups.flatten
    ∃ blocks whole broken, Event.written run.events = blocks.flatMap Block.text ∧
      Traced dumpAll tagNames declarations (run.result = .ok ()) blocks whole broken ∧
      (run.result = .ok () → ∀ canonical, TypeChosen dumpAll tagNames declarations canonical →
        ¬HasDue dumpAll tagNames declarations canonical →
        ∃ record block, (.stub record, block) ∈ whole ∧ record.canonical? = some canonical) := by
  intro run declarations
  obtain ⟨middle, walked, blocks, stubs, text_eq, runs, ending⟩ :=
    documentGroups_blocks groups dumpAll tagNames
  obtain ⟨first, broken, traced, gathered⟩ := runs.traced .fresh
  rw [List.nil_append] at traced gathered
  rcases walked with fault | ⟨⟩
  · obtain ⟨failed, rfl⟩ := ending
    have unfinished : run.result ≠ .ok () := by
      intro done
      cases failed.symm.trans done
    refine ⟨blocks, first, broken, by simpa using text_eq, ?_, fun done => absurd done unfinished⟩
    exact { traced with complete := fun done => absurd done unfinished }
  · obtain ⟨origins, -, covered, complete⟩ := runs.fresh_covered
    have waiting := covered.types.waiting_declared
    obtain ⟨whole, last, stubs_traced, all⟩ := ending.traced
      (fun entry waits => (waiting entry waits).2)
      fun entry waits => (gathered rfl).gathers_stub covered.types waits
    obtain rfl := traced.complete rfl
    have early : Traced dumpAll tagNames declarations True blocks first [] :=
      { traced with complete := fun _ => rfl }
    refine ⟨_, _, last, text_eq, early.append stubs_traced, fun done canonical chosen missing => ?_⟩
    obtain ⟨record, -, named, -⟩ := id chosen
    obtain ⟨name, -, rfl⟩ := exists_name_of_canonical? named
    rcases (complete rfl).types _ chosen with known | waits
    · exact absurd (((gathered rfl).defined_iff name).mp known) missing
    · obtain ⟨entry, held, canonical_eq⟩ := List.mem_map.mp waits
      obtain ⟨block, mem⟩ := all done entry held
      exact ⟨entry.declaration, block, List.mem_append_right _ mem,
        canonical_eq ▸ (waiting entry held).1⟩

/-- The block of a definition shows the tags of the forward declarations of its type before it,
in order, then its own; a stub shows those of all forward declarations.  The definition is the
first that has tags to show, or the first of all if everything is documented.  Only a block that
breaks off, at the end of a run that fails, may show less. -/
theorem blocks_show_gathered_tags (groups : List (List Declaration)) (dumpAll : Bool)
    (tagNames : List CodeText) :
    let run := documentGroups groups dumpAll tagNames
    let declarations := groups.flatten
    ∃ whole broken : Origins,
      Event.written run.events = ((whole ++ broken).map (·.2)).flatMap Block.text ∧
      broken.length ≤ 1 ∧ (run.result = .ok () → broken = []) ∧
      (∀ entry ∈ whole ++ broken,
        entry.1.declaration ∈ declarations ∧ entry.1.Heads entry.2) ∧
      (∀ record block canonical, (.definition record, block) ∈ whole →
        record.canonical? = some canonical →
        ∃ earlier later, declarations = earlier ++ .record record :: later ∧
          IsDue dumpAll tagNames earlier record ∧ ¬HasDue dumpAll tagNames earlier canonical ∧
          block.tagEntries = Entries.ofTags
            (forwardTags tagNames earlier canonical ++ Tag.read tagNames record.attributes)) ∧
      ∀ record block canonical, (.stub record, block) ∈ whole →
        record.canonical? = some canonical →
        block.tagEntries = Entries.ofTags (forwardTags tagNames declarations canonical) := by
  intro run declarations
  obtain ⟨blocks, whole, broken, text_eq, traced, -⟩ :=
    documentGroups_traced groups dumpAll tagNames
  refine ⟨whole, broken, traced.blocks_eq ▸ text_eq, traced.single, traced.complete, traced.heads,
    fun record block canonical mem named => ?_, fun record block canonical mem named => ?_⟩
  · have kind := (traced.heads _ (List.mem_append_left _ mem)).2.2.1
    obtain ⟨tags, ⟨earlier, later, split, due, first, rfl⟩, shows⟩ := traced.shows _ mem
    refine ⟨earlier, later, split, due, first canonical named, ?_⟩
    simpa [gatheredTags, named] using shows kind
  · have kind := (traced.heads _ (List.mem_append_left _ mem)).2.2.1
    obtain ⟨tags, ⟨_, named_eq, -, rfl⟩, shows⟩ := traced.shows _ mem
    cases named.symm.trans named_eq
    exact shows kind

/-- A type gets a stub if it is to be documented and each of its definitions comes when there are
no tags for it: none of its own and none of forward declarations before it. -/
theorem stub_iff_no_definition_due (groups : List (List Declaration)) (dumpAll : Bool)
    (tagNames : List CodeText) :
    let run := documentGroups groups dumpAll tagNames
    let declarations := groups.flatten
    ∃ blocks : Origins,
      Event.written run.events = (blocks.map (·.2)).flatMap Block.text ∧
      (∀ entry ∈ blocks, entry.1.declaration ∈ declarations ∧ entry.1.Heads entry.2) ∧
      (∀ record block, (.stub record, block) ∈ blocks →
        ∃ canonical, record.canonical? = some canonical ∧
          ∀ earlier definition later, declarations = earlier ++ .record definition :: later →
            definition.canonical? = some canonical → definition.complete = true →
            dumpAll = false ∧ forwardTags tagNames earlier canonical = [] ∧
              Tag.read tagNames definition.attributes = []) ∧
      (run.result = .ok () → ∀ canonical, TypeChosen dumpAll tagNames declarations canonical →
        ¬HasDue dumpAll tagNames declarations canonical →
        ∃ record block, (.stub record, block) ∈ blocks ∧ record.canonical? = some canonical) := by
  intro run declarations
  obtain ⟨blocks, whole, broken, text_eq, traced, all⟩ :=
    documentGroups_traced groups dumpAll tagNames
  refine ⟨whole ++ broken, traced.blocks_eq ▸ text_eq, traced.heads, fun record block mem => ?_,
    fun done canonical chosen missing => ?_⟩
  · obtain ⟨tags, canonical, named, missing, -⟩ :
        ∃ tags, (Origin.stub record).Gathers dumpAll tagNames declarations tags := by
      rcases List.mem_append.mp mem with mem | mem
      · obtain ⟨tags, gathers, -⟩ := traced.shows _ mem
        exact ⟨tags, gathers⟩
      · exact traced.gathers _ mem
    refine ⟨canonical, named, fun earlier definition later split same complete => ?_⟩
    have skipped : Tag.isEligible (gatheredTags tagNames earlier definition) dumpAll = false := by
      rw [Bool.eq_false_iff]
      exact fun eligible => missing ⟨earlier, definition, later, split, same, complete, eligible⟩
    simpa [Tag.isEligible, gatheredTags, same] using skipped
  · obtain ⟨record, block, mem, named⟩ := all done canonical chosen missing
    exact ⟨record, block, List.mem_append_left _ mem, named⟩

def definedThenTagged : List (List Declaration) :=
  [[.record { name := some "P", location := ⟨"a.h", 1⟩ }],
    [.record
      { name := some "P", location := ⟨"b.h", 2⟩, complete := false,
        attributes := [{ name := "compex_tag" }] }]]

/-- The type is defined, and all the same it gets a stub and the warning that it is not. -/
theorem definedThenTagged_stub :
    let run := documentGroups definedThenTagged false Tag.defaultNames
    (∃ record, .record record ∈ definedThenTagged.flatten ∧
        record.canonical? = some (Identities.namedType "P") ∧ record.complete = true) ∧
      run.result = .ok () ∧
      Event.document run.events =
        "P: !compex/struct\n  $srcFile: b.h\n  $srcLine: 2\n  incomplete: true\n" ∧
      Event.report
        { level := .warning, channel := Channel.catalog,
          message := "Type P (b.h:2) is declared but never defined; emitting header only" } ∈
        run.events := by
  refine ⟨⟨_, List.mem_cons_self, rfl, rfl⟩, ?_⟩
  decide +kernel

end TypeCatalog
