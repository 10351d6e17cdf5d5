import TypeCatalog.Proofs.CleanRun

/-!
# Which declarations a document covers

Whether a type gets a block is spread over a run: tags wait with forward
declarations, the first definition wins, and what still waits at the end gets
a stub.  Put together, a type has exactly one block if one of its declarations
is to be documented and none otherwise, in whatever order they come; the same
holds for the functions of a signature.
-/

namespace TypeCatalog

open Document
open Text (CodeText)

/-! ## The origin of a block -/

inductive Origin where
  | definition (record : Record)
  | stub (record : Record)
  | function (declared : Function)

namespace Origin

def declaration : Origin → Declaration
  | definition record | stub record => .record record
  | function declared => .function declared

def canonical? : Origin → Option CodeText
  | definition record | stub record => record.canonical?
  | function _ => none

def signature? : Origin → Option Signature
  | function declared => some declared.signature
  | _ => none

def Heads (origin : Origin) (block : Block) : Prop :=
  (∀ name, Text.proper? origin.declaration.name? = some name →
      ∃ ordinal, block.key = UniqueKeys.variant name ordinal) ∧
    match origin with
    | definition record =>
      block.kind = .struct ∧ record.complete = true ∧
        ∃ anchor, block.anchor = some anchor ∧
          ∀ canonical, record.canonical? = some canonical → anchor = canonical
    | stub record => block.kind = .struct ∧ record.complete = false ∧ block.anchor = none
    | function _ => block.kind = .function ∧ block.anchor = none

end Origin

abbrev Origins := List (Origin × Block)

namespace Origins

def typeCount (blocks : Origins) (canonical : CodeText) : Nat :=
  blocks.countP fun (origin, _) => origin.canonical? == some canonical

def functionCount (blocks : Origins) (signature : Signature) : Nat :=
  blocks.countP fun (origin, _) => origin.signature? == some signature

end Origins

def Declaration.origins (declaration : Declaration) (blocks : List Block) : Origins :=
  match declaration with
  | .record declared => blocks.map (Origin.definition declared, ·)
  | .function declared => blocks.map (Origin.function declared, ·)
  | _ => []

theorem Ledger.Documents.heads {before after : Ledger} {declaration : Declaration}
    {result : Except WalkFault Bool} {blocks : List Block}
    (documented : before.Documents declaration result after blocks) :
    (declaration.origins blocks).map (·.2) = blocks ∧
      ∀ entry ∈ declaration.origins blocks,
        entry.1.declaration = declaration ∧ entry.1.Heads entry.2 := by
  cases documented with
  | ignored | unread => cases declaration <;> simp [Declaration.origins]
  | forward | passed | ineligible | aborted | repeated => simp [Declaration.origins]
  | @defined record own next header entries ordinal result reading complete decided =>
      obtain ⟨-, -, published⟩ := define_some decided
      cases published
      refine ⟨by simp [Declaration.origins], ?_⟩
      rintro entry mem
      rw [List.mem_singleton.mp mem]
      refine ⟨rfl, ?_, rfl, complete, _, rfl, ?_⟩
      · intro name proper
        have proper : Text.proper? record.name = some name := proper
        simp only [proper, Option.getD_some]
        exact ⟨_, rfl⟩
      · intro canonical named
        simp [identify, named]
  | @entered declared own entries ordinal result reading eligible calm fresh handed bases
      accepted =>
      refine ⟨by simp [Declaration.origins], ?_⟩
      rintro entry mem
      rw [List.mem_singleton.mp mem]
      refine ⟨rfl, ?_, rfl, rfl⟩
      intro name proper
      have proper : Text.proper? declared.name = some name := proper
      simp only [enter, functionName, proper]
      exact ⟨_, rfl⟩

/-! ## Declarations to be documented -/

/-- Attributes make a declaration one to be documented: all of them are, or one is a tag. -/
def IsChosen (dumpAll : Bool) (names : List CodeText) (attributes : List Attribute) : Prop :=
  dumpAll = true ∨ ∃ candidate ∈ attributes, candidate.name ∈ names

def TypeChosen (dumpAll : Bool) (names : List CodeText) (declarations : List Declaration)
    (canonical : CodeText) : Prop :=
  ∃ record, .record record ∈ declarations ∧ record.canonical? = some canonical ∧
    IsChosen dumpAll names record.attributes

def SignatureChosen (dumpAll : Bool) (names : List CodeText) (declarations : List Declaration)
    (signature : Signature) : Prop :=
  ∃ function, .function function ∈ declarations ∧ function.signature = signature ∧
    function.parameters.fault = none ∧ IsChosen dumpAll names function.attributes

theorem isEmpty_ofAttributes {names : List CodeText} {attributes : List Attribute}
    {tags : TagList} (reading : (Tag.ofAttributes names attributes).result = .ok tags) :
    tags = [] ↔ ∀ candidate ∈ attributes, candidate.name ∉ names := by
  induction attributes generalizing tags with
  | nil =>
      simp only [Tag.ofAttributes, Except.ok.injEq] at reading
      simp [← reading]
  | cons first rest ih =>
      unfold Tag.ofAttributes at reading
      split at reading
      · rename_i tagged
        dsimp only at reading
        split at reading
        · cases reading
        · have present := List.contains_iff_mem.mp tagged
          rcases others : (Tag.ofAttributes names rest).result with fault | others
          · simp [others, Except.map] at reading
          · simp only [others, Except.map, Except.ok.injEq] at reading
            simp [← reading, present]
      · rename_i untagged
        have missing : first.name ∉ names := fun mem => untagged (List.contains_iff_mem.mpr mem)
        rw [ih reading]
        simp [missing]

theorem isEligible_iff {dumpAll : Bool} {names : List CodeText} {attributes : List Attribute}
    {own : TagList} (reading : (Tag.ofAttributes names attributes).result = .ok own) :
    Tag.isEligible own dumpAll = true ↔ IsChosen dumpAll names attributes := by
  have tagged : own ≠ [] ↔ ∃ candidate ∈ attributes, candidate.name ∈ names := by
    rw [ne_eq, isEmpty_ofAttributes reading]
    simp
  rw [IsChosen, ← tagged]
  simp [Tag.isEligible]

/-! ## Types -/

def Ledger.Knows (ledger : Ledger) (canonical : CodeText) : Prop :=
  canonical ∈ ledger.defined ∨ canonical ∈ ledger.awaited.map (·.canonical)

/-- What the ledger and the blocks say about types after some declarations. -/
structure TypesCovered (dumpAll : Bool) (names : List CodeText) (declarations : List Declaration)
    (ledger : Ledger) (blocks : Origins) : Prop where
  dumpAll_eq : ledger.dumpAll = dumpAll
  names_eq : ledger.names = names
  count_eq : ∀ name, blocks.typeCount (Identities.namedType name) =
    if Identities.namedType name ∈ ledger.defined then 1 else 0
  waiting_nodup : (ledger.awaited.map (·.canonical)).Nodup
  waiting_fresh : ∀ awaited ∈ ledger.awaited, awaited.canonical ∉ ledger.defined
  waiting_declared : ∀ awaited ∈ ledger.awaited,
    awaited.declaration.canonical? = some awaited.canonical ∧
      awaited.declaration.complete = false ∧ .record awaited.declaration ∈ declarations
  waiting_eligible : ∀ awaited ∈ ledger.awaited, Tag.isEligible awaited.tags dumpAll = true
  chosen : ∀ name, ledger.Knows (Identities.namedType name) →
    TypeChosen dumpAll names declarations (Identities.namedType name)

section Types

variable {dumpAll : Bool} {names : List CodeText} {before : List Declaration}
  {declarations : List Declaration} {ledger : Ledger} {blocks : Origins}

theorem TypeChosen.mono {canonical : CodeText}
    (chosen : TypeChosen dumpAll names before canonical) (more : before ⊆ declarations) :
    TypeChosen dumpAll names declarations canonical := by
  obtain ⟨record, mem, named, chosen⟩ := chosen
  exact ⟨record, more mem, named, chosen⟩

theorem exists_name_of_canonical? {record : Record} {canonical : CodeText}
    (named : record.canonical? = some canonical) :
    ∃ name, Text.proper? record.name = some name ∧ canonical = Identities.namedType name := by
  obtain ⟨name, proper, rfl⟩ := Option.map_eq_some_iff.mp named
  exact ⟨name, proper, rfl⟩

theorem typeCount_append (first second : Origins) (canonical : CodeText) :
    Origins.typeCount (first ++ second) canonical =
      first.typeCount canonical + second.typeCount canonical :=
  List.countP_append

theorem typeCount_eq_zero {others : Origins} (canonical : CodeText)
    (untyped : ∀ entry ∈ others, entry.1.canonical? ≠ some canonical) :
    others.typeCount canonical = 0 := by
  rw [Origins.typeCount, List.countP_eq_zero]
  intro entry mem
  simpa using untyped entry mem

theorem typeCount_definition {record : Record} {canonical : CodeText}
    (named : record.canonical? = some canonical) (block : Block) (other : CodeText) :
    (Declaration.origins (.record record) [block]).typeCount other =
      if other = canonical then 1 else 0 := by
  have single : Declaration.origins (.record record) [block] = [(.definition record, block)] := rfl
  by_cases same : other = canonical
  · simp [Origins.typeCount, single, Origin.canonical?, named, same]
  · have different : canonical ≠ other := fun eq => same eq.symm
    simp [Origins.typeCount, single, Origin.canonical?, named, same, different]

namespace TypesCovered

theorem mono {after : Ledger} {added : Origins}
    (covered : TypesCovered dumpAll names before ledger blocks) (more : before ⊆ declarations)
    (dumpAll_eq : after.dumpAll = ledger.dumpAll) (names_eq : after.names = ledger.names)
    (defined_eq : ∀ name, Identities.namedType name ∈ after.defined ↔
      Identities.namedType name ∈ ledger.defined)
    (awaited_eq : after.awaited = ledger.awaited)
    (untyped : ∀ entry ∈ added, entry.1.canonical? = none) :
    TypesCovered dumpAll names declarations after (blocks ++ added) where
  dumpAll_eq := dumpAll_eq.trans covered.dumpAll_eq
  names_eq := names_eq.trans covered.names_eq
  count_eq name := by
    rw [typeCount_append, covered.count_eq,
      typeCount_eq_zero _ fun entry mem => by simp [untyped entry mem]]
    simp [defined_eq]
  waiting_nodup := awaited_eq ▸ covered.waiting_nodup
  waiting_fresh := by
    intro awaited mem
    rw [awaited_eq] at mem
    obtain ⟨name, -, name_eq⟩ :=
      exists_name_of_canonical? (covered.waiting_declared awaited mem).1
    rw [name_eq, defined_eq, ← name_eq]
    exact covered.waiting_fresh awaited mem
  waiting_declared := by
    intro awaited mem
    rw [awaited_eq] at mem
    obtain ⟨named, incomplete, declared⟩ := covered.waiting_declared awaited mem
    exact ⟨named, incomplete, more declared⟩
  waiting_eligible := awaited_eq ▸ covered.waiting_eligible
  chosen name := by
    rw [Ledger.Knows, awaited_eq, defined_eq]
    exact fun known => (covered.chosen name known).mono more

theorem weaken (covered : TypesCovered dumpAll names before ledger blocks)
    (more : before ⊆ declarations) : TypesCovered dumpAll names declarations ledger blocks := by
  have same := @mono dumpAll names before declarations ledger blocks ledger [] covered more rfl rfl
    (fun _ => Iff.rfl) rfl (by simp)
  rwa [List.append_nil] at same

theorem carry {record : Record} {canonical : CodeText} {tags : TagList}
    (covered : TypesCovered dumpAll names before ledger blocks) (more : before ⊆ declarations)
    (named : record.canonical? = some canonical) (incomplete : record.complete = false)
    (declared : .record record ∈ declarations) (fresh : canonical ∉ ledger.defined)
    (eligible : Tag.isEligible tags dumpAll = true)
    (chosen : TypeChosen dumpAll names declarations canonical) :
    TypesCovered dumpAll names declarations (ledger.carry record canonical tags) blocks where
  dumpAll_eq := covered.dumpAll_eq
  names_eq := covered.names_eq
  count_eq := covered.count_eq
  waiting_nodup := by
    rcases Ledger.canonicals_carry named with ⟨missing, waiting_eq⟩ | ⟨_, waiting_eq⟩
    · rw [waiting_eq, List.nodup_append]
      refine ⟨covered.waiting_nodup, by simp, ?_⟩
      rintro other mem _ last rfl
      rw [List.mem_singleton.mp last] at mem
      exact missing mem
    · rw [waiting_eq]
      exact covered.waiting_nodup
  waiting_fresh := by
    intro awaited mem
    rcases Ledger.mem_carry mem with rfl | held | ⟨entry, held, rfl⟩
    · exact fresh
    · exact covered.waiting_fresh awaited held
    · exact covered.waiting_fresh entry held
  waiting_declared := by
    intro awaited mem
    rcases Ledger.mem_carry mem with rfl | held | ⟨entry, held, rfl⟩
    · exact ⟨named, incomplete, declared⟩
    · obtain ⟨named, incomplete, declared⟩ := covered.waiting_declared awaited held
      exact ⟨named, incomplete, more declared⟩
    · obtain ⟨named, incomplete, declared⟩ := covered.waiting_declared entry held
      exact ⟨named, incomplete, more declared⟩
  waiting_eligible := by
    intro awaited mem
    rcases Ledger.mem_carry mem with rfl | held | ⟨entry, held, rfl⟩
    · exact eligible
    · exact covered.waiting_eligible awaited held
    · exact eligible
  chosen := by
    intro name known
    rcases Ledger.canonicals_carry named with ⟨_, waiting_eq⟩ | ⟨_, waiting_eq⟩ <;>
      rw [Ledger.Knows, waiting_eq] at known
    · rw [List.mem_append, ← or_assoc] at known
      rcases known with known | same
      · exact (covered.chosen name known).mono more
      · rwa [List.mem_singleton.mp same]
    · exact (covered.chosen name known).mono more

theorem settle {after : Ledger} {added : Origins} {canonical : CodeText}
    (covered : TypesCovered dumpAll names before ledger blocks) (more : before ⊆ declarations)
    (dumpAll_eq : after.dumpAll = ledger.dumpAll) (names_eq : after.names = ledger.names)
    (defined_iff : ∀ other, other ∈ after.defined ↔ other = canonical ∨ other ∈ ledger.defined)
    (awaited_eq : after.awaited = ledger.awaited.filter (·.canonical != canonical))
    (count_eq : ∀ name, added.typeCount (Identities.namedType name) =
      if Identities.namedType name = canonical ∧ canonical ∉ ledger.defined then 1 else 0)
    (chosen : TypeChosen dumpAll names declarations canonical) :
    TypesCovered dumpAll names declarations after (blocks ++ added) where
  dumpAll_eq := dumpAll_eq.trans covered.dumpAll_eq
  names_eq := names_eq.trans covered.names_eq
  count_eq name := by
    rw [typeCount_append, covered.count_eq, count_eq]
    simp only [defined_iff]
    by_cases same : Identities.namedType name = canonical
    · subst same
      by_cases known : Identities.namedType name ∈ ledger.defined <;> simp [known]
    · simp [same]
  waiting_nodup := by
    rw [awaited_eq]
    exact covered.waiting_nodup.sublist (List.filter_sublist.map _)
  waiting_fresh := by
    intro awaited mem
    rw [awaited_eq, List.mem_filter] at mem
    obtain ⟨held, other⟩ := mem
    rw [defined_iff]
    rintro (same | known)
    · simp [same] at other
    · exact covered.waiting_fresh awaited held known
  waiting_declared := by
    intro awaited mem
    rw [awaited_eq, List.mem_filter] at mem
    obtain ⟨named, incomplete, declared⟩ := covered.waiting_declared awaited mem.1
    exact ⟨named, incomplete, more declared⟩
  waiting_eligible := by
    intro awaited mem
    rw [awaited_eq, List.mem_filter] at mem
    exact covered.waiting_eligible awaited mem.1
  chosen := by
    intro name known
    rw [Ledger.Knows, awaited_eq, defined_iff] at known
    rcases known with (same | known) | waits
    · rwa [same]
    · exact (covered.chosen name (.inl known)).mono more
    · have held := (List.filter_sublist.map _).subset waits
      exact (covered.chosen name (.inr held)).mono more

theorem chosen_of_eligible {record : Record} {own : TagList} {canonical : CodeText}
    (covered : TypesCovered dumpAll names before ledger blocks)
    (reading : (Tag.ofAttributes ledger.names record.attributes).result = .ok own)
    (named : record.canonical? = some canonical)
    (eligible : Tag.isEligible (ledger.tagsFor record own) ledger.dumpAll = true) :
    TypeChosen dumpAll names (before ++ [.record record]) canonical := by
  rcases found : ledger.carried? record with _ | entry
  · rw [Ledger.tagsFor, found, covered.dumpAll_eq] at eligible
    rw [covered.names_eq] at reading
    exact ⟨record, by simp, named, (isEligible_iff reading).mp eligible⟩
  · rw [Ledger.carried?, named, Option.bind_some] at found
    have held := List.mem_of_find?_eq_some found
    have canonical_eq : entry.canonical = canonical := by simpa using List.find?_some found
    obtain ⟨name, -, rfl⟩ := exists_name_of_canonical? named
    have waits := List.mem_map.mpr ⟨entry, held, canonical_eq⟩
    exact (covered.chosen name (.inr waits)).mono (by simp)

theorem await {record : Record} {own : TagList}
    (covered : TypesCovered dumpAll names before ledger blocks)
    (reading : (Tag.ofAttributes ledger.names record.attributes).result = .ok own)
    (incomplete : record.complete = false) :
    TypesCovered dumpAll names (before ++ [.record record]) (ledger.await record own) blocks := by
  have unchanged : TypesCovered dumpAll names (before ++ [.record record]) ledger blocks :=
    covered.weaken (by simp)
  unfold Ledger.await
  rcases named : record.canonical? with _ | canonical
  · exact unchanged
  · dsimp only
    split
    · exact unchanged
    · rename_i fresh
      split
      · exact unchanged
      · rename_i skipped
        have eligible : Tag.isEligible (ledger.tagsFor record own) ledger.dumpAll = true := by
          simpa using skipped
        refine covered.carry (by simp) named incomplete (by simp) ?_ ?_ ?_
        · exact fun mem => fresh (List.contains_iff_mem.mpr mem)
        · rwa [← covered.dumpAll_eq]
        · exact covered.chosen_of_eligible reading named eligible

end TypesCovered

theorem Ledger.Documents.typesCovered {after : Ledger} {declaration : Declaration}
    {result : Except WalkFault Bool} {added : List Block}
    (documented : ledger.Documents declaration result after added)
    (covered : TypesCovered dumpAll names before ledger blocks) :
    TypesCovered dumpAll names (before ++ [declaration]) after
      (blocks ++ declaration.origins added) := by
  have more : before ⊆ before ++ [declaration] := by simp
  have unchanged : TypesCovered dumpAll names (before ++ [declaration]) ledger (blocks ++ []) := by
    rw [List.append_nil]
    exact covered.weaken more
  cases documented with
  | ignored | unread => cases declaration <;> exact unchanged
  | ineligible | aborted | repeated => exact unchanged
  | forward reading incomplete =>
      have waits := covered.await reading incomplete
      rwa [← List.append_nil blocks] at waits
  | @passed record own after reading complete decided =>
      rcases define_none decided with ⟨-, rfl⟩ | ⟨eligible, known, rfl⟩
      · exact unchanged
      · rcases named : record.canonical? with _ | canonical
        · rw [identify_unnamed named]
          exact covered.mono more rfl rfl (fun _ => Iff.rfl) rfl (by simp [Declaration.origins])
        · rw [identify_named named] at known ⊢
          refine covered.settle more rfl rfl ?_ rfl ?_
            (covered.chosen_of_eligible reading named eligible)
          · intro other
            constructor
            · exact .inr
            · rintro (rfl | mem)
              · exact known
              · exact mem
          · intro name
            have none_added : Origins.typeCount (Declaration.origins (.record record) [])
                (Identities.namedType name) = 0 := rfl
            simp [none_added, known]
  | @defined record own next header entries ordinal result reading complete decided =>
      obtain ⟨eligible, fresh, published⟩ := define_some decided
      rcases named : record.canonical? with _ | canonical
      · rw [identify_unnamed named] at published
        cases published
        refine covered.mono more rfl rfl ?_ rfl
          (by simp [Declaration.origins, Origin.canonical?, named])
        intro name
        simp [namedType_ne_unknownName]
      · rw [identify_named named] at published fresh
        cases published
        refine covered.settle more rfl rfl ?_ rfl ?_
          (covered.chosen_of_eligible reading named eligible)
        · simp
        · intro name
          rw [typeCount_definition named]
          simp [fresh]
  | entered =>
      refine covered.mono more rfl rfl (fun _ => Iff.rfl) rfl ?_
      simp [Declaration.origins, Origin.canonical?]

/-! ### No type is forgotten -/

theorem Ledger.Knows.await {record : Record} {own : TagList} {canonical : CodeText}
    (known : ledger.Knows canonical) : (ledger.await record own).Knows canonical := by
  unfold Ledger.await
  rcases named : record.canonical? with _ | other
  · exact known
  · dsimp only
    split
    · exact known
    · split
      · exact known
      · rcases known with known | waits
        · exact .inl known
        · rcases Ledger.canonicals_carry named with ⟨_, waiting_eq⟩ | ⟨_, waiting_eq⟩
          · rw [Ledger.Knows, waiting_eq]
            exact .inr (List.mem_append_left _ waits)
          · rw [Ledger.Knows, waiting_eq]
            exact .inr waits

theorem isEligible_tagsFor {record : Record} {own : TagList}
    (eligible : Tag.isEligible own ledger.dumpAll = true) :
    Tag.isEligible (ledger.tagsFor record own) ledger.dumpAll = true := by
  simp only [Tag.isEligible, Ledger.tagsFor, Bool.or_eq_true, Bool.not_eq_true',
    List.isEmpty_eq_false_iff] at eligible ⊢
  exact eligible.imp_right (List.append_ne_nil_of_right_ne_nil _)

theorem knows_await {record : Record} {own : TagList} {canonical : CodeText}
    (named : record.canonical? = some canonical)
    (eligible : Tag.isEligible own ledger.dumpAll = true) :
    (ledger.await record own).Knows canonical := by
  have counts : Tag.isEligible (ledger.tagsFor record own) ledger.dumpAll = true :=
    isEligible_tagsFor eligible
  unfold Ledger.await
  simp only [named, counts, Bool.not_true, Bool.false_eq_true, ↓reduceIte]
  split
  · rename_i known
    exact .inl (List.contains_iff_mem.mp known)
  · rcases Ledger.canonicals_carry named with ⟨_, waiting_eq⟩ | ⟨waits, waiting_eq⟩
    · rw [Ledger.Knows, waiting_eq]
      exact .inr (by simp)
    · rw [Ledger.Knows, waiting_eq]
      exact .inr waits

theorem Ledger.Knows.identify {canonical : CodeText} (known : ledger.Knows canonical)
    (record : Record) :
    canonical = (ledger.identify record).1 ∨ (ledger.identify record).2.Knows canonical := by
  rcases named : record.canonical? with _ | other
  · rw [Ledger.identify_unnamed named]
    exact .inr known
  · rw [Ledger.identify_named named]
    by_cases same : canonical = other
    · exact .inl same
    · refine .inr (known.imp_right fun waits => ?_)
      obtain ⟨entry, held, rfl⟩ := List.mem_map.mp waits
      exact List.mem_map.mpr ⟨entry, List.mem_filter.mpr ⟨held, by simpa using same⟩, rfl⟩

/-- A declaration that does not fail keeps what is known, and its own type is known after it
if it is to be documented. -/
theorem Ledger.Documents.knows {after : Ledger} {declaration : Declaration} {written : Bool}
    {added : List Block} {canonical : CodeText}
    (documented : ledger.Documents declaration (.ok written) after added)
    (known : ledger.Knows canonical ∨
      ∃ record, declaration = .record record ∧ record.canonical? = some canonical ∧
        IsChosen ledger.dumpAll ledger.names record.attributes) :
    after.Knows canonical := by
  cases documented with
  | ignored notRecord =>
      rcases known with known | ⟨record, rfl, -⟩
      · exact known
      · exact absurd rfl (notRecord record)
  | ineligible | aborted | repeated =>
      rcases known with known | ⟨record, isRecord, -⟩
      · exact known
      · cases isRecord
  | entered =>
      rcases known with known | ⟨record, isRecord, -⟩
      · exact known
      · cases isRecord
  | forward reading incomplete =>
      rcases known with known | ⟨record, ⟨⟩, named, chosen⟩
      · exact known.await
      · exact knows_await named ((isEligible_iff reading).mpr chosen)
  | @passed record own _ reading complete decided =>
      rcases known with known | ⟨_, ⟨⟩, named, chosen⟩
      · rcases define_none decided with ⟨-, rfl⟩ | ⟨-, defined, rfl⟩
        · exact known
        · rcases (known.identify record) with rfl | known
          · exact .inl (by rwa [identify_defined])
          · exact known
      · have eligible : Tag.isEligible (ledger.tagsFor record own) ledger.dumpAll = true :=
          isEligible_tagsFor ((isEligible_iff reading).mpr chosen)
        rcases define_none decided with ⟨skipped, -⟩ | ⟨-, defined, rfl⟩
        · rw [skipped] at eligible
          cases eligible
        · rw [identify_named named] at defined ⊢
          exact .inl defined
  | @defined record own next header entries ordinal _ reading complete decided =>
      obtain ⟨-, -, published⟩ := define_some decided
      cases published
      rcases known with known | ⟨_, ⟨⟩, named, -⟩
      · rcases (known.identify record) with rfl | known
        · exact .inl (by simp)
        · exact known.imp_left (List.mem_cons_of_mem _)
      · rw [identify_named named]
        exact .inl (by simp)

end Types

/-! ## Functions -/

/-- What the ledger and the blocks say about functions after some declarations. -/
structure FunctionsCovered (dumpAll : Bool) (names : List CodeText)
    (declarations : List Declaration) (ledger : Ledger) (blocks : Origins) : Prop where
  count_eq : ∀ signature, blocks.functionCount signature =
    if signature ∈ ledger.signatures then 1 else 0
  chosen : ∀ signature ∈ ledger.signatures,
    SignatureChosen dumpAll names declarations signature

section Functions

variable {dumpAll : Bool} {names : List CodeText} {before : List Declaration} {ledger : Ledger}
  {blocks : Origins}

theorem functionCount_append (first second : Origins) (signature : Signature) :
    Origins.functionCount (first ++ second) signature =
      first.functionCount signature + second.functionCount signature :=
  List.countP_append

theorem functionCount_eq_zero {others : Origins} (signature : Signature)
    (typed : ∀ entry ∈ others, entry.1.signature? = none) :
    others.functionCount signature = 0 := by
  rw [Origins.functionCount, List.countP_eq_zero]
  intro entry mem
  simp [typed entry mem]

theorem functionCount_function (declared : Function) (block : Block) (signature : Signature) :
    (Declaration.origins (.function declared) [block]).functionCount signature =
      if signature = declared.signature then 1 else 0 := by
  have single : Declaration.origins (.function declared) [block] =
    [(.function declared, block)] := rfl
  by_cases same : signature = declared.signature
  · simp [Origins.functionCount, single, Origin.signature?, same]
  · have different : declared.signature ≠ signature := fun eq => same eq.symm
    simp [Origins.functionCount, single, Origin.signature?, same, different]

theorem FunctionsCovered.mono {after : Ledger} {declaration : Declaration} {added : Origins}
    (covered : FunctionsCovered dumpAll names before ledger blocks)
    (signatures_eq : after.signatures = ledger.signatures)
    (typed : ∀ entry ∈ added, entry.1.signature? = none) :
    FunctionsCovered dumpAll names (before ++ [declaration]) after (blocks ++ added) where
  count_eq signature := by
    rw [functionCount_append, functionCount_eq_zero signature typed, covered.count_eq,
      signatures_eq, Nat.add_zero]
  chosen signature seen := by
    rw [signatures_eq] at seen
    obtain ⟨declared, mem, rest⟩ := covered.chosen signature seen
    exact ⟨declared, List.mem_append_left _ mem, rest⟩

theorem Ledger.Documents.functionsCovered {after : Ledger} {declaration : Declaration}
    {result : Except WalkFault Bool} {added : List Block}
    (documented : ledger.Documents declaration result after added)
    (dumpAll_eq : ledger.dumpAll = dumpAll) (names_eq : ledger.names = names)
    (covered : FunctionsCovered dumpAll names before ledger blocks) :
    FunctionsCovered dumpAll names (before ++ [declaration]) after
      (blocks ++ declaration.origins added) := by
  cases documented with
  | ignored | unread => cases declaration <;> exact covered.mono rfl (by simp [Declaration.origins])
  | ineligible | aborted | repeated => exact covered.mono rfl (by simp [Declaration.origins])
  | forward => exact covered.mono (await_signatures _ _ _) (by simp [Declaration.origins])
  | @passed record own _ reading complete decided =>
      refine covered.mono ?_ (by simp [Declaration.origins])
      rcases define_none decided with ⟨-, rfl⟩ | ⟨-, -, rfl⟩
      · rfl
      · exact ledger.identify_signatures record
  | @defined record own next header entries ordinal result reading complete decided =>
      obtain ⟨-, -, published⟩ := define_some decided
      cases published
      refine covered.mono (ledger.identify_signatures record) ?_
      simp [Declaration.origins, Origin.signature?]
  | @entered declared own entries ordinal result reading eligible calm fresh =>
      refine ⟨fun signature => ?_, fun signature seen => ?_⟩
      · rw [functionCount_append, functionCount_function, covered.count_eq]
        simp only [enter, List.mem_cons]
        by_cases same : signature = declared.signature
        · simp [same, fresh]
        · simp [same]
      · rcases List.mem_cons.mp seen with rfl | seen
        · rw [names_eq] at reading
          rw [dumpAll_eq] at eligible
          exact ⟨declared, by simp, rfl, calm, (isEligible_iff reading).mp eligible⟩
        · obtain ⟨declared, mem, rest⟩ := covered.chosen signature seen
          exact ⟨declared, List.mem_append_left _ mem, rest⟩

/-- A declaration that does not fail keeps the signatures seen, and its own is seen after it if
it is to be documented. -/
theorem Ledger.Documents.signature_mem {after : Ledger} {declaration : Declaration}
    {written : Bool} {added : List Block} {signature : Signature}
    (documented : ledger.Documents declaration (.ok written) after added)
    (seen : signature ∈ ledger.signatures ∨
      ∃ declared, declaration = .function declared ∧ declared.signature = signature ∧
        declared.parameters.fault = none ∧
        IsChosen ledger.dumpAll ledger.names declared.attributes) :
    signature ∈ after.signatures := by
  cases documented with
  | ignored notRecord notFunction =>
      rcases seen with seen | ⟨declared, rfl, -⟩
      · exact seen
      · exact absurd rfl (notFunction declared)
  | forward =>
      rcases seen with seen | ⟨_, isFunction, -⟩
      · rwa [await_signatures]
      · cases isFunction
  | @passed record own _ reading complete decided =>
      rcases seen with seen | ⟨_, isFunction, -⟩
      · rcases define_none decided with ⟨-, rfl⟩ | ⟨-, -, rfl⟩
        · exact seen
        · rwa [identify_signatures]
      · cases isFunction
  | @defined record own next header entries ordinal _ reading complete decided =>
      obtain ⟨-, -, published⟩ := define_some decided
      cases published
      rcases seen with seen | ⟨_, isFunction, -⟩
      · simpa using seen
      · cases isFunction
  | ineligible reading skipped =>
      rcases seen with seen | ⟨_, ⟨⟩, -, -, chosen⟩
      · exact seen
      · rw [← isEligible_iff reading, skipped] at chosen
        cases chosen
  | aborted reading fault =>
      rcases seen with seen | ⟨_, ⟨⟩, -, calm, -⟩
      · exact seen
      · rw [fault] at calm
        cases calm
  | repeated reading calm known =>
      rcases seen with seen | ⟨_, ⟨⟩, rfl, -⟩
      · exact seen
      · exact known
  | entered =>
      rcases seen with seen | ⟨_, ⟨⟩, rfl, -⟩
      · exact List.mem_cons_of_mem _ seen
      · exact List.mem_cons_self

end Functions

/-! ## Whole runs -/

section Runs

variable {dumpAll : Bool} {names : List CodeText} {before declarations : List Declaration}
  {ledger after : Ledger} {blocks : Origins}

structure Covered (dumpAll : Bool) (names : List CodeText) (declarations : List Declaration)
    (ledger : Ledger) (blocks : Origins) : Prop where
  heads : ∀ entry ∈ blocks, entry.1.declaration ∈ declarations ∧ entry.1.Heads entry.2
  types : TypesCovered dumpAll names declarations ledger blocks
  functions : FunctionsCovered dumpAll names declarations ledger blocks

/-- Nothing that is to be documented has been passed over. -/
structure Complete (dumpAll : Bool) (names : List CodeText) (declarations : List Declaration)
    (ledger : Ledger) : Prop where
  types : ∀ canonical, TypeChosen dumpAll names declarations canonical → ledger.Knows canonical
  functions : ∀ signature, SignatureChosen dumpAll names declarations signature →
    signature ∈ ledger.signatures

theorem Covered.weaken (covered : Covered dumpAll names before ledger blocks)
    (more : before ⊆ declarations) : Covered dumpAll names declarations ledger blocks where
  heads entry mem := ⟨more (covered.heads entry mem).1, (covered.heads entry mem).2⟩
  types := covered.types.weaken more
  functions := by
    refine ⟨covered.functions.count_eq, fun signature seen => ?_⟩
    obtain ⟨declared, mem, rest⟩ := covered.functions.chosen signature seen
    exact ⟨declared, more mem, rest⟩

theorem Ledger.Documents.covered {declaration : Declaration} {result : Except WalkFault Bool}
    {added : List Block} (documented : ledger.Documents declaration result after added)
    (covered : Covered dumpAll names before ledger blocks) :
    Covered dumpAll names (before ++ [declaration]) after
      (blocks ++ declaration.origins added) where
  heads entry mem := by
    rcases List.mem_append.mp mem with mem | mem
    · obtain ⟨declared, heads⟩ := covered.heads entry mem
      exact ⟨List.mem_append_left _ declared, heads⟩
    · obtain ⟨declared, heads⟩ := documented.heads.2 entry mem
      exact ⟨by simp [declared], heads⟩
  types := documented.typesCovered covered.types
  functions :=
    documented.functionsCovered covered.types.dumpAll_eq covered.types.names_eq covered.functions

theorem Ledger.Documents.complete {declaration : Declaration} {written : Bool}
    {added : List Block} (documented : ledger.Documents declaration (.ok written) after added)
    (covered : Covered dumpAll names before ledger blocks)
    (complete : Complete dumpAll names before ledger) :
    Complete dumpAll names (before ++ [declaration]) after where
  types := by
    rintro canonical ⟨record, mem, named, chosen⟩
    rw [← covered.types.dumpAll_eq, ← covered.types.names_eq] at chosen
    apply documented.knows
    rcases List.mem_append.mp mem with mem | mem
    · rw [covered.types.dumpAll_eq, covered.types.names_eq] at chosen
      exact .inl (complete.types canonical ⟨record, mem, named, chosen⟩)
    · exact .inr ⟨record, (List.mem_singleton.mp mem).symm, named, chosen⟩
  functions := by
    rintro signature ⟨declared, mem, same, calm, chosen⟩
    rw [← covered.types.dumpAll_eq, ← covered.types.names_eq] at chosen
    apply documented.signature_mem
    rcases List.mem_append.mp mem with mem | mem
    · rw [covered.types.dumpAll_eq, covered.types.names_eq] at chosen
      exact .inl (complete.functions signature ⟨declared, mem, same, calm, chosen⟩)
    · exact .inr ⟨declared, (List.mem_singleton.mp mem).symm, same, calm, chosen⟩

/-- Declarations in order keep the invariant; if none fails nothing is passed over. -/
theorem Ledger.Runs.covered {result : Except WalkFault Unit} {added : List Block}
    (runs : ledger.Runs declarations result after added)
    (covered : Covered dumpAll names before ledger blocks)
    (complete : Complete dumpAll names before ledger) :
    ∃ origins : Origins, origins.map (·.2) = added ∧
      Covered dumpAll names (before ++ declarations) after (blocks ++ origins) ∧
      (result = .ok () → Complete dumpAll names (before ++ declarations) after) := by
  induction runs generalizing before blocks with
  | done => exact ⟨[], rfl, by simpa using covered, fun _ => by simpa using complete⟩
  | @fails before after declaration rest fault added abroad documented =>
      refine ⟨_, documented.heads.1, ?_, by simp⟩
      exact (documented.covered covered).weaken (by simp)
  | @step _ _ _ declaration _ _ _ written _ documented later ih =>
      obtain ⟨origins, origins_eq, covered', complete'⟩ :=
        ih (documented.covered covered) (documented.complete covered complete)
      refine ⟨declaration.origins written ++ origins, ?_, ?_, ?_⟩
      · rw [List.map_append, documented.heads.1, origins_eq]
      · simpa using covered'
      · simpa using complete'

theorem heads_stub {entry : AwaitedRecord} (keys : UniqueKeys) (entries : List Entry)
    (incomplete : entry.declaration.complete = false) :
    (Origin.stub entry.declaration).Heads ⟨(entry.claim keys).1, .struct, none, entries⟩ := by
  refine ⟨fun name proper => ?_, rfl, incomplete, rfl⟩
  have declared : entry.declaration.name = some name := (Option.filter_eq_some_iff.mp proper).1
  rw [AwaitedRecord.claim, declared]
  exact ⟨_, rfl⟩

theorem typeCount_stub {entry : AwaitedRecord} (block : Block) (others : Origins)
    (named : entry.declaration.canonical? = some entry.canonical) (canonical : CodeText) :
    Origins.typeCount ((.stub entry.declaration, block) :: others) canonical =
      others.typeCount canonical + if entry.canonical == canonical then 1 else 0 := by
  simp [Origins.typeCount, List.countP_cons, Origin.canonical?, named]

theorem Stubs.origins {keys claimed : UniqueKeys} {awaited : List AwaitedRecord}
    {result : Except WalkFault Unit} {added : List Block}
    (stubs : Stubs keys awaited result claimed added)
    (declared : ∀ entry ∈ awaited, entry.declaration.canonical? = some entry.canonical ∧
      entry.declaration.complete = false ∧ .record entry.declaration ∈ declarations) :
    ∃ origins : Origins, origins.map (·.2) = added ∧
      (∀ entry ∈ origins, entry.1.declaration ∈ declarations ∧ entry.1.Heads entry.2 ∧
        entry.1.signature? = none) ∧
      ∀ canonical,
        origins.typeCount canonical ≤ (awaited.map (·.canonical)).count canonical ∧
          (result = .ok () →
            origins.typeCount canonical = (awaited.map (·.canonical)).count canonical) := by
  induction stubs with
  | done => exact ⟨[], rfl, by simp, by simp [Origins.typeCount]⟩
  | @fails keys first rest fault entries =>
      obtain ⟨named, incomplete, mem⟩ := declared first (by simp)
      refine ⟨[(.stub first.declaration, _)], rfl, ?_, ?_⟩
      · rintro entry one
        rw [List.mem_singleton.mp one]
        exact ⟨mem, heads_stub keys entries incomplete, rfl⟩
      · intro canonical
        rw [typeCount_stub _ _ named, List.map_cons, List.count_cons]
        simp [Origins.typeCount]
  | @step keys after first rest result others later _ ih =>
      obtain ⟨named, incomplete, mem⟩ := declared first (by simp)
      obtain ⟨origins, origins_eq, all, counts⟩ :=
        ih fun entry mem => declared entry (by simp [mem])
      refine ⟨(.stub first.declaration, _) :: origins, congrArg (_ :: ·) origins_eq, ?_, ?_⟩
      · rintro entry one
        rcases List.mem_cons.mp one with rfl | one
        · exact ⟨mem, heads_stub keys _ incomplete, rfl⟩
        · exact all entry one
      · intro canonical
        rw [typeCount_stub _ _ named, List.map_cons, List.count_cons]
        refine ⟨Nat.add_le_add_right (counts canonical).1 _, fun done => ?_⟩
        rw [(counts canonical).2 done]

theorem Ledger.Runs.fresh_covered {result : Except WalkFault Unit} {added : List Block}
    (runs : (Ledger.fresh dumpAll names).Runs declarations result after added) :
    ∃ origins : Origins, origins.map (·.2) = added ∧
      Covered dumpAll names declarations after origins ∧
      (result = .ok () → Complete dumpAll names declarations after) := by
  have covered : Covered dumpAll names [] (Ledger.fresh dumpAll names) [] :=
    ⟨by simp, ⟨rfl, rfl, fun _ => rfl, List.nodup_nil, by simp [fresh], by simp [fresh],
      by simp [fresh], by simp [fresh, Knows]⟩, ⟨fun _ => rfl, by simp [fresh]⟩⟩
  have complete : Complete dumpAll names [] (Ledger.fresh dumpAll names) :=
    ⟨by simp [TypeChosen], by simp [SignatureChosen]⟩
  simpa using runs.covered covered complete

/-- The stubs complete the blocks: exactly the types that were passed on to them are added. -/
theorem Covered.stubs {keys claimed : UniqueKeys} {result : Except WalkFault Unit}
    {added : List Block} (covered : Covered dumpAll names declarations ledger blocks)
    (complete : Complete dumpAll names declarations ledger)
    (stubs : Stubs keys ledger.awaited result claimed added) :
    ∃ origins : Origins, origins.map (·.2) = added ∧
      (∀ entry ∈ origins, entry.1.declaration ∈ declarations ∧ entry.1.Heads entry.2) ∧
      (∀ signature, origins.functionCount signature = 0) ∧
      ∀ name,
        let count := Origins.typeCount (blocks ++ origins) (Identities.namedType name)
        let chosen := TypeChosen dumpAll names declarations (Identities.namedType name)
        count ≤ 1 ∧ (¬chosen → count = 0) ∧ (result = .ok () → chosen → count = 1) := by
  obtain ⟨origins, origins_eq, all, counts⟩ := stubs.origins covered.types.waiting_declared
  refine ⟨origins, origins_eq, fun entry mem => ⟨(all entry mem).1, (all entry mem).2.1⟩,
    fun signature => functionCount_eq_zero signature fun entry mem => (all entry mem).2.2, ?_⟩
  intro name count chosen
  obtain ⟨most, exactly⟩ := counts (Identities.namedType name)
  have total : count = (if Identities.namedType name ∈ ledger.defined then 1 else 0) +
      origins.typeCount (Identities.namedType name) := by
    rw [← covered.types.count_eq]
    exact typeCount_append _ _ _
  rw [covered.types.waiting_nodup.count] at most exactly
  by_cases known : Identities.namedType name ∈ ledger.defined
  · have settled : Identities.namedType name ∉ ledger.awaited.map (·.canonical) := by
      intro waits
      obtain ⟨awaited, held, same⟩ := List.mem_map.mp waits
      exact covered.types.waiting_fresh awaited held (same ▸ known)
    simp only [known, settled, ↓reduceIte] at total most
    have is_chosen : chosen := covered.types.chosen name (.inl known)
    refine ⟨by omega, fun unchosen => absurd is_chosen unchosen, fun _ _ => by omega⟩
  · simp only [known, ↓reduceIte, Nat.zero_add] at total
    by_cases waits : Identities.namedType name ∈ ledger.awaited.map (·.canonical)
    · simp only [waits, ↓reduceIte] at most exactly
      have is_chosen : chosen := covered.types.chosen name (.inr waits)
      refine ⟨by omega, fun unchosen => absurd is_chosen unchosen, fun done _ => ?_⟩
      rw [total, exactly done]
    · simp only [waits, ↓reduceIte] at most
      refine ⟨by omega, fun _ => by omega, fun _ is_chosen => ?_⟩
      rcases complete.types _ is_chosen with defined | waiting
      · exact absurd defined known
      · exact absurd waiting waits

theorem Covered.signatures {result : Except WalkFault Unit}
    (covered : Covered dumpAll names declarations ledger blocks)
    (complete : result = .ok () → Complete dumpAll names declarations ledger)
    (signature : Signature) :
    let count := blocks.functionCount signature
    let chosen := SignatureChosen dumpAll names declarations signature
    count ≤ 1 ∧ (¬chosen → count = 0) ∧ (result = .ok () → chosen → count = 1) := by
  intro count chosen
  have count_eq : count = if signature ∈ ledger.signatures then 1 else 0 :=
    covered.functions.count_eq signature
  by_cases seen : signature ∈ ledger.signatures <;> simp only [seen, ↓reduceIte] at count_eq
  · have is_chosen : chosen := covered.functions.chosen signature seen
    exact ⟨by omega, fun unchosen => absurd is_chosen unchosen, fun _ _ => count_eq⟩
  · refine ⟨by omega, fun _ => count_eq, fun done is_chosen => ?_⟩
    exact absurd ((complete done).functions signature is_chosen) seen

end Runs

/-- However the declarations of a type are ordered and spread, its document has one block for
it if one of them is to be documented, and none otherwise; likewise for the functions of a
signature.  This holds up to a failure; a run over clean declarations does not fail. -/
theorem blocks_cover_declarations (groups : List (List Declaration)) (dumpAll : Bool)
    (tagNames : List CodeText) :
    let run := documentGroups groups dumpAll tagNames
    let declarations := groups.flatten
    ((∀ declaration ∈ declarations, declaration.IsClean tagNames) → run.result = .ok ()) ∧
      ∃ blocks : Origins,
        Event.written run.events = (blocks.map (·.2)).flatMap Block.text ∧
        (∀ entry ∈ blocks, entry.1.declaration ∈ declarations ∧ entry.1.Heads entry.2) ∧
        (∀ name : CodeText,
          let count := blocks.typeCount (Identities.namedType name)
          let chosen := TypeChosen dumpAll tagNames declarations (Identities.namedType name)
          count ≤ 1 ∧ (¬chosen → count = 0) ∧ (run.result = .ok () → chosen → count = 1)) ∧
        ∀ signature : Signature,
          let count := blocks.functionCount signature
          let chosen := SignatureChosen dumpAll tagNames declarations signature
          count ≤ 1 ∧ (¬chosen → count = 0) ∧ (run.result = .ok () → chosen → count = 1) := by
  intro run declarations
  refine ⟨documentGroups_clean, ?_⟩
  obtain ⟨middle, walked, written, stubs, text_eq, runs, ending⟩ :=
    documentGroups_blocks groups dumpAll tagNames
  obtain ⟨walks, rfl, covered, complete⟩ := runs.fresh_covered
  rcases walked with fault | ⟨⟩
  · obtain ⟨failed, rfl⟩ := ending
    have unfinished : run.result ≠ .ok () := by
      intro done
      cases failed.symm.trans done
    refine ⟨walks, by simpa using text_eq, covered.heads, fun name => ?_, ?_⟩
    · have count_eq := covered.types.count_eq name
      refine ⟨?_, fun unchosen => ?_, fun done => absurd done unfinished⟩
      · rw [count_eq]
        split <;> simp
      · rw [count_eq, if_neg fun known => unchosen (covered.types.chosen name (.inl known))]
    · exact covered.signatures fun done => absurd done unfinished
  · obtain ⟨rest, rfl, heads, no_functions, types⟩ := covered.stubs (complete rfl) ending
    refine ⟨walks ++ rest, by simpa using text_eq, ?_, types, fun signature => ?_⟩
    · intro entry mem
      rcases List.mem_append.mp mem with mem | mem
      · exact covered.heads entry mem
      · exact heads entry mem
    · rw [functionCount_append, no_functions, Nat.add_zero]
      exact covered.signatures (fun _ => complete rfl) signature

def taggedPoint : List (List Declaration) :=
  [[.record
      { name := some "Point", location := ⟨"point.h", 1⟩, complete := false,
        attributes := [{ name := "compex_tag" }] }],
    [.record { name := some "Point", location := ⟨"point.h", 2⟩ },
      .function { name := some "norm", location := ⟨"point.h", 3⟩ }]]

theorem blocks_cover_taggedPoint :
    let run := documentGroups taggedPoint false Tag.defaultNames
    run.result = .ok () ∧ ∃ blocks : Origins,
      Event.written run.events = (blocks.map (·.2)).flatMap Block.text ∧
      blocks.typeCount (Identities.namedType "Point") = 1 ∧
      blocks.functionCount (some "norm", []) = 0 := by
  intro run
  obtain ⟨finishes, blocks, text_eq, -, types, functions⟩ :=
    blocks_cover_declarations taggedPoint false Tag.defaultNames
  have done : run.result = .ok () := by
    apply finishes
    have line (n : Int) (small : n.natAbs < 10) : Text.Integer.isWritable n = true :=
      Walk.isWritable_digit small
    have untagged : Tag.IsClean Tag.defaultNames [] := ⟨[], rfl, by simp [TagList.IsWritable]⟩
    have tagged : Tag.IsClean Tag.defaultNames [{ name := "compex_tag" }] :=
      ⟨[[]], rfl, by simp [TagList.IsWritable]⟩
    simp [taggedPoint, Declaration.IsClean, Record.IsClean, Function.IsClean, IsWritableNumber,
      line, untagged, tagged]
  refine ⟨done, blocks, text_eq, (types "Point").2.2 done ?_, (functions _).2.1 ?_⟩
  · exact ⟨_, List.mem_cons_self, rfl, .inr ⟨_, List.mem_cons_self, by decide⟩⟩
  · rintro ⟨declared, mem, -, -, all | ⟨candidate, attached, -⟩⟩
    · cases all
    · simp [taggedPoint] at mem
      simp [mem] at attached

end TypeCatalog
