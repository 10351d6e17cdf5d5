import TypeCatalog.Proofs.LedgerRun

/-!
# Runs over declarations that can be written

If the literals of all tags have values of their kinds and all numbers can be
written, no declaration fails: faults of the front end end a block, never a
run.
-/

namespace TypeCatalog

open Document
open Text (CodeText)

theorem TagList.IsWritable.append {first second : TagList} (early : first.IsWritable)
    (late : second.IsWritable) : TagList.IsWritable (first ++ second) := by
  intro values mem
  rcases List.mem_append.mp mem with mem | mem
  · exact early values mem
  · exact late values mem

theorem Tag.IsClean.isWritable {names : List CodeText} {attributes : List Attribute}
    {own : TagList} (clean : Tag.IsClean names attributes)
    (reading : (Tag.ofAttributes names attributes).result = .ok own) : own.IsWritable := by
  obtain ⟨tags, tags_eq, writable⟩ := clean
  rw [← Tag.result_ofAttributes, reading] at tags_eq
  cases tags_eq
  exact writable

namespace Ledger

def AwaitsClean (ledger : Ledger) : Prop :=
  ∀ awaited ∈ ledger.awaited, awaited.IsClean

variable {ledger after : Ledger} {record : Record} {own : TagList}

theorem AwaitsClean.tagsFor (waiting : ledger.AwaitsClean)
    (clean : Tag.IsClean ledger.names record.attributes)
    (reading : (Tag.ofAttributes ledger.names record.attributes).result = .ok own) :
    (ledger.tagsFor record own).IsWritable := by
  refine TagList.IsWritable.append ?_ (clean.isWritable reading)
  rcases found : ledger.carried? record with _ | entry
  · intro values mem
    cases mem
  · obtain ⟨canonical, -, found⟩ := Option.bind_eq_some_iff.mp found
    exact (waiting entry (List.mem_of_find?_eq_some found)).2

theorem AwaitsClean.await (waiting : ledger.AwaitsClean) (clean : record.IsClean ledger.names)
    (reading : (Tag.ofAttributes ledger.names record.attributes).result = .ok own) :
    (ledger.await record own).AwaitsClean := by
  have writable := waiting.tagsFor clean.2.2.2.1 reading
  unfold Ledger.await
  rcases record.canonical? with _ | canonical
  · exact waiting
  · dsimp only
    split
    · exact waiting
    · split
      · exact waiting
      · intro awaited mem
        rcases mem_carry mem with rfl | held | ⟨entry, held, rfl⟩
        · exact ⟨clean.1, writable⟩
        · exact waiting awaited held
        · exact ⟨(waiting entry held).1, writable⟩

theorem AwaitsClean.identify (waiting : ledger.AwaitsClean) :
    (ledger.identify record).2.AwaitsClean := by
  intro awaited mem
  rcases named : record.canonical? with _ | canonical
  · rw [identify_unnamed named] at mem
    exact waiting awaited mem
  · rw [identify_named named] at mem
    exact waiting awaited (List.mem_filter.mp mem).1

theorem Documents.clean {declaration : Declaration} {result : Except WalkFault Bool}
    {blocks : List Block} (documented : ledger.Documents declaration result after blocks)
    (clean : declaration.IsClean ledger.names) (waiting : ledger.AwaitsClean) :
    (∀ fault, result = .error fault → fault.IsHost) ∧ after.AwaitsClean ∧
      after.names = ledger.names := by
  cases documented with
  | ignored => exact ⟨by simp, waiting, rfl⟩
  | unread documentable reading =>
      have readable : Tag.IsClean ledger.names declaration.attributes := by
        rcases documentable with ⟨record, rfl⟩ | ⟨declared, rfl⟩
        · exact clean.2.2.2.1
        · exact clean.2.1
      obtain ⟨tags, tags_eq, -⟩ := readable
      rw [← Tag.result_ofAttributes, ← Tag.ofDeclaration, reading] at tags_eq
      cases tags_eq
  | forward reading incomplete =>
      exact ⟨by simp, waiting.await clean reading, await_names _ _ _⟩
  | @passed record own after reading complete decided =>
      refine ⟨by simp, ?_⟩
      rcases define_none decided with ⟨-, rfl⟩ | ⟨-, -, rfl⟩
      · exact ⟨waiting, rfl⟩
      · exact ⟨waiting.identify, identify_names _ _⟩
  | @defined record own next header entries ordinal result reading complete decided handed bases
      accepted =>
      obtain ⟨-, -, published⟩ := define_some decided
      have tags_eq : header.tags = ledger.tagsFor record own := by
        cases published
        rfl
      have writable := waiting.tagsFor clean.2.2.2.1 reading
      rw [← tags_eq] at writable
      refine ⟨accepted clean writable, ?_⟩
      cases published
      exact ⟨@AwaitsClean.identify ledger record waiting, identify_names _ _⟩
  | ineligible | repeated => exact ⟨by simp, waiting, rfl⟩
  | aborted reading fault accepted => exact ⟨accepted, waiting, rfl⟩
  | entered reading eligible calm fresh handed bases accepted =>
      refine ⟨?_, waiting, rfl⟩
      obtain ⟨⟨written, rfl⟩, -⟩ := accepted clean.1 clean.2
      simp

theorem Runs.clean {declarations : List Declaration} {result : Except WalkFault Unit}
    {blocks : List Block} (runs : ledger.Runs declarations result after blocks)
    (clean : ∀ declaration ∈ declarations, declaration.IsClean ledger.names)
    (waiting : ledger.AwaitsClean) : result = .ok () ∧ after.AwaitsClean := by
  induction runs with
  | done => exact ⟨rfl, waiting⟩
  | fails abroad documented =>
      obtain ⟨accepted, -⟩ := documented.clean (clean _ (by simp)) waiting
      exact absurd (accepted _ rfl) abroad
  | step documented later ih =>
      obtain ⟨-, waiting, names_eq⟩ := documented.clean (clean _ (by simp)) waiting
      refine ih (fun declaration mem => ?_) waiting
      rw [names_eq]
      exact clean declaration (by simp [mem])

end Ledger

theorem Stubs.clean {keys after : UniqueKeys} {awaited : List AwaitedRecord}
    {result : Except WalkFault Unit} {blocks : List Block}
    (stubs : Stubs keys awaited result after blocks)
    (clean : ∀ entry ∈ awaited, entry.IsClean) : result = .ok () := by
  induction stubs with
  | done => rfl
  | fails unclean => exact absurd (clean _ (by simp)) unclean
  | step later _ ih => exact ih fun entry mem => clean entry (by simp [mem])

theorem documentGroups_clean {groups : List (List Declaration)} {dumpAll : Bool}
    {tagNames : List CodeText}
    (clean : ∀ declaration ∈ groups.flatten, declaration.IsClean tagNames) :
    (documentGroups groups dumpAll tagNames).result = .ok () := by
  obtain ⟨middle, walked, blocks, stubs, -, runs, ending⟩ :=
    documentGroups_blocks groups dumpAll tagNames
  have fresh : (Ledger.fresh dumpAll tagNames).AwaitsClean := by
    intro awaited mem
    cases mem
  obtain ⟨rfl, waiting⟩ := runs.clean clean fresh
  exact Stubs.clean ending waiting

end TypeCatalog
