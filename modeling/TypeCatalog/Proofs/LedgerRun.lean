import TypeCatalog.Catalog
import TypeCatalog.Proofs.Documenting

/-!
# The ledger along a run

A run takes declarations one after the other until one of them fails, then
writes the stubs of the types that still wait for a definition.  What it
writes is a list of blocks, and it stops in the middle of one only if
something that cannot be written is to be written.
-/

namespace TypeCatalog

open Document
open Text (CodeText)

inductive Ledger.Runs :
    Ledger → List Declaration → Except WalkFault Unit → Ledger → List Block → Prop
  | done {ledger : Ledger} : Runs ledger [] (.ok ()) ledger []
  | fails {before after : Ledger} {declaration : Declaration} {rest : List Declaration}
      {fault : WalkFault} {blocks : List Block} (abroad : ¬fault.IsHost)
      (documented : before.Documents declaration (.error fault) after blocks) :
      Runs before (declaration :: rest) (.error fault) after blocks
  | step {before middle after : Ledger} {declaration : Declaration} {rest : List Declaration}
      {written : Bool} {result : Except WalkFault Unit} {blocks others : List Block}
      (documented : before.Documents declaration (.ok written) middle blocks)
      (later : Runs middle rest result after others) :
      Runs before (declaration :: rest) result after (blocks ++ others)

def AwaitedRecord.IsClean (awaited : AwaitedRecord) : Prop :=
  Text.Integer.isWritable awaited.declaration.location.line = true ∧
    TagList.IsWritable awaited.tags

def AwaitedRecord.claim (awaited : AwaitedRecord) (keys : UniqueKeys) : CodeText × UniqueKeys :=
  keys.claim (awaited.declaration.name.getD "")

inductive Stubs :
    UniqueKeys → List AwaitedRecord → Except WalkFault Unit → UniqueKeys → List Block → Prop
  | done {keys : UniqueKeys} : Stubs keys [] (.ok ()) keys []
  | fails {keys : UniqueKeys} {awaited : AwaitedRecord} {rest : List AwaitedRecord}
      {fault : WalkFault} {entries : List Entry} (unclean : ¬awaited.IsClean)
      (bases : entries.filterMap baseBlock? = [])
      (begins : Tree.EntriesBegin entries (Entries.ofStub awaited)) :
      Stubs keys (awaited :: rest) (.error fault) (awaited.claim keys).2
        [⟨(awaited.claim keys).1, .struct, none, entries⟩]
  | step {keys after : UniqueKeys} {awaited : AwaitedRecord} {rest : List AwaitedRecord}
      {result : Except WalkFault Unit} {others : List Block}
      (later : Stubs (awaited.claim keys).2 rest result after others)
      (begins : Tree.EntriesBegin (Entries.ofStub awaited) (Entries.ofStub awaited)) :
      Stubs keys (awaited :: rest) result after
        (⟨(awaited.claim keys).1, .struct, none, Entries.ofStub awaited⟩ :: others)

namespace Ledger.Runs

theorem append {before middle after : Ledger} {first second : List Declaration}
    {result : Except WalkFault Unit} {blocks others : List Block}
    (early : Runs before first (.ok ()) middle blocks)
    (late : Runs middle second result after others) :
    Runs before (first ++ second) result after (blocks ++ others) := by
  induction first generalizing before blocks with
  | nil =>
      cases early
      exact late
  | cons declaration rest ih =>
      cases early with
      | step documented later =>
          rw [List.cons_append, List.append_assoc]
          exact .step documented (ih later)

theorem append_of_error {before after : Ledger} {first : List Declaration} {fault : WalkFault}
    {blocks : List Block} (second : List Declaration)
    (early : Runs before first (.error fault) after blocks) :
    Runs before (first ++ second) (.error fault) after blocks := by
  induction first generalizing before blocks with
  | nil => cases early
  | cons declaration rest ih =>
      cases early with
      | fails abroad documented => exact .fails abroad documented
      | step documented later => exact .step documented (ih later)

end Ledger.Runs

namespace Walk

variable {start : Catalog}

theorem isHost_iff {fault : WalkFault} : fault.IsHost ↔ ∃ message, fault = .host message := by
  cases fault <;> simp [WalkFault.IsHost]

theorem Writes.flush_bind {next : Unit → Walk α}
    {post : Except WalkFault α → Catalog → List Char → Prop}
    (rest : (next ()).Writes start post) : (event .flush >>= next).Writes start post :=
  Writes.silent (fun _ => ⟨[], by simp⟩) rest

theorem documentAll_writes (declarations : List Declaration) (ground : start.writer.depth = 0) :
    (documentAll declarations).Writes start fun result after text =>
      after.writer.depth = 0 ∧ ∃ blocks, text = blocks.flatMap Block.text ∧
        start.ledger.Runs declarations (result.map fun _ => ()) after.ledger blocks := by
  induction declarations generalizing start with
  | nil => exact Writes.pure ⟨ground, [], rfl, .done⟩
  | cons declaration rest ih =>
      apply Writes.bind
      refine (documentDeclaration_writes declaration ground).mono ?_
      rintro (fault | written) middle text ⟨bottom, recovered, blocks, rfl, documented⟩
      · refine ⟨bottom, blocks, rfl, .fails ?_ documented⟩
        rw [isHost_iff]
        rintro ⟨message, rfl⟩
        exact recovered message rfl
      · apply Writes.bind
        refine (ih bottom).mono ?_
        rintro (fault | count) after text ⟨bottom, others, rfl, runs⟩
        · exact ⟨bottom, blocks ++ others, by simp, .step documented runs⟩
        · refine Writes.pure ⟨bottom, blocks ++ others, by simp, .step documented runs⟩

theorem documentGroups_writes (groups : List (List Declaration))
    (ground : start.writer.depth = 0) :
    (groups.forM fun group => discard (documentGroup group)).Writes start
      fun result after text =>
        after.writer.depth = 0 ∧ ∃ blocks, text = blocks.flatMap Block.text ∧
          start.ledger.Runs groups.flatten result after.ledger blocks := by
  induction groups generalizing start with
  | nil => exact Writes.pure ⟨ground, [], rfl, .done⟩
  | cons group rest ih =>
      have first : (discard (documentGroup group)).Writes start fun result after text =>
          after.writer.depth = 0 ∧ ∃ blocks, text = blocks.flatMap Block.text ∧
            start.ledger.Runs group result after.ledger blocks := by
        apply Writes.bind
        apply Writes.bind
        refine (documentAll_writes group ground).mono ?_
        rintro (fault | count) after text ⟨bottom, blocks, rfl, runs⟩
        · exact ⟨bottom, blocks, rfl, runs⟩
        · refine Writes.flush_bind (Writes.pure (Writes.pure ?_))
          exact ⟨bottom, blocks, by simp, runs⟩
      change (discard (documentGroup group) >>= fun _ =>
        rest.forM fun group => discard (documentGroup group)).Writes _ _
      apply Writes.bind
      refine first.mono ?_
      rintro (fault | ⟨⟩) middle text ⟨bottom, blocks, rfl, runs⟩
      · exact ⟨bottom, blocks, rfl, runs.append_of_error _⟩
      · refine (ih bottom).mono ?_
        rintro result after text ⟨bottom, others, rfl, later⟩
        exact ⟨bottom, blocks ++ others, by simp, runs.append later⟩

theorem writeStub_writes (awaited : AwaitedRecord) (ground : start.writer.depth = 0) :
    (writeStub awaited).Writes start fun result after text =>
      after.writer.depth = 0 ∧
        after.ledger = { start.ledger with
          keys := (awaited.claim start.keys).2, ordinal := after.identities.ordinal } ∧
        ∃ entries, text = Block.text ⟨(awaited.claim start.keys).1, .struct, none, entries⟩ ∧
          entries.filterMap baseBlock? = [] ∧
          Tree.EntriesBegin entries (Entries.ofStub awaited) ∧
          match result with
          | .ok _ => entries = Entries.ofStub awaited
          | .error _ => ¬awaited.IsClean := by
  unfold writeStub
  apply Writes.report_bind
  apply Writes.catalog_bind
  apply Writes.modifyCatalog_bind
  apply Writes.bind
  have written (opened : Catalog) (bottom : opened.writer.depth = 0) (key : CodeText) :=
    mapping_writes key .struct bottom (@draws_stub opened.setting awaited.IsClean True awaited id)
  refine (written _ (by exact ground) _).mono ?_
  rintro (fault | ⟨⟩) after text ⟨kept, entries, text_eq, bases, begins, ending⟩
  · refine ⟨kept.depth_eq.trans ground, kept.ledger_eq, entries, text_eq, bases, begins, ?_⟩
    exact fun is_clean => absurd trivial (ending.not_clean_and_calm is_clean)
  · intro _
    refine ⟨[], by simp, kept.depth_eq.trans ground, kept.ledger_eq, entries, ?_, bases, begins,
      ending.1⟩
    rwa [List.append_nil]

theorem writeStubs_writes (awaited : List AwaitedRecord) (ground : start.writer.depth = 0) :
    (awaited.forM writeStub).Writes start fun result after text =>
      after.writer.depth = 0 ∧
        after.ledger = { start.ledger with
          keys := after.keys, ordinal := after.identities.ordinal } ∧
        ∃ blocks, text = blocks.flatMap Block.text ∧
          Stubs start.keys awaited result after.keys blocks := by
  induction awaited generalizing start with
  | nil => exact Writes.pure ⟨ground, rfl, [], rfl, .done⟩
  | cons first rest ih =>
      change (writeStub first >>= fun _ => rest.forM writeStub).Writes _ _
      apply Writes.bind
      refine (writeStub_writes first ground).mono ?_
      rintro (fault | ⟨⟩) middle text
          ⟨bottom, ledger_eq, entries, text_eq, bases, begins, ending⟩ <;>
        have keys_eq : middle.keys = (first.claim start.keys).2 := congrArg Ledger.keys ledger_eq
      · rw [keys_eq]
        refine ⟨bottom, ledger_eq, _, ?_, .fails ending bases begins⟩
        rwa [List.flatMap_singleton]
      · refine (ih bottom).mono ?_
        rintro result after more ⟨bottom, later_eq, others, more_eq, stubs⟩
        rw [keys_eq] at stubs
        refine ⟨bottom, ?_, _, ?_, .step stubs (ending ▸ begins)⟩
        · rw [later_eq, ledger_eq]
        · rw [List.flatMap_cons, ← more_eq, text_eq, ending]

theorem finish_writes (ground : start.writer.depth = 0) :
    finish.Writes start fun result after text =>
      after.writer.depth = 0 ∧ ∃ blocks, text = blocks.flatMap Block.text ∧
        after.ledger.defined = start.ledger.defined ∧
        Stubs start.keys start.awaited result after.keys blocks := by
  apply Writes.catalog_bind
  apply Writes.bind
  refine (writeStubs_writes start.awaited ground).mono ?_
  rintro (fault | ⟨⟩) after text ⟨bottom, ledger_eq, blocks, rfl, stubs⟩ <;>
    have defined_eq : after.ledger.defined = start.ledger.defined := by rw [ledger_eq]
  · exact ⟨bottom, blocks, rfl, defined_eq, stubs⟩
  · refine Writes.modifyCatalog_bind fun _ => ⟨[], by simp, ?_⟩
    exact ⟨bottom, blocks, by simp, defined_eq, stubs⟩

end Walk

def Ledger.fresh (dumpAll : Bool) (names : List CodeText) : Ledger where
  dumpAll
  names
  defined := []
  ordinal := 0
  keys := {}
  signatures := []
  awaited := []

/-- The blocks of a whole run: those of the declarations, then the stubs if no declaration
failed. -/
theorem documentGroups_blocks (groups : List (List Declaration)) (dumpAll : Bool)
    (tagNames : List CodeText) :
    let run := documentGroups groups dumpAll tagNames
    ∃ (middle : Ledger) (walked : Except WalkFault Unit) (blocks stubs : List Block),
      Event.written run.events = (blocks ++ stubs).flatMap Block.text ∧
        (Ledger.fresh dumpAll tagNames).Runs groups.flatten walked middle blocks ∧
        match walked with
        | .ok _ => Stubs middle.keys middle.awaited run.result run.catalog.keys stubs
        | .error fault => run.result = .error fault ∧ stubs = [] := by
  have whole : (Walk.document groups).Writes { dumpAll, tagNames } fun result after text =>
      ∃ (middle : Ledger) (walked : Except WalkFault Unit) (blocks stubs : List Block),
        text = (blocks ++ stubs).flatMap Block.text ∧
          (Ledger.fresh dumpAll tagNames).Runs groups.flatten walked middle blocks ∧
          match walked with
          | .ok _ => Stubs middle.keys middle.awaited result after.keys stubs
          | .error fault => result = .error fault ∧ stubs = [] := by
    apply Walk.Writes.bind
    refine (Walk.documentGroups_writes groups rfl).mono ?_
    rintro (fault | ⟨⟩) middle text ⟨bottom, blocks, rfl, runs⟩
    · exact ⟨middle.ledger, _, blocks, [], by simp, runs, rfl, rfl⟩
    · refine (Walk.finish_writes bottom).mono ?_
      rintro result after text ⟨-, stubs, rfl, -, written⟩
      exact ⟨middle.ledger, _, blocks, stubs, by simp, runs, written⟩
  obtain ⟨text, written, holds⟩ := whole #[]
  obtain ⟨middle, walked, blocks, stubs, text_eq, rest⟩ := holds
  refine ⟨middle, walked, blocks, stubs, ?_, rest⟩
  rw [← text_eq]
  exact written

end TypeCatalog
