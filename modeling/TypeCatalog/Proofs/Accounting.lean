import TypeCatalog.Proofs.DistinctKeys
import TypeCatalog.Proofs.PassedOver
import TypeCatalog.Proofs.Truncation

/-!
# The counts of a walk balance

Every definition and every function that a catalog is called for, and every
forward declaration that it turns away, is counted once: as documented,
skipped, a duplicate or given up.  The counts agree with the types defined
and with the blocks in the text, and a call says that it wrote something just
if it did.
-/

namespace TypeCatalog

open Document
open Text (CodeText)

/-! ## Verdicts -/

inductive Verdict where
  | recorded
  | entered
  | interruptedRecord
  | interruptedFunction
  | repeated
  | skipped
  | uncounted
  deriving DecidableEq, Repr

namespace Verdict

def count (stats : WalkCounts) : Verdict → WalkCounts
  | recorded => { stats with recordsEmitted := stats.recordsEmitted + 1 }
  | entered => { stats with functionsEmitted := stats.functionsEmitted + 1 }
  | interruptedRecord | interruptedFunction => { stats with aborted := stats.aborted + 1 }
  | repeated => { stats with duplicates := stats.duplicates + 1 }
  | skipped => { stats with skipped := stats.skipped + 1 }
  | uncounted => stats

def isCounted : Verdict → Bool
  | uncounted => false
  | _ => true

def isInterrupted : Verdict → Bool
  | interruptedRecord | interruptedFunction => true
  | _ => false

def losesRecord : Verdict → Bool
  | interruptedRecord => true
  | _ => false

def defines : Verdict → Bool
  | recorded | interruptedRecord => true
  | _ => false

def writes : Verdict → Bool
  | recorded | interruptedRecord | entered => true
  | _ => false

end Verdict

def Catalog.rejects (catalog : Catalog) (record : Record) : Bool :=
  match record.canonical?, (Tag.ofAttributes catalog.tagNames record.attributes).result with
  | some canonical, .ok own =>
    !record.complete && !catalog.identities.knows canonical &&
      !Tag.isEligible (catalog.ledger.tagsFor record own) catalog.dumpAll
  | _, _ => false

def Catalog.isDue (catalog : Catalog) : Declaration → Bool
  | .record record => record.complete || catalog.rejects record
  | .function _ => true
  | _ => false

def Declaration.isRecord : Declaration → Bool
  | .record _ => true
  | _ => false

structure Catalog.Settles (start : Catalog) (declaration : Declaration) (verdict : Verdict)
    (after : Catalog) (text : List Char) : Prop where
  due : start.isDue declaration = verdict.isCounted
  stats_eq : after.stats = { verdict.count start.stats with unresolved := after.stats.unresolved }
  size_eq : after.identities.size = start.identities.size + verdict.defines.toNat
  written : verdict.writes = true → text ≠ []
  silent : verdict.writes = false → text = [] ∧ after.writer = start.writer
  lost : verdict.isInterrupted = true → (verdict.losesRecord = true ↔ declaration.isRecord = true)

def Catalog.givenUp (catalog : Catalog) : Catalog :=
  { catalog with stats := { catalog.stats with aborted := catalog.stats.aborted + 1 } }

/-- The verdict on a declaration from the way it ended.  Faults that are not of the front end
get none. -/
def Catalog.Judges (start : Catalog) (declaration : Declaration) :
    Except WalkFault Bool → Catalog → List Char → Prop
  | .ok value, after, text => ∃ verdict : Verdict, verdict.isInterrupted = false ∧
      verdict.writes = value ∧ start.Settles declaration verdict after text
  | .error (.host _), after, text => ∃ verdict : Verdict, verdict.isInterrupted = true ∧
      start.Settles declaration verdict after.givenUp text
  | .error _, _, _ => True

theorem Catalog.Judges.of_not_host {start after : Catalog} {declaration : Declaration}
    {fault : WalkFault} {text : List Char} (abroad : ¬fault.IsHost) :
    start.Judges declaration (.error fault) after text := by
  cases fault with
  | host => exact absurd trivial abroad
  | literal | line => trivial

theorem Document.Block.text_ne_nil (block : Block) : block.text ≠ [] := by
  simp [Block.text, lineText]

namespace Walk

theorem judges_passes {start middle : Catalog} {declaration : Declaration} {part : Walk Bool}
    {passing : Passing} (verdict : Verdict) (passes : part.Passes middle passing)
    (stats_eq : middle.stats = start.stats) (writer_eq : middle.writer = start.writer)
    (size_eq : middle.identities.size = start.identities.size)
    (counted : passing.count start.stats = verdict.count start.stats)
    (plain : verdict.isInterrupted = false) (silent : verdict.writes = false)
    (due : start.isDue declaration = verdict.isCounted) :
    part.Writes middle (start.Judges declaration) := by
  have undefined : verdict.defines = false := by
    cases verdict <;> first | rfl | cases silent
  refine Writes.mono passes ?_
  rintro result after text ⟨rfl, rfl, rfl⟩
  refine ⟨verdict, plain, silent, due, ?_, ?_, ?_, fun _ => ⟨rfl, writer_eq⟩, ?_⟩
  · dsimp only
    rw [stats_eq, counted]
  · simpa [undefined] using size_eq
  · simp [silent]
  · simp [plain]

/-! ## Records -/

section Records

variable {start : Catalog} {record : Record} {own : TagList}

theorem forward_judged (incomplete : record.complete = false)
    (reading : (Tag.ofAttributes start.tagNames record.attributes).result = .ok own) :
    (documentRecord record).Writes start (start.Judges (.record record)) := by
  rcases named : record.canonical? with _ | canonical
  · have due : start.isDue (.record record) = false := by
      simp [Catalog.isDue, incomplete, Catalog.rejects, named]
    have passes : (documentRecord record).Passes start .uncounted :=
      passes_forward incomplete reading (by simp [named]) fun _ => rfl
    exact judges_passes .uncounted passes rfl rfl rfl rfl rfl rfl due
  have due : start.isDue (.record record) = (!start.identities.knows canonical &&
      !Tag.isEligible (start.ledger.tagsFor record own) start.dumpAll) := by
    simp [Catalog.isDue, incomplete, Catalog.rejects, named, reading]
  by_cases known : canonical ∈ start.identities.defined
  · have knows : start.identities.knows canonical = true := List.contains_iff_mem.mpr known
    have passes : (documentRecord record).Passes start .uncounted := by
      refine passes_forward incomplete reading ?_ fun _ => rfl
      rintro other other_named
      rw [named] at other_named
      cases other_named
      exact awaitDefinition_known knows
    refine judges_passes .uncounted passes rfl rfl rfl rfl rfl rfl ?_
    rw [due, knows]
    rfl
  have unknown : start.identities.knows canonical = false :=
    Bool.eq_false_iff.mpr fun knows => known (List.contains_iff_mem.mp knows)
  rcases eligible : Tag.isEligible (start.ledger.tagsFor record own) start.dumpAll with _ | _
  · have passes : (documentRecord record).Passes start .skipped := by
      refine passes_forward incomplete reading ?_ (by simp [named])
      rintro other other_named
      rw [named] at other_named
      cases other_named
      exact awaitDefinition_ineligible named known eligible
    refine judges_passes .skipped passes rfl rfl rfl rfl rfl rfl ?_
    rw [due, unknown, eligible]
    rfl
  · rw [documentRecord_eq]
    apply Writes.tagsOf_bind (.record record) reading
    simp only [incomplete, Bool.not_false, ↓reduceIte, named]
    apply Writes.bind
    refine (awaitDefinition_fresh named unknown).mono ?_
    rintro result after text ⟨rfl, rfl, rfl⟩
    rw [eligible]
    refine Writes.pure ⟨.uncounted, rfl, rfl, ?_, rfl, rfl, by decide, fun _ => ⟨rfl, rfl⟩,
      nofun⟩
    rw [due, unknown, eligible]
    rfl

theorem publish_judged {middle : Catalog} {tags : TagList} {canonical : CodeText}
    (complete : record.complete = true) (valid : IsAnchor canonical)
    (ground : middle.writer.depth = 0) (writer_eq : middle.writer = start.writer)
    (stats_eq : middle.stats = start.stats)
    (defined_eq : middle.identities.defined = start.identities.defined) :
    (publish record canonical tags).Writes middle (start.Judges (.record record)) := by
  have due : start.isDue (.record record) = true := by simp [Catalog.isDue, complete]
  have size_eq : middle.identities.size = start.identities.size := congrArg List.length defined_eq
  unfold publish
  apply Writes.identities_bind
  by_cases known : middle.identities.knows canonical = true
  · simp only [Identities.introduce, known, ↓reduceIte, Bool.not_false]
    exact judges_passes .repeated (passes_duplicate _ _ _) stats_eq writer_eq size_eq rfl rfl rfl due
  · simp only [Identities.introduce, known, Bool.false_eq_true, ↓reduceIte, Bool.not_true]
    apply Writes.report_bind
    apply Writes.catalog_bind
    apply Writes.modifyCatalog_bind
    apply Writes.bind
    have written (opened : Catalog) (ground : opened.writer.depth = 0) (key : CodeText) :=
      @writeRecord_writes False False opened record tags key canonical valid ground
        False.elim False.elim
    refine (written _ (by exact ground) _).mono ?_
    rintro (fault | ⟨⟩) after text ⟨kept, entries, text_eq, -⟩
    · by_cases host : fault.IsHost
      · cases fault with
        | literal | line => cases host
        | host message =>
            refine ⟨.interruptedRecord, rfl, due, ?_, ?_, ?_,
              (absurd · (by decide)), fun _ => .rfl⟩
            · rw [Catalog.givenUp, kept.stats_eq]
              simp [Verdict.count, stats_eq]
            · rw [Catalog.givenUp, Identities.size, kept.defined_eq]
              simp [Verdict.defines, Identities.size, defined_eq]
            · rintro -
              rw [text_eq]
              exact Block.text_ne_nil _
      · exact .of_not_host host
    · refine Writes.modifyStats_bind (Writes.pure ?_)
      refine ⟨.recorded, rfl, rfl, due, ?_, ?_, ?_,
        (absurd · (by decide)), (absurd · (by decide))⟩
      · rw [kept.stats_eq]
        simp [Verdict.count, stats_eq]
      · rw [Identities.size, kept.defined_eq]
        simp [Verdict.defines, Identities.size, defined_eq]
      · rintro -
        rw [text_eq, List.append_nil]
        exact Block.text_ne_nil _

theorem documentRecord_judged (ground : start.writer.depth = 0) (record : Record) :
    (documentRecord record).Writes start (start.Judges (.record record)) := by
  rcases reading : (Tag.ofAttributes start.tagNames record.attributes).result with fault | own
  · rw [documentRecord_eq]
    apply Writes.bind
    refine (tagsOf_writes (.record record) start).mono ?_
    rintro result after text ⟨rfl, rfl, rfl⟩
    rw [Tag.ofDeclaration, show (Declaration.record record).attributes = record.attributes from rfl,
      reading]
    trivial
  rcases complete : record.complete with _ | _
  · exact forward_judged complete reading
  have due : start.isDue (.record record) = true := by simp [Catalog.isDue, complete]
  rcases eligible : Tag.isEligible (start.ledger.tagsFor record own) start.dumpAll with _ | _
  · exact judges_passes .skipped (passes_ineligibleRecord complete reading eligible) rfl rfl rfl rfl
      rfl rfl due
  apply documentRecord_complete complete reading
  apply documentDefinition_eligible eligible
  apply Writes.bind
  refine (identify_writes record start).mono ?_
  rintro result middle text ⟨rfl, writer_eq, ledger_eq, stats_eq, rfl⟩
  have defined_eq : middle.identities.defined = start.identities.defined :=
    (congrArg Ledger.defined ledger_eq).trans (start.ledger.identify_defined record)
  exact publish_judged complete (isAnchor_identify _ _) (by rw [writer_eq, ground]) writer_eq
    stats_eq defined_eq

end Records

/-! ## Functions -/

section Functions

variable {start : Catalog} {function : Function} {own : TagList}

theorem enterFunction_judged (ground : start.writer.depth = 0) :
    (enterFunction function function.parameters.items own).Writes start
      (start.Judges (.function function)) := by
  have due : start.isDue (.function function) = true := rfl
  unfold enterFunction
  apply Writes.modifyCatalog_bind
  apply Writes.bind
  refine (functionName_writes function _).mono ?_
  rintro result middle text ⟨rfl, rfl, writer_eq, stats_eq, ledger_eq⟩
  apply Writes.catalog_bind
  apply Writes.modifyCatalog_bind
  have defined_eq : middle.identities.defined = start.identities.defined :=
    congrArg Ledger.defined ledger_eq
  have bottom : middle.writer.depth = 0 := by rw [writer_eq, ground]
  apply Writes.bind
  -- Nothing below the header of a function is asked of the front end.
  have written (opened : Catalog) (bottom : opened.writer.depth = 0) (key : CodeText) :=
    mapping_writes key .function bottom
      (@draws_function opened.setting False True function own False.elim)
  refine (written _ (by exact bottom) _).mono ?_
  rintro (fault | ⟨⟩) after text ⟨kept, entries, text_eq, -, -, ending⟩
  · exact .of_not_host fun host => ending.not_calm host trivial
  · refine Writes.modifyStats_bind (Writes.pure ?_)
    refine ⟨.entered, rfl, rfl, due, ?_, ?_, ?_, nofun, nofun⟩
    · rw [kept.stats_eq]
      simp [Verdict.count, stats_eq]
    · rw [Identities.size, kept.defined_eq]
      simp [Verdict.defines, Identities.size, defined_eq]
    · rintro -
      rw [text_eq]
      simpa using Block.text_ne_nil _

theorem documentFunction_judged (ground : start.writer.depth = 0) (function : Function) :
    (documentFunction function).Writes start (start.Judges (.function function)) := by
  have due : start.isDue (.function function) = true := rfl
  rcases reading : (Tag.ofAttributes start.tagNames function.attributes).result with fault | own
  · rw [documentFunction_eq]
    apply Writes.bind
    refine (tagsOf_writes (.function function) start).mono ?_
    rintro result after text ⟨rfl, rfl, rfl⟩
    rw [Tag.ofDeclaration,
      show (Declaration.function function).attributes = function.attributes from rfl, reading]
    trivial
  rcases eligible : Tag.isEligible own start.dumpAll with _ | _
  · exact judges_passes .skipped (passes_ineligibleFunction reading eligible) rfl rfl rfl rfl rfl
      rfl due
  rcases lost : function.parameters.fault with _ | message
  · by_cases seen : function.signature ∈ start.signatures
    · exact judges_passes .repeated (passes_repeatedFunction reading eligible lost seen) rfl rfl rfl
        rfl rfl rfl due
    · rw [documentFunction_eq]
      apply Writes.tagsOf_bind (.function function) reading
      apply Writes.catalog_bind
      rw [eligible, allMembers, lost, pure_bind]
      apply Writes.catalog_bind
      have new : ¬start.signatures.contains
          (function.name, function.parameters.items.map (·.type.name)) = true :=
        fun held => seen (List.contains_iff_mem.mp held)
      rw [if_neg new]
      exact enterFunction_judged ground
  · rw [documentFunction_eq]
    apply Writes.tagsOf_bind (.function function) reading
    apply Writes.catalog_bind
    rw [eligible, allMembers, lost]
    refine Writes.bind (Writes.throw ?_)
    exact ⟨.interruptedFunction, rfl, due, rfl, rfl, by decide, fun _ => ⟨rfl, rfl⟩, fun _ => .rfl⟩

end Functions

theorem documentOne_judged (ground : start.writer.depth = 0) (declaration : Declaration) :
    (documentOne declaration).Writes start (start.Judges declaration) := by
  cases declaration with
  | record record => exact documentRecord_judged ground record
  | function function => exact documentFunction_judged ground function
  | field | parameter | base =>
      exact judges_passes .uncounted (Writes.report_bind passes_uncounted) rfl rfl rfl rfl rfl rfl rfl

end Walk

/-! ## Balances -/

def WalkCounts.settled (stats : WalkCounts) : Nat :=
  stats.recordsEmitted + stats.functionsEmitted + stats.duplicates + stats.aborted + stats.skipped

/-- Between two catalogs of a walk: the declarations that were due, the records given up and the
blocks begun agree with the counts and with the types defined. -/
structure Catalog.Balances (before after : Catalog) (due lost blocks : Nat) : Prop where
  settled_eq : after.stats.settled = before.stats.settled + due
  size_eq : after.identities.size + before.stats.recordsEmitted =
    before.identities.size + after.stats.recordsEmitted + lost
  blocks_eq : blocks + before.stats.recordsEmitted + before.stats.functionsEmitted +
      before.stats.incomplete =
    after.stats.recordsEmitted + after.stats.functionsEmitted + after.stats.incomplete + lost

theorem Catalog.Balances.refl (catalog : Catalog) : catalog.Balances catalog 0 0 0 := by
  constructor <;> omega

theorem Catalog.Balances.trans {first second third : Catalog}
    {due due' lost lost' blocks blocks' : Nat} (early : first.Balances second due lost blocks)
    (late : second.Balances third due' lost' blocks') :
    first.Balances third (due + due') (lost + lost') (blocks + blocks') := by
  obtain ⟨settled, size, begun⟩ := early
  obtain ⟨settled', size', begun'⟩ := late
  constructor <;> omega

theorem Catalog.Continues.balances {before after : Catalog} (kept : before.Continues after) :
    before.Balances after 0 0 0 := by
  have size_eq : after.identities.size = before.identities.size :=
    congrArg List.length kept.defined_eq
  constructor <;> rw [kept.stats_eq]
  · rfl
  · rw [size_eq]
    rfl
  · dsimp only
    omega

theorem Catalog.Settles.balances {start after : Catalog} {declaration : Declaration}
    {verdict : Verdict} {text : List Char}
    (settles : start.Settles declaration verdict after text) :
    start.Balances after (start.isDue declaration).toNat verdict.losesRecord.toNat
      verdict.writes.toNat := by
  have stats_eq := settles.stats_eq
  have size_eq := settles.size_eq
  rw [settles.due]
  constructor <;> rw [stats_eq] <;> cases verdict <;>
    simp [Verdict.count, Verdict.isCounted, Verdict.defines, Verdict.writes, Verdict.losesRecord,
      WalkCounts.settled] at size_eq ⊢ <;> omega

/-! ## Calls -/

structure DeclarationCall where
  catalog : Catalog
  declaration : Declaration

namespace DeclarationCall

def step (call : DeclarationCall) : Catalog.Step Bool :=
  call.catalog.documentDeclaration call.declaration

def isDefinition (call : DeclarationCall) : Bool :=
  match call.declaration with
  | .record record => record.complete
  | _ => false

def isFunction (call : DeclarationCall) : Bool :=
  match call.declaration with
  | .function _ => true
  | _ => false

def isRejectedForward (call : DeclarationCall) : Bool :=
  match call.declaration with
  | .record record => call.catalog.rejects record
  | _ => false

def isAbortedRecord (call : DeclarationCall) : Bool :=
  match call.declaration with
  | .record record =>
    match (call.catalog.perform (Walk.documentRecord record)).result with
    | .error (.host _) => true
    | _ => false
  | _ => false

def writesLine (call : DeclarationCall) : Prop :=
  ∃ text, Event.line text ∈ call.step.events

theorem isAbortedRecord_eq (call : DeclarationCall) :
    call.isAbortedRecord = (call.declaration.isRecord &&
      match (call.catalog.perform (Walk.documentOne call.declaration)).result with
      | .error (.host _) => true
      | _ => false) := by
  unfold isAbortedRecord
  rcases call.declaration with _ | _ | _ | _ | _ <;> rfl

theorem toNat_isDue (call : DeclarationCall) :
    (call.catalog.isDue call.declaration).toNat =
      call.isDefinition.toNat + call.isFunction.toNat + call.isRejectedForward.toNat := by
  unfold isDefinition isFunction isRejectedForward Catalog.isDue
  rcases call.declaration with record | _ | _ | _ | _
  · rcases complete : record.complete with _ | _
    · simp [complete]
    · have kept : call.catalog.rejects record = false := by
        unfold Catalog.rejects
        split <;> simp [complete]
      simp [complete, kept]
  all_goals rfl

theorem exists_line_of_written {events : List Event} (written : Event.written events ≠ []) :
    ∃ text, Event.line text ∈ events := by
  by_contra none_of_them
  apply written
  have silent : events.filterMap Event.text? = [] := by
    refine List.filterMap_eq_nil_iff.mpr fun event among => ?_
    cases event with
    | line text => exact absurd ⟨text, among⟩ none_of_them
    | flush | report => rfl
  simp [Event.written, silent]

/-- A call that does not fail beyond the front end has a verdict, and its result says whether a
line was written. -/
theorem exists_verdict {call : DeclarationCall} (ground : call.catalog.writer.depth = 0)
    {value : Bool} (ended : call.step.result = .ok value) :
    ∃ verdict : Verdict,
      call.catalog.Settles call.declaration verdict call.step.catalog
        (Event.written call.step.events) ∧
      verdict.writes = value ∧ verdict.losesRecord = call.isAbortedRecord := by
  have judged := (Walk.documentOne_judged ground call.declaration).perform
  have lines_eq := (Walk.steady_documentOne call.declaration).perform_lines call.catalog
  rw [isAbortedRecord_eq]
  rw [step] at ended ⊢
  rw [Catalog.perform_eq] at judged lines_eq ⊢
  rcases reached : (Walk.documentOne call.declaration).outcome ⟨call.catalog, #[]⟩ with
    ⟨fault | written, after⟩ <;> simp only [reached] at judged lines_eq ⊢
  · by_cases host : fault.IsHost
    · obtain ⟨message, rfl⟩ := Walk.isHost_iff.mp host
      obtain ⟨verdict, interrupted, settles⟩ := judged
      rw [documentDeclaration_aborts reached] at ended ⊢
      cases ended
      refine ⟨verdict, ?_, ?_, ?_⟩
      · rw [Event.written_append, Event.written_report, List.append_nil]
        exact settles
      · rcases writes : verdict.writes with _ | _
        · have same := (settles.silent writes).2
          simp [show after.catalog.writer = call.catalog.writer from same]
        · obtain ⟨text, among⟩ := exists_line_of_written (settles.written writes)
          have some_lines := List.length_pos_of_mem
            (List.mem_filterMap.mpr ⟨_, among, rfl⟩ : text ∈ after.events.toList.filterMap Event.text?)
          simp only [true_eq_decide_iff]
          omega
      · rw [Bool.and_true]
        exact Bool.eq_iff_iff.mpr (settles.lost interrupted)
    · rw [documentDeclaration_fails host reached] at ended
      cases ended
  · obtain ⟨verdict, plain, writes_eq, settles⟩ := judged
    rw [documentDeclaration_ends reached] at ended ⊢
    cases ended
    refine ⟨verdict, settles, writes_eq, ?_⟩
    rw [Bool.and_false]
    cases verdict <;> first | rfl | cases plain

theorem writesLine_iff {call : DeclarationCall} (ground : call.catalog.writer.depth = 0)
    {value : Bool} (ended : call.step.result = .ok value) : value = true ↔ call.writesLine := by
  obtain ⟨verdict, settles, rfl, -⟩ := exists_verdict ground ended
  constructor
  · exact fun writes => exists_line_of_written (settles.written writes)
  · rintro ⟨text, among⟩
    have lines_eq := (Walk.steady_documentDeclaration call.declaration).perform_lines call.catalog
    have some_lines := List.length_pos_of_mem
      (List.mem_filterMap.mpr ⟨_, among, rfl⟩ : text ∈ call.step.events.filterMap Event.text?)
    by_contra silent
    have same := (settles.silent (Bool.eq_false_iff.mpr silent)).2
    change call.step.catalog.writer.lines = _ + (call.step.events.filterMap Event.text?).length
      at lines_eq
    rw [same] at lines_eq
    omega

end DeclarationCall

theorem Ledger.Documents.length_le_one {before after : Ledger} {declaration : Declaration}
    {result : Except WalkFault Bool} {blocks : List Block}
    (documented : before.Documents declaration result after blocks) : blocks.length ≤ 1 := by
  cases documented <;> simp

theorem DeclarationCall.balances {call : DeclarationCall} (ground : call.catalog.writer.depth = 0)
    {value : Bool} (ended : call.step.result = .ok value) :
    call.step.catalog.writer.depth = 0 ∧ ∃ blocks : List Block,
      Event.written call.step.events = blocks.flatMap Block.text ∧
        (∀ block ∈ blocks, block.Proper) ∧
        call.catalog.Balances call.step.catalog (call.catalog.isDue call.declaration).toNat
          call.isAbortedRecord.toNat blocks.length := by
  obtain ⟨verdict, settles, -, lost⟩ := exists_verdict ground ended
  obtain ⟨bottom, -, blocks, text_eq, documented⟩ :=
    (Walk.documentDeclaration_writes call.declaration ground).perform
  refine ⟨bottom, blocks, text_eq, documented.proper, ?_⟩
  have length_eq : blocks.length = verdict.writes.toNat := by
    have at_most := documented.length_le_one
    have text_eq : Event.written call.step.events = blocks.flatMap Block.text := text_eq
    rcases writes : verdict.writes with _ | _
    · have silent := (settles.silent writes).1
      rw [text_eq] at silent
      cases blocks with
      | nil => rfl
      | cons block rest =>
          rw [List.flatMap_cons] at silent
          exact absurd (List.append_eq_nil_iff.mp silent).1 block.text_ne_nil
    · have written := settles.written writes
      rw [text_eq] at written
      cases blocks with
      | nil => exact absurd rfl written
      | cons block rest =>
          change rest.length + 1 = 1
          simp only [List.length_cons] at at_most
          omega
  rw [length_eq, ← lost]
  exact settles.balances

/-! ## Runs -/

def Catalog.callsFor (catalog : Catalog) : List Declaration → List DeclarationCall
  | [] => []
  | declaration :: rest =>
    ⟨catalog, declaration⟩ :: (catalog.documentDeclaration declaration).catalog.callsFor rest

def Catalog.afterAll (catalog : Catalog) (declarations : List Declaration) : Catalog :=
  declarations.foldl (fun catalog declaration => (catalog.documentDeclaration declaration).catalog)
    catalog

theorem countP_cons_toNat {α : Type} (holds : α → Bool) (first : α) (rest : List α) :
    (first :: rest).countP holds = (holds first).toNat + rest.countP holds := by
  rw [List.countP_cons, Nat.add_comm]
  cases holds first <;> rfl

theorem Catalog.callsFor_balances {catalog : Catalog} (ground : catalog.writer.depth = 0)
    {declarations : List Declaration}
    (accepted : ∀ call ∈ catalog.callsFor declarations, ∃ value, call.step.result = .ok value) :
    let calls := catalog.callsFor declarations
    (∀ call ∈ calls, call.catalog.writer.depth = 0) ∧
      (catalog.afterAll declarations).writer.depth = 0 ∧ ∃ blocks : List Block,
        Event.written (calls.flatMap (·.step.events)) = blocks.flatMap Block.text ∧
          (∀ block ∈ blocks, block.Proper) ∧
          catalog.Balances (catalog.afterAll declarations)
            (calls.countP (·.isDefinition) + calls.countP (·.isFunction) +
              calls.countP (·.isRejectedForward))
            (calls.countP (·.isAbortedRecord)) blocks.length := by
  induction declarations generalizing catalog with
  | nil => exact ⟨by simp [callsFor], ground, [], rfl, by simp, .refl catalog⟩
  | cons declaration rest ih =>
      obtain ⟨⟨value, ended⟩, others⟩ := List.forall_mem_cons.mp accepted
      obtain ⟨bottom, blocks, text_eq, proper, balances⟩ :=
        @DeclarationCall.balances ⟨catalog, declaration⟩ ground value ended
      obtain ⟨grounds, bottom', blocks', text_eq', proper', balances'⟩ :=
        @ih (catalog.documentDeclaration declaration).catalog bottom others
      refine ⟨List.forall_mem_cons.mpr ⟨ground, grounds⟩, bottom', blocks ++ blocks', ?_, ?_, ?_⟩
      · simp [callsFor, text_eq, text_eq']
      · intro block among
        rcases List.mem_append.mp among with among | among
        · exact proper block among
        · exact proper' block among
      · rw [DeclarationCall.toNat_isDue] at balances
        obtain ⟨settled_eq, size_eq, blocks_eq⟩ := balances.trans balances'
        simp only [callsFor, countP_cons_toNat, List.length_append]
        refine ⟨settled_eq.trans ?_, size_eq, blocks_eq⟩
        dsimp only
        omega

/-! ## Stubs -/

theorem Walk.writeStub_balances {start : Catalog} (ground : start.writer.depth = 0)
    (awaited : AwaitedRecord) :
    (writeStub awaited).Writes start fun result after _ =>
      after.writer.depth = 0 ∧ (result = .ok () → start.Balances after 0 0 1) := by
  unfold writeStub
  apply Writes.report_bind
  apply Writes.catalog_bind
  apply Writes.modifyCatalog_bind
  apply Writes.bind
  have written (opened : Catalog) (bottom : opened.writer.depth = 0) (key : CodeText) :=
    mapping_writes key .struct bottom (@draws_stub opened.setting False True awaited False.elim)
  refine (written _ (by exact ground) _).mono ?_
  rintro (fault | ⟨⟩) after text ⟨kept, -⟩
  · exact ⟨kept.depth_eq.trans ground, nofun⟩
  · refine fun _ => ⟨[], by simp, kept.depth_eq.trans ground, fun _ => ?_⟩
    have counted : after.Balances
        { after with stats := { after.stats with incomplete := after.stats.incomplete + 1 } } 0 0 1 :=
      ⟨rfl, rfl, by dsimp only; omega⟩
    have whole := kept.balances.trans counted
    exact ⟨whole.1, whole.2, whole.3⟩

theorem Walk.writeStubs_balances {start : Catalog} (ground : start.writer.depth = 0)
    (awaited : List AwaitedRecord) :
    (awaited.forM writeStub).Writes start fun result after _ =>
      after.writer.depth = 0 ∧ (result = .ok () → start.Balances after 0 0 awaited.length) := by
  induction awaited generalizing start with
  | nil => exact Writes.pure ⟨ground, fun _ => .refl start⟩
  | cons first rest ih =>
      change (writeStub first >>= fun _ => rest.forM writeStub).Writes _ _
      apply Writes.bind
      refine (writeStub_balances ground first).mono ?_
      rintro (fault | ⟨⟩) middle text ⟨bottom, balances⟩
      · exact ⟨bottom, nofun⟩
      · refine (ih bottom).mono ?_
        rintro result after more ⟨bottom', later⟩
        refine ⟨bottom', fun ended => ?_⟩
        rw [List.length_cons, Nat.add_comm]
        exact (balances rfl).trans (later ended)

theorem Stubs.length_eq {keys after : UniqueKeys} {awaited : List AwaitedRecord}
    {result : Except WalkFault Unit} {blocks : List Block}
    (stubs : Stubs keys awaited result after blocks) (ended : result = .ok ()) :
    blocks.length = awaited.length := by
  induction stubs with
  | done => rfl
  | fails => cases ended
  | step later begins ih => simp [ih ended]

theorem Catalog.finish_balances {catalog : Catalog} (ground : catalog.writer.depth = 0)
    (ended : catalog.finish.result = .ok ()) :
    ∃ blocks : List Block, Event.written catalog.finish.events = blocks.flatMap Block.text ∧
      (∀ block ∈ blocks, block.Proper) ∧
      catalog.Balances catalog.finish.catalog 0 0 blocks.length := by
  obtain ⟨-, blocks, text_eq, -, stubs⟩ := (Walk.finish_writes ground).perform
  have counted : Walk.finish.Writes catalog fun result after _ =>
      result = .ok () → catalog.Balances after 0 0 catalog.awaited.length := by
    apply Walk.Writes.catalog_bind
    apply Walk.Writes.bind
    refine (Walk.writeStubs_balances ground catalog.awaited).mono ?_
    rintro (fault | ⟨⟩) after text ⟨-, balances⟩
    · exact nofun
    · refine Walk.Writes.modifyCatalog_bind fun _ => ⟨[], by simp, fun _ => ?_⟩
      exact ⟨(balances rfl).1, (balances rfl).2, (balances rfl).3⟩
  refine ⟨blocks, text_eq, stubs.proper, ?_⟩
  rw [stubs.length_eq ended]
  exact counted.perform ended

/-! ## Texts -/

namespace Document

def Line.isHeader (line : Line) : Bool :=
  line.indent == 0 && !line.content.isEmpty

theorem countP_isHeader {blocks : List Block} (proper : ∀ block ∈ blocks, block.Proper) :
    (lines (blocks.flatMap Block.text)).countP Line.isHeader = blocks.length := by
  have all (rest : List Line) : Line.siblings ⟨0, []⟩ rest = rest.filter (·.indent == 0) := by
    have whole : rest.takeWhile (0 ≤ ·.indent) = rest := by
      induction rest with
      | nil => rfl
      | cons line rest ih =>
          rw [List.takeWhile_cons, ih]
          simp
    rw [Line.siblings, whole]
  have left := @siblings_blocks blocks ⟨0, []⟩ rfl proper
  rw [all] at left
  have headers : blocks.countP (fun block => !block.headLine.content.isEmpty) = blocks.length := by
    rw [List.countP_eq_length]
    intro block _
    simp [Block.headLine]
  calc (lines (blocks.flatMap Block.text)).countP Line.isHeader
    _ = ((lines (blocks.flatMap Block.text)).filter (·.indent == 0)).countP
          (!·.content.isEmpty) := by
        rw [List.countP_filter]
        exact List.countP_congr fun line _ => by simp [Line.isHeader, and_comm]
    _ = blocks.length := by
        rw [left, List.countP_append, List.countP_map]
        exact headers

end Document

/-- After calls for any declarations and the end of the document, with no fault but those of the
front end: the counts of the walk account for every definition, every function and every forward
declaration turned away; they agree with the types defined and with the lines at the left of the
text; and each call said that it wrote something just if it wrote a line. -/
theorem counts_balance (dumpAll : Bool) (tagNames : List CodeText)
    (declarations : List Declaration)
    (accepted : ∀ call ∈ Catalog.callsFor { dumpAll, tagNames } declarations,
      call.step.result.isOk = true)
    (finished : (Catalog.afterAll { dumpAll, tagNames } declarations).finish.result.isOk = true) :
    let calls := Catalog.callsFor { dumpAll, tagNames } declarations
    let ending := (Catalog.afterAll { dumpAll, tagNames } declarations).finish
    let stats := ending.catalog.stats
    let text := Event.document (calls.flatMap (·.step.events) ++ ending.events)
    let lost := calls.countP (·.isAbortedRecord)
    calls.countP (·.isDefinition) + calls.countP (·.isFunction) +
        calls.countP (·.isRejectedForward) =
      stats.recordsEmitted + stats.functionsEmitted + stats.duplicates + stats.aborted +
        stats.skipped ∧
      ending.catalog.identities.size = stats.recordsEmitted + lost ∧
      (lines text.toList).countP Line.isHeader =
        stats.recordsEmitted + stats.functionsEmitted + lost + stats.incomplete ∧
      ∀ call ∈ calls, call.step.result = .ok true ↔ call.writesLine := by
  intro calls ending stats text lost
  have ended : ∀ call ∈ calls, ∃ value, call.step.result = .ok value := by
    intro call among
    have isOk := accepted call among
    rcases result : call.step.result with fault | value
    · rw [result] at isOk
      cases isOk
    · exact ⟨value, rfl⟩
  have ended' : ending.result = .ok () := by
    rcases result : ending.result with fault | ⟨⟩
    · rw [show (Catalog.afterAll { dumpAll, tagNames } declarations).finish.result = _ from result]
        at finished
      cases finished
    · rfl
  obtain ⟨grounds, bottom, blocks, text_eq, proper, balances⟩ :=
    @Catalog.callsFor_balances { dumpAll, tagNames } rfl declarations ended
  obtain ⟨stubs, stubs_eq, stubs_proper, later⟩ := Catalog.finish_balances bottom ended'
  have whole := balances.trans later
  have proper_all : ∀ block ∈ blocks ++ stubs, block.Proper := by
    intro block among
    rcases List.mem_append.mp among with among | among
    · exact proper block among
    · exact stubs_proper block among
  have headers : (lines text.toList).countP Line.isHeader = (blocks ++ stubs).length := by
    rw [Event.document_toList, Event.written_append, text_eq, stubs_eq, ← List.flatMap_append]
    exact countP_isHeader proper_all
  -- A fresh catalog has counted nothing and knows no types.
  have size_eq : ending.catalog.identities.size = 0 + stats.recordsEmitted + lost := whole.size_eq
  have blocks_eq : blocks.length + stubs.length =
    stats.recordsEmitted + stats.functionsEmitted + stats.incomplete + lost := whole.blocks_eq
  rw [List.length_append] at headers
  refine ⟨(whole.settled_eq.trans (Nat.zero_add _)).symm, by omega, by omega, fun call among => ?_⟩
  · obtain ⟨value, result_eq⟩ := ended call among
    rw [← DeclarationCall.writesLine_iff (grounds call among) result_eq, result_eq]
    simp

def mixedDeclarations : List Declaration :=
  [.record lostFields, .function lostParameters, .record lostFields,
    .function { lostParameters with parameters := {} },
    .record { lostFields with name := some "Figure", complete := false }]

theorem mixedDeclarations_balance :
    let ending := (Catalog.afterAll { dumpAll := true } mixedDeclarations).finish
    let stats := ending.catalog.stats
    let calls := Catalog.callsFor { dumpAll := true } mixedDeclarations
    stats.aborted = 2 ∧
      (lines (Event.document (calls.flatMap (·.step.events) ++ ending.events)).toList).countP
          Line.isHeader =
        stats.recordsEmitted + stats.functionsEmitted + calls.countP (·.isAbortedRecord) +
          stats.incomplete := by
  refine ⟨by decide +kernel, ?_⟩
  exact (counts_balance true Tag.defaultNames mixedDeclarations (by decide +kernel)
    (by decide +kernel)).2.2.1

end TypeCatalog
