import TypeCatalog.Proofs.Anchors
import TypeCatalog.Proofs.SteadyWalk

/-!
# An interrupted record is documented as far as it goes

When the front end gives up in the middle of a record, the record is
documented like the one that ends there, and counted as given up; the blocks
it stands in are left on the way out.  The parameters of a function are asked
for before anything is done for it, so nothing remains of a function that is
interrupted.
-/

namespace TypeCatalog

open Document
open Text (CodeText)

namespace Record

def interruption? (record : Record) : Option CodeText :=
  record.bases.fault <|> record.fields.fault <|> record.methods.fault

/-- The record that ends where the front end gave up; methods are asked for all at once. -/
def truncated (record : Record) : Record :=
  if record.bases.fault.isSome then
    { record with bases := { items := record.bases.items }, fields := {}, methods := {} }
  else if record.fields.fault.isSome then
    { record with fields := { items := record.fields.items }, methods := {} }
  else if record.methods.fault.isSome then { record with methods := {} }
  else record

theorem truncated_eq (record : Record) :
    record.truncated = { record with
      bases := record.truncated.bases
      fields := record.truncated.fields
      methods := record.truncated.methods } := by
  unfold truncated
  split
  · rfl
  · split
    · rfl
    · split <;> rfl

theorem truncated_calm {record : Record} {message : CodeText}
    (ended : record.interruption? = some message) : record.truncated.IsCalm := by
  unfold interruption? at ended
  unfold truncated IsCalm
  rcases bases : record.bases.fault with _ | _
  · rcases fields : record.fields.fault with _ | _
    · rcases methods : record.methods.fault with _ | _ <;> simp_all
    · simp [bases]
  · simp

end Record

namespace Walk

variable {α β : Type}

theorem block_throw (operation : LineWriter → Except LineFault (String × LineWriter))
    (body : Walk Unit) (fault : WalkFault) :
    block operation (body >>= fun _ => throw fault) =
      (block operation body >>= fun _ => throw fault) := by
  apply outcome_ext
  intro progress
  rw [outcome_bind, outcome_block, outcome_block]
  rcases operation progress.catalog.writer with refused | ⟨text, after⟩
  · rfl
  · dsimp only
    rw [outcome_bind]
    rcases body.outcome _ with ⟨_ | _, _⟩ <;> rfl

theorem noMethods (slots : UniqueKeys) :
    discard (writeMethods slots 0 (constructorsFirst [])) = (pure () : Walk Unit) := rfl

theorem membersBody_interrupted {record : Record} {message : CodeText} (name : CodeText)
    (slots : UniqueKeys) (ended : record.interruption? = some message) :
    membersBody record name slots =
      (membersBody record.truncated name slots >>= fun _ => throw (.host message)) := by
  unfold Record.interruption? at ended
  unfold membersBody faultOf allMembers Record.truncated
  rcases bases : record.bases.fault with _ | lost
  · rcases fields : record.fields.fault with _ | lost
    · rcases methods : record.methods.fault with _ | lost
      · simp [bases, fields, methods] at ended
      · obtain rfl : lost = message := by simpa [bases, fields, methods] using ended
        simp [bases, fields, noMethods]
    · obtain rfl : lost = message := by simpa [bases, fields] using ended
      simp [bases, noMethods]
  · obtain rfl : lost = message := by simpa [bases] using ended
    simp [noMethods, writeFields]

/-- The block of an interrupted record is that of the record cut off there, then the fault. -/
theorem writeRecord_interrupted {record : Record} {message : CodeText} (key canonical : CodeText)
    (tags : TagList) (ended : record.interruption? = some message) :
    writeRecord key canonical record tags =
      (writeRecord key canonical record.truncated tags >>= fun _ => throw (.host message)) := by
  have bases_eq : record.truncated.bases.items = record.bases.items := by
    unfold Record.truncated
    split
    · rfl
    · split
      · rfl
      · split <;> rfl
  have header_eq (name : CodeText) :
      headerBody record.truncated name tags = headerBody record name tags := by
    rw [Record.truncated_eq]
    rfl
  have name_eq : record.truncated.name = record.name := by rw [Record.truncated_eq]
  rw [writeRecord_eq, writeRecord_eq, bases_eq, name_eq]
  simp only [header_eq, mapping, membersBody_interrupted _ _ ended, ← bind_assoc, block_throw]

/-! ## Up to the block of a record -/

def emit (key canonical : CodeText) (record : Record) (tags : TagList) : Walk Bool := do
  writeRecord key canonical record tags
  modifyStats fun stats => { stats with recordsEmitted := stats.recordsEmitted + 1 }
  return true

theorem publish_opens {start : Catalog} {canonical : CodeText}
    (fresh : start.identities.knows canonical = false) (name : Option CodeText) (tags : TagList)
    (events : Array Event) :
    ∃ (key : CodeText) (opened : WalkProgress), opened.catalog.writer = start.writer ∧
      opened.catalog.tagNames = start.tagNames ∧
      ∀ record : Record, record.name = name →
        (publish record canonical tags).outcome ⟨start, events⟩ =
          (emit key canonical record tags).outcome opened := by
  have introduced : start.identities.introduce canonical =
      (true, { start.identities with defined := canonical :: start.identities.defined }) := by
    simp [Identities.introduce, fresh]
  let claimed := start.keys.claim ((Text.proper? name).getD canonical)
  let opened : Catalog :=
    { start with
      identities := { start.identities with defined := canonical :: start.identities.defined }
      keys := claimed.2 }
  refine ⟨claimed.1, ⟨opened, events.push (.report
    { level := .debug, channel := Channel.identity, message := "Defined identity " ++ canonical })⟩,
    rfl, rfl, ?_⟩
  rintro record rfl
  rw [publish, outcome_bind, outcome_identities, introduced]
  rfl

theorem Writes.exists_outcome {part : Walk α} {start : Catalog}
    {post : Except WalkFault α → Catalog → List Char → Prop} (writes : part.Writes start post)
    (events : Array Event) :
    ∃ result after noted text, part.outcome ⟨start, events⟩ = (result, ⟨after, noted⟩) ∧
      Event.written noted.toList = Event.written events.toList ++ text ∧ post result after text := by
  obtain ⟨text, written, holds⟩ := writes events
  exact ⟨_, _, _, text, rfl, written, holds⟩

section Opening

variable {record : Record} {own : TagList} {start : Catalog}

theorem documentRecord_publishes (complete : record.complete = true)
    (reading : (Tag.ofAttributes start.tagNames record.attributes).result = .ok own)
    (eligible : Tag.isEligible (start.ledger.tagsFor record own) start.dumpAll = true)
    (events : Array Event) :
    ∃ (middle : Catalog) (noted : Array Event), middle.writer = start.writer ∧
      middle.ledger = (start.ledger.identify record).2 ∧
      ∀ (bases : Members Base) (fields : Members Field) (methods : Members Function),
        let other := { record with bases, fields, methods }
        (documentRecord other).outcome ⟨start, events⟩ =
          (publish other (start.ledger.identify record).1
            (start.ledger.tagsFor record own)).outcome ⟨middle, noted⟩ := by
  obtain ⟨_, after, noted, _, tags_eq, -, after_eq, -, rfl⟩ :=
    (tagsOf_writes (.record record) start).exists_outcome events
  rw [after_eq, show Tag.ofDeclaration start.tagNames (.record record) =
    Tag.ofAttributes start.tagNames record.attributes from rfl, reading] at tags_eq
  obtain ⟨_, after, noted', _, carried_eq, -, rfl, after_eq, -⟩ :=
    (carried_writes record start).exists_outcome noted
  rw [after_eq] at carried_eq
  obtain ⟨_, middle, noted'', _, identify_eq, -, rfl, writer_eq, ledger_eq, -⟩ :=
    (identify_writes record start).exists_outcome noted'
  refine ⟨middle, noted'', writer_eq, ledger_eq, fun bases fields methods => ?_⟩
  intro other
  have tags_eq : (tagsOf (.record other)).outcome ⟨start, events⟩ = _ := tags_eq
  have carried_eq : (carried other.canonical?).outcome ⟨start, noted⟩ = _ := carried_eq
  have identify_eq : (identify other.canonical?).outcome ⟨start, noted'⟩ = _ := identify_eq
  have complete : other.complete = true := complete
  rw [documentRecord_eq, outcome_bind, tags_eq]
  simp only [complete, Bool.not_true, Bool.false_eq_true, ↓reduceIte]
  rw [documentDefinition, outcome_bind, carried_eq]
  dsimp only
  rw [outcome_bind, outcome_catalog, ← Ledger.tagsFor]
  simp only [eligible, Bool.not_true, Bool.false_eq_true, ↓reduceIte]
  rw [outcome_bind, identify_eq]

theorem documentRecord_opens (complete : record.complete = true)
    (reading : (Tag.ofAttributes start.tagNames record.attributes).result = .ok own)
    (eligible : Tag.isEligible (start.ledger.tagsFor record own) start.dumpAll = true)
    (fresh : (start.ledger.identify record).1 ∉ start.identities.defined) (events : Array Event) :
    ∃ (key : CodeText) (opened : WalkProgress), opened.catalog.writer = start.writer ∧
      opened.catalog.tagNames = start.tagNames ∧
      ∀ (bases : Members Base) (fields : Members Field) (methods : Members Function),
        let other := { record with bases, fields, methods }
        (documentRecord other).outcome ⟨start, events⟩ =
          (emit key (start.ledger.identify record).1 other
            (start.ledger.tagsFor record own)).outcome opened := by
  obtain ⟨middle, noted, writer_eq, ledger_eq, publishes⟩ :=
    documentRecord_publishes complete reading eligible events
  have defined_eq : middle.identities.defined = start.identities.defined :=
    (congrArg Ledger.defined ledger_eq).trans (Ledger.identify_defined _ _)
  have names_eq : middle.tagNames = start.tagNames :=
    (congrArg Ledger.names ledger_eq).trans (Ledger.identify_names _ _)
  have unknown : middle.identities.knows (start.ledger.identify record).1 = false := by
    rw [Identities.knows, defined_eq]
    simpa using fresh
  obtain ⟨key, opened, writer_eq', names_eq', opens⟩ :=
    publish_opens unknown record.name (start.ledger.tagsFor record own) noted
  refine ⟨key, opened, writer_eq'.trans writer_eq, names_eq'.trans names_eq, ?_⟩
  intro bases fields methods other
  exact (publishes bases fields methods).trans (opens other rfl)

end Opening

/-! ## Interrupted records -/

theorem outcome_documentDeclaration (declaration : Declaration) (progress : WalkProgress) :
    (documentDeclaration declaration).outcome progress =
      match (documentOne declaration).outcome progress with
      | (.ok written, after) => (.ok written, after)
      | (.error fault, after) =>
        (giveUp declaration progress.catalog.writer.lines fault).outcome after := by
  rw [documentDeclaration_eq, outcome_bind, outcome_catalog]
  dsimp only
  rw [outcome_tryCatch]
  rcases (documentOne declaration).outcome progress with ⟨_ | _, _⟩ <;> rfl

theorem emit_interrupted {record : Record} {message : CodeText} (key canonical : CodeText)
    (tags : TagList) (ended : record.interruption? = some message) :
    emit key canonical record tags =
      (writeRecord key canonical record.truncated tags >>= fun _ => throw (.host message)) := by
  simp [emit, writeRecord_interrupted key canonical tags ended]

theorem writeRecord_truncated_fails {record : Record} {message key canonical : CodeText}
    {tags : TagList} {opened after : WalkProgress} {fault : WalkFault}
    (ended : record.interruption? = some message) (valid : IsAnchor canonical)
    (ground : opened.catalog.writer.depth = 0)
    (fails : (writeRecord key canonical record.truncated tags).outcome opened =
      (.error fault, after)) :
    ¬fault.IsHost ∧
      ¬(record.truncated.IsClean opened.catalog.tagNames ∧ TagList.IsWritable tags) := by
  have calm := Record.truncated_calm ended
  obtain ⟨_, -, -, _, -, -, -, -, ending⟩ := @writeRecord_writes
    (record.truncated.IsClean opened.catalog.tagNames ∧ TagList.IsWritable tags) True
    opened.catalog record.truncated tags key canonical valid ground id (fun _ => calm)
    opened.events
  rw [fails] at ending
  exact ⟨fun host => ending.not_calm host trivial,
    fun clean => ending.not_clean_and_calm clean trivial⟩

end Walk

/-! ### How a declaration ends -/

section Ending

variable {declaration : Declaration} {start : Catalog} {after : WalkProgress}

theorem documentDeclaration_ends {written : Bool}
    (ends : (Walk.documentOne declaration).outcome ⟨start, #[]⟩ = (.ok written, after)) :
    start.documentDeclaration declaration = ⟨.ok written, after.catalog, after.events.toList⟩ := by
  rw [Catalog.documentDeclaration, Catalog.perform_eq, Walk.outcome_documentDeclaration, ends]

theorem documentDeclaration_fails {fault : WalkFault} (abroad : ¬fault.IsHost)
    (fails : (Walk.documentOne declaration).outcome ⟨start, #[]⟩ = (.error fault, after)) :
    start.documentDeclaration declaration = ⟨.error fault, after.catalog, after.events.toList⟩ := by
  rw [Catalog.documentDeclaration, Catalog.perform_eq, Walk.outcome_documentDeclaration, fails]
  cases fault with
  | host => exact absurd trivial abroad
  | literal | line => rfl

theorem documentDeclaration_aborts {message : CodeText}
    (fails : (Walk.documentOne declaration).outcome ⟨start, #[]⟩ =
      (.error (.host message), after)) :
    start.documentDeclaration declaration =
      ⟨.ok (decide (start.writer.lines < after.catalog.writer.lines)),
        { after.catalog with
          stats := { after.catalog.stats with aborted := after.catalog.stats.aborted + 1 } },
        after.events.toList ++ [.report
          { level := .error, channel := Channel.catalog
            message := "Aborted dump of " ++ declaration.shown ++ ": " ++ message }]⟩ := by
  rw [Catalog.documentDeclaration, Catalog.perform_eq, Walk.outcome_documentDeclaration, fails,
    ← Array.toList_push]
  rfl

end Ending

section Interrupted

variable {record : Record} {own : TagList} {message : CodeText} {start : Catalog}

/-- An interrupted record does what the record cut off does, but for one count and one report. -/
theorem documentDeclaration_interrupted (ground : start.writer.depth = 0)
    (complete : record.complete = true)
    (reading : (Tag.ofAttributes start.tagNames record.attributes).result = .ok own)
    (eligible : Tag.isEligible (start.ledger.tagsFor record own) start.dumpAll = true)
    (fresh : (start.ledger.identify record).1 ∉ start.identities.defined)
    (ended : record.interruption? = some message) :
    let aborted := start.documentDeclaration (.record record)
    let shorter := start.documentDeclaration (.record record.truncated)
    (aborted.result = .ok true ∧ shorter.result = .ok true ∧
      (∃ counts : WalkCounts,
        shorter.catalog.stats = { counts with recordsEmitted := counts.recordsEmitted + 1 } ∧
        aborted.catalog =
          { shorter.catalog with stats := { counts with aborted := counts.aborted + 1 } }) ∧
      aborted.events = shorter.events ++ [.report
        { level := .error, channel := Channel.catalog
          message := "Aborted dump of " ++ (Declaration.record record).shown ++ ": " ++ message }]) ∨
    ∃ fault : WalkFault, aborted.result = .error fault ∧ shorter = aborted ∧ ¬fault.IsHost ∧
      ¬(record.truncated.IsClean start.tagNames ∧
        TagList.IsWritable (start.ledger.tagsFor record own)) := by
  intro aborted shorter
  obtain ⟨key, opened, writer_eq, names_eq, opens⟩ :=
    Walk.documentRecord_opens complete reading eligible fresh #[]
  have whole : (Walk.documentOne (.record record)).outcome ⟨start, #[]⟩ = _ :=
    opens record.bases record.fields record.methods
  have short : (Walk.documentOne (.record record.truncated)).outcome ⟨start, #[]⟩ =
      (Walk.emit key (start.ledger.identify record).1 record.truncated
        (start.ledger.tagsFor record own)).outcome opened := by
    rw [record.truncated_eq]
    exact opens _ _ _
  rw [Walk.emit_interrupted _ _ _ ended, Walk.outcome_bind] at whole
  rw [Walk.emit, Walk.outcome_bind] at short
  have bottom : opened.catalog.writer.depth = 0 := by rw [writer_eq, ground]
  have valid := Walk.isAnchor_identify start.ledger record
  rcases block : (Walk.writeRecord key (start.ledger.identify record).1 record.truncated
    (start.ledger.tagsFor record own)).outcome opened with ⟨fault | ⟨⟩, after⟩
  · obtain ⟨abroad, unclean⟩ := Walk.writeRecord_truncated_fails ended valid bottom block
    rw [block] at whole short
    refine .inr ⟨fault, ?_, ?_, abroad, ?_⟩
    · rw [show aborted = _ from documentDeclaration_fails abroad whole]
    · rw [show aborted = _ from documentDeclaration_fails abroad whole]
      exact documentDeclaration_fails abroad short
    · rwa [names_eq] at unclean
  · have grown := Walk.writeRecord_lines block
    rw [block] at whole short
    rw [writer_eq] at grown
    have given_up : aborted = _ := documentDeclaration_aborts whole
    have ends : shorter = _ := documentDeclaration_ends short
    refine .inl ⟨?_, ?_, ⟨after.catalog.stats, ?_, ?_⟩, ?_⟩
    · rw [given_up, decide_eq_true grown]
    · rw [ends]
    · rw [ends]
    · rw [given_up, ends]
    · rw [given_up, ends]

end Interrupted

theorem documentFunction_interrupted {function : Function} {own : TagList} {message : CodeText}
    {start : Catalog}
    (reading : (Tag.ofAttributes start.tagNames function.attributes).result = .ok own)
    (eligible : Tag.isEligible own start.dumpAll = true)
    (lost : function.parameters.fault = some message) :
    let aborted := start.documentDeclaration (.function function)
    aborted.result = .ok false ∧ Event.document aborted.events = "" ∧
      aborted.catalog =
        { start with stats := { start.stats with aborted := start.stats.aborted + 1 } } := by
  intro aborted
  have lost : Walk.allMembers function.parameters = throw (.host message) := by
    simp only [Walk.allMembers, lost]
  obtain ⟨_, after, noted, text, tags_eq, written, after_eq, silent, rfl⟩ :=
    (Walk.tagsOf_writes (.function function) start).exists_outcome #[]
  rw [after_eq, show Tag.ofDeclaration start.tagNames (.function function) =
    Tag.ofAttributes start.tagNames function.attributes from rfl, reading] at tags_eq
  have fails : (Walk.documentOne (.function function)).outcome ⟨start, #[]⟩ =
      (.error (.host message), ⟨start, noted⟩) := by
    rw [Walk.documentOne, Walk.documentFunction_eq, Walk.outcome_bind, tags_eq]
    dsimp only
    rw [Walk.outcome_bind, Walk.outcome_catalog]
    simp only [eligible, Bool.not_true, Bool.false_eq_true, ↓reduceIte, lost]
    rw [Walk.outcome_bind, Walk.outcome_throw]
  have given_up : aborted = _ := documentDeclaration_aborts fails
  rw [given_up]
  refine ⟨by simp, @Event.document_eq _ [] ?_, rfl⟩
  rw [Event.written_append, written, silent]
  rfl

/-! ## After an interruption -/

theorem Catalog.call_recounts {first second : Catalog} (same : first.Recounts second)
    (call : WalkCall) :
    (second.call call).2 = (first.call call).2 ∧
      (first.call call).1.Recounts (second.call call).1 := by
  cases call with
  | document declaration =>
      exact ((Walk.steady_documentDeclaration declaration).perform_recounts same).2
  | finish => exact (Walk.steady_finish.perform_recounts same).2

theorem Catalog.callAll_recounts {first second : Catalog} (same : first.Recounts second)
    (calls : List WalkCall) :
    (second.callAll calls).2 = (first.callAll calls).2 ∧
      (first.callAll calls).1.Recounts (second.callAll calls).1 := by
  induction calls generalizing first second with
  | nil => exact ⟨rfl, same⟩
  | cons call rest ih =>
      obtain ⟨events_eq, recounts⟩ := call_recounts same call
      obtain ⟨others_eq, last⟩ := ih recounts
      refine ⟨?_, last⟩
      simp only [callAll, events_eq, others_eq]

theorem Catalog.documentDeclaration_depth {start : Catalog} (ground : start.depth = 0)
    (declaration : Declaration) : (start.documentDeclaration declaration).catalog.depth = 0 :=
  (Walk.documentDeclaration_writes declaration ground).perform.1

/-- An interrupted record writes what the record cut off there writes and leaves the catalog
alike, counted as given up instead of documented; a function whose parameters cannot be had
changes nothing but that count.  What follows is documented as if nothing had happened.  If the
record cut off cannot be written itself, the two fail alike. -/
theorem abort_equals_truncation (start : Catalog) (ground : start.depth = 0) :
    (∀ (record : Record) (own : TagList) (message : CodeText), record.complete = true →
      (Tag.ofAttributes start.tagNames record.attributes).result = .ok own →
      Tag.isEligible (start.ledger.tagsFor record own) start.dumpAll = true →
      (start.ledger.identify record).1 ∉ start.identities.defined →
      record.interruption? = some message →
        let aborted := start.documentDeclaration (.record record)
        let shorter := start.documentDeclaration (.record record.truncated)
        aborted.result = shorter.result ∧
          Event.document aborted.events = Event.document shorter.events ∧
          aborted.catalog.depth = 0 ∧ shorter.catalog.depth = 0 ∧
          ((aborted.result = .ok true ∧ ∃ counts : WalkCounts,
              shorter.catalog.stats = { counts with recordsEmitted := counts.recordsEmitted + 1 } ∧
              aborted.catalog = { shorter.catalog with
                stats := { counts with aborted := counts.aborted + 1 } }) ∨
            ∃ fault : WalkFault, aborted.result = .error fault ∧ ¬fault.IsHost ∧
              aborted.catalog = shorter.catalog ∧
              ¬(record.truncated.IsClean start.tagNames ∧
                TagList.IsWritable (start.ledger.tagsFor record own))) ∧
          ∀ calls : List WalkCall,
            (aborted.catalog.callAll calls).2 = (shorter.catalog.callAll calls).2 ∧
              (shorter.catalog.callAll calls).1.Recounts (aborted.catalog.callAll calls).1) ∧
    ∀ (function : Function) (own : TagList) (message : CodeText),
      (Tag.ofAttributes start.tagNames function.attributes).result = .ok own →
      Tag.isEligible own start.dumpAll = true → function.parameters.fault = some message →
        let aborted := start.documentDeclaration (.function function)
        aborted.result = .ok false ∧ Event.document aborted.events = "" ∧
          aborted.catalog =
            { start with stats := { start.stats with aborted := start.stats.aborted + 1 } } ∧
          ∀ calls : List WalkCall,
            (aborted.catalog.callAll calls).2 = (start.callAll calls).2 ∧
              (start.callAll calls).1.Recounts (aborted.catalog.callAll calls).1 := by
  constructor
  · intro record own message complete reading eligible fresh ended aborted shorter
    have bottom := start.documentDeclaration_depth ground
    rcases documentDeclaration_interrupted ground complete reading eligible fresh ended with
      ⟨result_eq, other_eq, ⟨counts, stats_eq, catalog_eq⟩, events_eq⟩ |
      ⟨fault, result_eq, same, abroad, unclean⟩
    · refine ⟨result_eq.trans other_eq.symm, Event.document_eq ?_, bottom _, bottom _,
        .inl ⟨result_eq, counts, stats_eq, catalog_eq⟩, ?_⟩
      · rw [show aborted.events = _ from events_eq, Event.written_append, Event.written_report,
          List.append_nil]
      · exact Catalog.callAll_recounts ⟨_, catalog_eq⟩
    · have same : shorter = aborted := same
      refine ⟨by rw [same], by rw [same], bottom _, bottom _,
        .inr ⟨fault, result_eq, abroad, by rw [same], unclean⟩, ?_⟩
      rw [same]
      exact Catalog.callAll_recounts (.refl _)
  · intro function own message reading eligible lost aborted
    obtain ⟨result_eq, silent, catalog_eq⟩ := documentFunction_interrupted reading eligible lost
    exact ⟨result_eq, silent, catalog_eq, Catalog.callAll_recounts ⟨_, catalog_eq⟩⟩

def lostFields : Record :=
  { name := some "Shape", location := ⟨"shape.h", 1⟩
    bases := { items := [{ type := { name := some "Figure" } }] }
    fields :=
      { items := [{ name := some "x", type := { name := some "int", size := some 4 } }]
        fault := some "no such field" }
    methods := { items := [{ name := some "area", location := ⟨"shape.h", 4⟩, role := .method }] } }

def lostParameters : Function :=
  { name := some "draw", location := ⟨"shape.h", 6⟩, parameters := { fault := some "no such type" } }

theorem lostFields_aborts_as_truncated :
    let start : Catalog := { dumpAll := true }
    let aborted := start.documentDeclaration (.record lostFields)
    let shorter := start.documentDeclaration (.record
      { lostFields with fields := { items := lostFields.fields.items }, methods := {} })
    let undone := start.documentDeclaration (.function lostParameters)
    lostFields.interruption? = some "no such field" ∧ aborted.result = shorter.result ∧
      Event.document aborted.events = Event.document shorter.events ∧
      undone.catalog = { start with stats := { start.stats with aborted := 1 } } := by
  intro start aborted shorter undone
  obtain ⟨records, functions⟩ := abort_equals_truncation start rfl
  obtain ⟨result_eq, text_eq, -⟩ := records lostFields [] "no such field" rfl rfl rfl
    (by decide +kernel) rfl
  obtain ⟨-, -, catalog_eq, -⟩ := functions lostParameters [] "no such type" rfl rfl rfl
  exact ⟨rfl, result_eq, text_eq, catalog_eq⟩

end TypeCatalog
