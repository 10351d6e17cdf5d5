import TypeCatalog.Proofs.Anchors
import TypeCatalog.Proofs.KeyClaims
import TypeCatalog.Proofs.SteadyWalk

/-!
# Declarations that leave no trace

A declaration that is not eligible, or that repeats an earlier one, is counted
and forgotten: the walk goes on as if it had not been there.  For a repeated
definition this rests on the fact that a type never waits for its definition
after it got one, so that there is nothing to take from those that wait.
-/

namespace TypeCatalog

open Document
open Text (CodeText)

/-! ## What waits is not defined -/

theorem unknownName_injective {first second : Nat}
    (same : unknownName first = unknownName second) : first = second := by
  have digits := UniqueKeys.ofChars_injective (List.append_cancel_left same)
  rw [Nat.toList_repr, Nat.toList_repr] at digits
  have numbers := congrArg (fun chars => Nat.ofDigitChars 10 chars 0) digits
  simpa using numbers

namespace Ledger

variable {before after : Ledger} {declaration : Declaration} {result : Except WalkFault Bool}
  {blocks : List Block}

def WaitsApart (ledger : Ledger) : Prop :=
  ∀ awaited ∈ ledger.awaited,
    (∃ name, awaited.canonical = Identities.namedType name) ∧ awaited.canonical ∉ ledger.defined

def Numbered (ledger : Ledger) : Prop :=
  ∀ ordinal, unknownName ordinal ∈ ledger.defined → ordinal ≤ ledger.ordinal

theorem WaitsApart.await {record : Record} {own : TagList} (apart : before.WaitsApart) :
    (before.await record own).WaitsApart := by
  unfold Ledger.await
  rcases named : record.canonical? with _ | canonical
  · exact apart
  dsimp only
  split
  · exact apart
  rename_i fresh
  split
  · exact apart
  intro awaited mem
  rcases mem_carry mem with rfl | held | ⟨entry, held, rfl⟩
  · obtain ⟨name, -, rfl⟩ := Option.map_eq_some_iff.mp named
    exact ⟨⟨name, rfl⟩, fun known => fresh (List.contains_iff_mem.mpr known)⟩
  · exact apart awaited held
  · exact apart entry held

theorem WaitsApart.identify (apart : before.WaitsApart) (record : Record) :
    (before.identify record).2.WaitsApart := by
  intro awaited mem
  rcases named : record.canonical? with _ | canonical
  · rw [identify_unnamed named] at mem ⊢
    exact apart awaited mem
  · rw [identify_named named] at mem ⊢
    exact apart awaited (List.mem_filter.mp mem).1

theorem WaitsApart.define {record : Record} (apart : before.WaitsApart) :
    ∀ awaited ∈ (before.identify record).2.awaited,
      awaited.canonical ≠ (before.identify record).1 := by
  intro awaited mem
  rcases named : record.canonical? with _ | canonical
  · rw [identify_unnamed named] at mem ⊢
    obtain ⟨⟨name, name_eq⟩, -⟩ := apart awaited mem
    rw [name_eq]
    exact namedType_ne_unknownName name _
  · rw [identify_named named] at mem ⊢
    simpa using (List.mem_filter.mp mem).2

theorem Documents.waitsApart (documented : before.Documents declaration result after blocks)
    (apart : before.WaitsApart) : after.WaitsApart := by
  cases documented with
  | ignored | unread | ineligible | aborted | repeated => exact apart
  | entered => exact apart
  | forward => exact apart.await
  | passed reading complete decided =>
      rcases define_none decided with ⟨-, rfl⟩ | ⟨-, -, rfl⟩
      · exact apart
      · exact apart.identify _
  | @defined record own next header entries ordinal _ reading complete decided =>
      obtain ⟨-, -, published⟩ := define_some decided
      cases published
      intro awaited mem
      obtain ⟨named, fresh⟩ := apart.identify record awaited mem
      refine ⟨named, fun known => ?_⟩
      rcases List.mem_cons.mp known with same | known
      · exact apart.define awaited mem same
      · exact fresh known

theorem Numbered.identify (numbered : before.Numbered) (record : Record) :
    (before.identify record).2.Numbered := by
  rcases named : record.canonical? with _ | canonical
  · rw [identify_unnamed named]
    exact fun ordinal known => Nat.le_succ_of_le (numbered ordinal known)
  · rw [identify_named named]
    exact numbered

theorem Numbered.identify_fresh {record : Record} (numbered : before.Numbered)
    (unnamed : record.canonical? = none) : (before.identify record).1 ∉ before.defined := by
  rw [identify_unnamed unnamed]
  intro known
  have handed := numbered _ known
  omega

theorem Documents.numbered (documented : before.Documents declaration result after blocks)
    (numbered : before.Numbered) : after.Numbered := by
  cases documented with
  | ignored | unread | ineligible | aborted | repeated => exact numbered
  | @forward record own =>
      rw [await_eq]
      exact numbered
  | passed reading complete decided =>
      rcases define_none decided with ⟨-, rfl⟩ | ⟨-, -, rfl⟩
      · exact numbered
      · exact numbered.identify _
  | @defined record own next header entries last _ reading complete decided handed =>
      obtain ⟨-, -, published⟩ := define_some decided
      cases published
      intro ordinal known
      refine Nat.le_trans ?_ handed
      rcases List.mem_cons.mp known with same | known
      · rcases named : record.canonical? with _ | canonical
        · rw [identify_unnamed named] at same
          rw [unknownName_injective same]
          simp [identify_unnamed named]
        · rw [identify_named named] at same
          obtain ⟨name, -, rfl⟩ := Option.map_eq_some_iff.mp named
          exact absurd same.symm (namedType_ne_unknownName name ordinal)
      · exact numbered.identify record ordinal known
  | @entered function own entries last _ reading eligible calm fresh handed =>
      intro ordinal known
      have later : before.ordinal ≤ (before.enter function).2.ordinal := by
        unfold enter functionName
        rcases Text.proper? function.name with _ | name
        · exact Nat.le_succ _
        · exact Nat.le_refl _
      exact Nat.le_trans (numbered ordinal known) (Nat.le_trans later handed)

theorem Runs.settled {declarations : List Declaration} {ending : Except WalkFault Unit}
    (runs : before.Runs declarations ending after blocks) (apart : before.WaitsApart)
    (numbered : before.Numbered) : after.WaitsApart ∧ after.Numbered := by
  induction runs with
  | done => exact ⟨apart, numbered⟩
  | fails _ documented => exact ⟨documented.waitsApart apart, documented.numbered numbered⟩
  | step documented _ ih =>
      exact ih (documented.waitsApart apart) (documented.numbered numbered)

end Ledger

theorem Walk.finish_waiting {start : Catalog} (ground : start.writer.depth = 0) :
    finish.Writes start fun _ after _ =>
      after.writer.depth = 0 ∧ after.ledger.defined = start.ledger.defined ∧
        ∀ awaited ∈ after.ledger.awaited, awaited ∈ start.ledger.awaited := by
  apply Writes.catalog_bind
  apply Writes.bind
  refine (writeStubs_writes start.awaited ground).mono ?_
  rintro (fault | ⟨⟩) after text ⟨bottom, ledger_eq, -⟩
  · refine ⟨bottom, by rw [ledger_eq], ?_⟩
    rw [ledger_eq]
    exact fun _ mem => mem
  · refine Writes.modifyCatalog_bind fun _ => ⟨[], by simp, bottom, ?_, by simp [Catalog.ledger]⟩
    change after.ledger.defined = _
    rw [ledger_eq]

theorem Catalog.call_waitsApart {catalog : Catalog} (ground : catalog.writer.depth = 0)
    (apart : catalog.ledger.WaitsApart) (call : WalkCall) :
    (catalog.call call).1.writer.depth = 0 ∧ (catalog.call call).1.ledger.WaitsApart := by
  cases call with
  | document declaration =>
      obtain ⟨bottom, -, blocks, -, documented⟩ :=
        (Walk.documentDeclaration_writes declaration ground).perform
      exact ⟨bottom, documented.waitsApart apart⟩
  | finish =>
      obtain ⟨bottom, defined_eq, held⟩ := (Walk.finish_waiting ground).perform
      refine ⟨bottom, fun awaited mem => ?_⟩
      have waited := apart awaited (held awaited mem)
      rwa [← defined_eq] at waited

theorem Catalog.callAll_waitsApart {catalog : Catalog} (ground : catalog.writer.depth = 0)
    (apart : catalog.ledger.WaitsApart) (calls : List WalkCall) :
    (catalog.callAll calls).1.ledger.WaitsApart := by
  induction calls generalizing catalog with
  | nil => exact apart
  | cons call rest ih =>
      obtain ⟨bottom, apart⟩ := call_waitsApart ground apart call
      exact ih bottom apart

/-! ## Declarations passed over -/

inductive Passing where
  | skipped
  | duplicate
  | uncounted

def Passing.count (stats : WalkCounts) : Passing → WalkCounts
  | skipped => { stats with skipped := stats.skipped + 1 }
  | duplicate => { stats with duplicates := stats.duplicates + 1 }
  | uncounted => stats

/-- A declaration gets no block and is not remembered: it is not eligible, it repeats an earlier
one, or there is nothing to document or to wait for. -/
inductive Catalog.PassesOver (catalog : Catalog) : Declaration → Passing → Prop
  | ineligibleRecord {record : Record} {own : TagList}
      (reading : (Tag.ofAttributes catalog.tagNames record.attributes).result = .ok own)
      (complete : record.complete = true)
      (ineligible : Tag.isEligible (catalog.ledger.tagsFor record own) catalog.dumpAll = false) :
      PassesOver catalog (.record record) .skipped
  | ineligibleForward {record : Record} {own : TagList} {canonical : CodeText}
      (reading : (Tag.ofAttributes catalog.tagNames record.attributes).result = .ok own)
      (incomplete : record.complete = false) (named : record.canonical? = some canonical)
      (fresh : canonical ∉ catalog.identities.defined)
      (ineligible : Tag.isEligible (catalog.ledger.tagsFor record own) catalog.dumpAll = false) :
      PassesOver catalog (.record record) .skipped
  | lateForward {record : Record} {own : TagList}
      (reading : (Tag.ofAttributes catalog.tagNames record.attributes).result = .ok own)
      (incomplete : record.complete = false)
      (known : ∀ canonical, record.canonical? = some canonical →
        canonical ∈ catalog.identities.defined) :
      PassesOver catalog (.record record) .uncounted
  | repeatedRecord {record : Record} {own : TagList}
      (reading : (Tag.ofAttributes catalog.tagNames record.attributes).result = .ok own)
      (complete : record.complete = true)
      (eligible : Tag.isEligible (catalog.ledger.tagsFor record own) catalog.dumpAll = true)
      (known : (catalog.ledger.identify record).1 ∈ catalog.identities.defined) :
      PassesOver catalog (.record record) .duplicate
  | ineligibleFunction {function : Function} {own : TagList}
      (reading : (Tag.ofAttributes catalog.tagNames function.attributes).result = .ok own)
      (ineligible : Tag.isEligible own catalog.dumpAll = false) :
      PassesOver catalog (.function function) .skipped
  | repeatedFunction {function : Function} {own : TagList}
      (reading : (Tag.ofAttributes catalog.tagNames function.attributes).result = .ok own)
      (eligible : Tag.isEligible own catalog.dumpAll = true)
      (calm : function.parameters.fault = none)
      (seen : function.signature ∈ catalog.signatures) :
      PassesOver catalog (.function function) .duplicate
  | otherKind {declaration : Declaration} (notRecord : ∀ record, declaration ≠ .record record)
      (notFunction : ∀ function, declaration ≠ .function function) :
      PassesOver catalog declaration .uncounted

namespace Walk

variable {start : Catalog}

def Passes (part : Walk Bool) (start : Catalog) (passing : Passing) : Prop :=
  part.Writes start fun result after text =>
    result = .ok false ∧ after = { start with stats := passing.count start.stats } ∧ text = []

theorem passes_skipped :
    (do modifyStats fun stats => { stats with skipped := stats.skipped + 1 }; return false :
      Walk Bool).Passes start .skipped :=
  Writes.modifyStats_bind (Writes.pure ⟨rfl, rfl, rfl⟩)

theorem passes_duplicate (level : Level) (message channel : CodeText) :
    (do
      report level message channel
      modifyStats fun stats => { stats with duplicates := stats.duplicates + 1 }
      return false : Walk Bool).Passes start .duplicate :=
  Writes.report_bind (Writes.modifyStats_bind (Writes.pure ⟨rfl, rfl, rfl⟩))

theorem passes_uncounted : (pure false : Walk Bool).Passes start .uncounted :=
  Writes.pure ⟨rfl, rfl, rfl⟩

theorem Writes.tagsOf_bind (declaration : Declaration) {own : TagList} {next : TagList → Walk α}
    {post : Except WalkFault α → Catalog → List Char → Prop}
    (reading : (Tag.ofAttributes start.tagNames declaration.attributes).result = .ok own)
    (rest : (next own).Writes start post) : (tagsOf declaration >>= next).Writes start post := by
  refine Writes.silent ((tagsOf_writes declaration start).mono ?_) rest
  rintro result after text ⟨rfl, rfl, rfl⟩
  rw [Tag.ofDeclaration, reading]
  exact ⟨rfl, rfl, rfl⟩

/-! ### Forward declarations -/

section Forward

variable {record : Record} {own : TagList} {canonical : CodeText}

theorem awaitDefinition_ineligible (named : record.canonical? = some canonical)
    (fresh : canonical ∉ start.identities.defined)
    (ineligible : Tag.isEligible (start.ledger.tagsFor record own) start.dumpAll = false) :
    (awaitDefinition record canonical own).Writes start fun result after text =>
      result = .ok () ∧ after = { start with stats := Passing.skipped.count start.stats } ∧
        text = [] := by
  have unknown : start.identities.knows canonical = false :=
    Bool.eq_false_iff.mpr fun knows => fresh (List.contains_iff_mem.mp knows)
  refine (awaitDefinition_fresh named unknown).mono ?_
  rintro result after text ⟨rfl, rfl, rfl⟩
  rw [ineligible]
  exact ⟨rfl, rfl, rfl⟩

theorem passes_forward {passing : Passing} (incomplete : record.complete = false)
    (reading : (Tag.ofAttributes start.tagNames record.attributes).result = .ok own)
    (forgets : ∀ canonical, record.canonical? = some canonical →
      (awaitDefinition record canonical own).Writes start fun result after text =>
        result = .ok () ∧ after = { start with stats := passing.count start.stats } ∧ text = [])
    (unnamed : record.canonical? = none → passing = .uncounted) :
    (documentRecord record).Passes start passing := by
  rw [documentRecord_eq]
  apply Writes.tagsOf_bind (.record record) reading
  simp only [incomplete, Bool.not_false, ↓reduceIte]
  rcases named : record.canonical? with _ | canonical
  · rw [unnamed named]
    exact passes_uncounted
  · exact Writes.silent (forgets canonical named) (Writes.pure ⟨rfl, rfl, rfl⟩)

end Forward

/-! ### Definitions -/

section Definition

variable {record : Record} {own : TagList}

theorem documentRecord_complete {post : Except WalkFault Bool → Catalog → List Char → Prop}
    (complete : record.complete = true)
    (reading : (Tag.ofAttributes start.tagNames record.attributes).result = .ok own)
    (documents : (documentDefinition record own).Writes start post) :
    (documentRecord record).Writes start post := by
  rw [documentRecord_eq]
  apply Writes.tagsOf_bind (.record record) reading
  rw [complete]
  exact documents

theorem passes_ineligibleRecord (complete : record.complete = true)
    (reading : (Tag.ofAttributes start.tagNames record.attributes).result = .ok own)
    (ineligible : Tag.isEligible (start.ledger.tagsFor record own) start.dumpAll = false) :
    (documentRecord record).Passes start .skipped :=
  documentRecord_complete complete reading
    (documentDefinition_ineligible ineligible ⟨rfl, rfl, rfl⟩)

theorem passes_repeatedRecord (complete : record.complete = true)
    (reading : (Tag.ofAttributes start.tagNames record.attributes).result = .ok own)
    (eligible : Tag.isEligible (start.ledger.tagsFor record own) start.dumpAll = true)
    (known : (start.ledger.identify record).1 ∈ start.identities.defined)
    (apart : start.ledger.WaitsApart) (numbered : start.ledger.Numbered) :
    (documentRecord record).Passes start .duplicate := by
  rcases named : record.canonical? with _ | canonical
  · exact absurd known (numbered.identify_fresh named)
  rw [Ledger.identify_named named] at known
  have knows : start.identities.knows canonical = true := List.contains_iff_mem.mpr known
  have still : start.awaited.filter (·.canonical != canonical) = start.awaited := by
    rw [List.filter_eq_self]
    intro awaited mem
    have fresh := (apart awaited mem).2
    rw [bne_iff_ne]
    rintro rfl
    exact fresh known
  apply documentRecord_complete complete reading
  apply documentDefinition_eligible eligible
  rw [named]
  simp only [identify, bind_assoc, pure_bind]
  apply Writes.modifyCatalog_bind
  unfold publish
  apply Writes.identities_bind
  simp only [still, Identities.introduce, knows, ↓reduceIte, Bool.not_false]
  exact passes_duplicate _ _ _

end Definition

/-! ### Functions -/

theorem passes_ineligibleFunction {function : Function} {own : TagList}
    (reading : (Tag.ofAttributes start.tagNames function.attributes).result = .ok own)
    (ineligible : Tag.isEligible own start.dumpAll = false) :
    (documentFunction function).Passes start .skipped := by
  rw [documentFunction_eq]
  apply Writes.tagsOf_bind (.function function) reading
  apply Writes.catalog_bind
  rw [ineligible]
  exact passes_skipped

theorem passes_repeatedFunction {function : Function} {own : TagList}
    (reading : (Tag.ofAttributes start.tagNames function.attributes).result = .ok own)
    (eligible : Tag.isEligible own start.dumpAll = true)
    (calm : function.parameters.fault = none) (seen : function.signature ∈ start.signatures) :
    (documentFunction function).Passes start .duplicate := by
  have all : allMembers function.parameters = pure function.parameters.items := by
    simp only [allMembers, calm]
  have contained : start.signatures.contains
      (function.name, function.parameters.items.map (·.type.name)) = true :=
    List.contains_iff_mem.mpr seen
  rw [documentFunction_eq]
  apply Writes.tagsOf_bind (.function function) reading
  apply Writes.catalog_bind
  rw [eligible, all, pure_bind]
  apply Writes.catalog_bind
  rw [if_pos contained]
  exact passes_duplicate _ _ _

theorem documentOne_passes {declaration : Declaration} {passing : Passing}
    (apart : start.ledger.WaitsApart) (numbered : start.ledger.Numbered)
    (passed : start.PassesOver declaration passing) :
    (documentOne declaration).Passes start passing := by
  cases passed with
  | ineligibleRecord reading complete ineligible =>
      exact passes_ineligibleRecord complete reading ineligible
  | @ineligibleForward record own canonical reading incomplete named fresh ineligible =>
      refine passes_forward incomplete reading ?_ (by simp [named])
      intro other other_named
      rw [named] at other_named
      cases other_named
      exact awaitDefinition_ineligible named fresh ineligible
  | lateForward reading incomplete known =>
      refine passes_forward incomplete reading ?_ fun _ => rfl
      exact fun canonical named =>
        awaitDefinition_known (List.contains_iff_mem.mpr (known canonical named))
  | repeatedRecord reading complete eligible known =>
      exact passes_repeatedRecord complete reading eligible known apart numbered
  | ineligibleFunction reading ineligible => exact passes_ineligibleFunction reading ineligible
  | repeatedFunction reading eligible calm seen =>
      exact passes_repeatedFunction reading eligible calm seen
  | otherKind notRecord notFunction =>
      cases declaration with
      | record record => exact absurd rfl (notRecord record)
      | function function => exact absurd rfl (notFunction function)
      | field | parameter | base => exact Writes.report_bind passes_uncounted

/-- A declaration that is passed over changes nothing but how it is counted. -/
theorem documentDeclaration_passes {declaration : Declaration} {passing : Passing}
    (apart : start.ledger.WaitsApart) (numbered : start.ledger.Numbered)
    (passed : start.PassesOver declaration passing) :
    (documentDeclaration declaration).Passes start passing := by
  rw [documentDeclaration_eq]
  apply Writes.catalog_bind
  apply Writes.tryCatch
  refine (documentOne_passes apart numbered passed).mono ?_
  rintro result after text ⟨rfl, rfl, rfl⟩
  exact ⟨rfl, rfl, rfl⟩

/-! ## Runs as if it had not been there -/

/-- A run as far as a place in one of its groups: all groups before it, and the declarations
before the place. -/
def upTo (earlier : List (List Declaration)) (before : List Declaration) : Walk Unit := do
  earlier.forM fun group => discard (documentGroup group)
  discard (documentAll before)

theorem documentAll_append (first second : List Declaration) :
    documentAll (first ++ second) = (do
      let count ← documentAll first
      let others ← documentAll second
      return count + others) := by
  induction first with
  | nil => simp only [documentAll, List.nil_append, pure_bind, Nat.zero_add, bind_pure]
  | cons declaration rest ih =>
      simp only [documentAll, List.cons_append, ih, bind_assoc, pure_bind, Nat.add_assoc]

theorem document_upTo (earlier : List (List Declaration)) (before rest : List Declaration)
    (later : List (List Declaration)) :
    document (earlier ++ (before ++ rest) :: later) =
      (upTo earlier before >>= fun _ => document (rest :: later)) := by
  simp only [document, upTo, documentGroup, documentAll_append, List.forM_eq_forM,
    List.forM_append, List.forM_cons, discard_bind, bind_assoc, pure_bind]

theorem document_cons (declaration : Declaration) (rest : List Declaration)
    (later : List (List Declaration)) :
    document ((declaration :: rest) :: later) =
      (documentDeclaration declaration >>= fun _ => document (rest :: later)) := by
  simp only [document, documentGroup, documentAll, List.forM_eq_forM, List.forM_cons,
    discard_bind, bind_assoc, pure_bind]

theorem upTo_settled (dumpAll : Bool) (tagNames : List CodeText)
    (earlier : List (List Declaration)) (before : List Declaration) :
    (upTo earlier before).Writes { dumpAll, tagNames } fun _ after _ =>
      after.ledger.WaitsApart ∧ after.ledger.Numbered := by
  have apart : (Ledger.fresh dumpAll tagNames).WaitsApart := by simp [Ledger.WaitsApart, Ledger.fresh]
  have numbered : (Ledger.fresh dumpAll tagNames).Numbered := by simp [Ledger.Numbered, Ledger.fresh]
  apply Writes.bind
  refine (documentGroups_writes earlier rfl).mono ?_
  rintro (fault | ⟨⟩) middle text ⟨bottom, blocks, -, runs⟩
  · exact runs.settled apart numbered
  obtain ⟨apart, numbered⟩ := runs.settled apart numbered
  apply Writes.bind
  refine (documentAll_writes before bottom).mono ?_
  rintro (fault | count) after text ⟨-, blocks, -, runs⟩
  · exact runs.settled apart numbered
  · exact Writes.pure (runs.settled apart numbered)

end Walk

section Run

variable {dumpAll : Bool} {tagNames : List CodeText} {earlier : List (List Declaration)}
  {before : List Declaration} {declaration : Declaration} {passing : Passing}

/-- At a place of a run, what is passed over changes nothing but how it is counted. -/
theorem upTo_passes
    (passed : (Catalog.perform { dumpAll, tagNames } (Walk.upTo earlier before)).catalog.PassesOver
      declaration passing) :
    (Walk.documentDeclaration declaration).Passes
      (Catalog.perform { dumpAll, tagNames } (Walk.upTo earlier before)).catalog passing := by
  obtain ⟨apart, numbered⟩ := (Walk.upTo_settled dumpAll tagNames earlier before).perform
  exact Walk.documentDeclaration_passes apart numbered passed

theorem documentGroups_without (after : List Declaration) (later : List (List Declaration))
    (arrives : (Catalog.perform { dumpAll, tagNames } (Walk.upTo earlier before)).result = .ok ())
    (passed : (Catalog.perform { dumpAll, tagNames } (Walk.upTo earlier before)).catalog.PassesOver
      declaration passing) :
    let run := documentGroups (earlier ++ (before ++ declaration :: after) :: later) dumpAll tagNames
    let shorter := documentGroups (earlier ++ (before ++ after) :: later) dumpAll tagNames
    run.result = shorter.result ∧
      Event.document run.events = Event.document shorter.events ∧
      shorter.catalog.Recounts run.catalog := by
  intro run shorter
  have passes := upTo_passes passed
  rcases reached : (Walk.upTo earlier before).outcome ⟨{ dumpAll, tagNames }, #[]⟩
    with ⟨ending, catalog, events⟩
  have reached_eq : Catalog.perform { dumpAll, tagNames } (Walk.upTo earlier before) =
      ⟨ending, catalog, events.toList⟩ := by
    rw [Catalog.perform_eq, reached]
  rw [reached_eq] at arrives passes
  cases arrives
  obtain ⟨text, written, step_result, step_catalog, rfl⟩ := passes events
  rcases step : (Walk.documentDeclaration declaration).outcome ⟨catalog, events⟩
    with ⟨result, counted, more⟩
  rw [step] at written step_result step_catalog
  cases step_result
  have long : (Walk.document (earlier ++ (before ++ declaration :: after) :: later)).outcome
      ⟨{ dumpAll, tagNames }, #[]⟩ = (Walk.document (after :: later)).outcome ⟨counted, more⟩ := by
    rw [Walk.document_upTo, Walk.outcome_bind, reached]
    dsimp only
    rw [Walk.document_cons, Walk.outcome_bind, step]
  have short : (Walk.document (earlier ++ (before ++ after) :: later)).outcome
      ⟨{ dumpAll, tagNames }, #[]⟩ = (Walk.document (after :: later)).outcome ⟨catalog, events⟩ := by
    rw [Walk.document_upTo, Walk.outcome_bind, reached]
  have level : Walk.Abreast events more ⟨catalog, events⟩ ⟨counted, more⟩ :=
    ⟨⟨_, step_catalog⟩, #[], by simp⟩
  obtain ⟨result_eq, recounts, added, short_eq, long_eq⟩ :=
    (Walk.steady_document (after :: later)).abreast level
  rw [← short, ← long] at result_eq recounts
  rw [← short] at short_eq
  rw [← long] at long_eq
  refine ⟨result_eq, Event.document_eq ?_, recounts⟩
  calc Event.written run.events = Event.written (more ++ added).toList := by rw [← long_eq]; rfl
    _ = Event.written (events ++ added).toList := by simp [written]
    _ = Event.written shorter.events := by rw [← short_eq]; rfl

end Run

/-- In no state does a type wait for its definition and is defined, and what is passed over in a
run leaves no trace: it writes nothing, nothing but a counter changes, and without it the run
would have written the same document. -/
theorem passed_over_leaves_no_trace (dumpAll : Bool) (tagNames : List CodeText) :
    (∀ (identities : Identities) (calls : List WalkCall),
      let reached := (Catalog.callAll { dumpAll, tagNames, identities } calls).1
      ∀ awaited ∈ reached.awaited, awaited.canonical ∉ reached.identities.defined) ∧
    ∀ (earlier : List (List Declaration)) (before : List Declaration) (declaration : Declaration)
      (after : List Declaration) (later : List (List Declaration)) (passing : Passing),
      let reached := Catalog.perform { dumpAll, tagNames } (Walk.upTo earlier before)
      reached.result = .ok () → reached.catalog.PassesOver declaration passing →
        let step := reached.catalog.documentDeclaration declaration
        let run := documentGroups (earlier ++ (before ++ declaration :: after) :: later) dumpAll
          tagNames
        let shorter := documentGroups (earlier ++ (before ++ after) :: later) dumpAll tagNames
        step.result = .ok false ∧ Event.document step.events = "" ∧
          step.catalog = { reached.catalog with stats := passing.count reached.catalog.stats } ∧
          run.result = shorter.result ∧
          Event.document run.events = Event.document shorter.events ∧
          shorter.catalog.Recounts run.catalog := by
  constructor
  · intro identities calls reached awaited mem
    have apart : (Catalog.ledger { dumpAll, tagNames, identities }).WaitsApart := by
      simp [Ledger.WaitsApart, Catalog.ledger]
    exact (Catalog.callAll_waitsApart rfl apart calls awaited mem).2
  · intro earlier before declaration after later passing reached arrives passed step run shorter
    obtain ⟨result_eq, catalog_eq, silent⟩ := (upTo_passes passed).perform
    refine ⟨result_eq, @Event.document_eq _ [] silent, catalog_eq, ?_⟩
    exact documentGroups_without after later arrives passed

def pointAt (complete : Bool) (line : Int) : Record :=
  { name := some "Point", location := ⟨"point.h", line⟩, complete
    attributes := [{ name := "compex_tag" }] }

theorem repeatedPoint_leaves_no_trace :
    let reached := Catalog.perform {} (Walk.upTo [[.record (pointAt false 1)]]
      [.record (pointAt true 2)])
    let run := documentGroups
      [[.record (pointAt false 1)], [.record (pointAt true 2), .record (pointAt true 3)]] false
      Tag.defaultNames
    let shorter := documentGroups [[.record (pointAt false 1)], [.record (pointAt true 2)]] false
      Tag.defaultNames
    reached.result = .ok () ∧ reached.catalog.PassesOver (.record (pointAt true 3)) .duplicate ∧
      Event.document run.events = Event.document shorter.events ∧
      shorter.catalog.Recounts run.catalog := by
  intro reached run shorter
  have arrives : reached.result = .ok () := by decide +kernel
  have passed : reached.catalog.PassesOver (.record (pointAt true 3)) .duplicate :=
    @Catalog.PassesOver.repeatedRecord _ _ [[]] (by decide +kernel) rfl (by decide +kernel)
      (by decide +kernel)
  obtain ⟨-, -, -, -, same, recounts⟩ := (passed_over_leaves_no_trace false Tag.defaultNames).2
    [[.record (pointAt false 1)]] [.record (pointAt true 2)] (.record (pointAt true 3)) [] []
    .duplicate arrives passed
  exact ⟨arrives, passed, same, recounts⟩

end TypeCatalog
