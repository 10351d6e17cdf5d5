import TypeCatalog.Proofs.Ledger

/-!
# A walk documents declarations by its ledger

Each part of a walk for a top-level declaration, followed step by step, does
what the ledger says: it leaves the catalog with the ledger expected, at the
top level of the document, and what it has written is the block of the
declaration or the beginning of it.
-/

namespace TypeCatalog

open Document
open Text (CodeText)

theorem Catalog.Continues.ledger_eq {before after : Catalog} (kept : before.Continues after) :
    after.ledger = { before.ledger with ordinal := after.identities.ordinal } := by
  simp [Catalog.ledger, kept.dumpAll_eq, kept.tagNames_eq, kept.keys_eq, kept.signatures_eq,
    kept.awaited_eq, kept.defined_eq]

theorem Catalog.ledger_withKeys (catalog : Catalog) (keys : UniqueKeys) :
    Catalog.ledger { catalog with keys } = { catalog.ledger with keys } := rfl

namespace Walk

/-- The part of a walk for a declaration, before its faults are looked at. -/
def Performs (declaration : Declaration) (part : Walk Bool) : Prop :=
  ∀ start : Catalog, start.writer.depth = 0 → part.Writes start fun result after text =>
    after.writer.depth = 0 ∧ ∃ blocks, text = blocks.flatMap Block.text ∧
      start.ledger.Documents declaration result after.ledger blocks

section Forward

variable {declaration : Record} {own : TagList} {canonical : CodeText} {start : Catalog}

theorem awaitDefinition_known (known : start.identities.knows canonical = true) :
    (awaitDefinition declaration canonical own).Writes start fun result after text =>
      result = .ok () ∧ after = start ∧ text = [] := by
  unfold awaitDefinition
  apply Writes.catalog_bind
  rw [if_pos known]
  exact Writes.pure ⟨rfl, rfl, rfl⟩

/-- A forward declaration of a type that is not defined waits, or is skipped for the tags that
would wait with it. -/
theorem awaitDefinition_fresh (named : declaration.canonical? = some canonical)
    (fresh : start.identities.knows canonical = false) :
    (awaitDefinition declaration canonical own).Writes start fun result after text =>
      result = .ok () ∧ text = [] ∧
        after =
          if Tag.isEligible (start.ledger.tagsFor declaration own) start.dumpAll then
            { start with
              awaited := (start.ledger.carry declaration canonical
                (start.ledger.tagsFor declaration own)).awaited }
          else { start with stats := { start.stats with skipped := start.stats.skipped + 1 } } := by
  have carried : start.ledger.carried? declaration =
      start.awaited.find? (·.canonical == canonical) := by
    simp [Ledger.carried?, named, Catalog.ledger]
  unfold awaitDefinition awaited?
  apply Writes.catalog_bind
  simp only [fresh, Bool.false_eq_true, ↓reduceIte, bind_assoc, pure_bind]
  apply Writes.catalog_bind
  apply Writes.catalog_bind
  rw [← carried, ← Ledger.tagsFor]
  rcases Tag.isEligible (start.ledger.tagsFor declaration own) start.dumpAll with _ | _
  · exact Writes.modifyStats_bind (Writes.pure ⟨rfl, rfl, rfl⟩)
  · exact Writes.modifyCatalog_bind fun _ => ⟨[], by simp, rfl, rfl, rfl⟩

theorem awaitDefinition_writes (own : TagList) (start : Catalog)
    (named : declaration.canonical? = some canonical) :
    (awaitDefinition declaration canonical own).Writes start fun result after text =>
      result = .ok () ∧ text = [] ∧ after.writer = start.writer ∧
        after.ledger = start.ledger.await declaration own := by
  unfold Ledger.await
  rw [named]
  rcases known : start.identities.knows canonical with _ | _
  · have missing : start.ledger.defined.contains canonical = false := known
    refine (awaitDefinition_fresh named known).mono ?_
    rintro result after text ⟨rfl, rfl, rfl⟩
    rcases eligible : Tag.isEligible (start.ledger.tagsFor declaration own) start.dumpAll with _ | _
    · have skipped : Tag.isEligible (start.ledger.tagsFor declaration own) start.ledger.dumpAll =
          false := eligible
      simp only [missing, skipped, Bool.false_eq_true, ↓reduceIte, Bool.not_false, true_and]
      rfl
    · have counts : Tag.isEligible (start.ledger.tagsFor declaration own) start.ledger.dumpAll =
          true := eligible
      simp only [missing, counts, Bool.false_eq_true, ↓reduceIte, Bool.not_true, true_and]
      rfl
  · have found : start.ledger.defined.contains canonical = true := known
    refine (awaitDefinition_known known).mono ?_
    rintro result after text ⟨rfl, rfl, rfl⟩
    simp only [found, ↓reduceIte, true_and]

end Forward

def publish (declaration : Record) (canonical : CodeText) (tags : TagList) : Walk Bool := do
  if !(← identities (·.introduce canonical)) then
    report .info ("Type " ++ (Declaration.record declaration).shown ++
      " already dumped, ignoring redeclaration")
    modifyStats fun stats => { stats with duplicates := stats.duplicates + 1 }
    return false
  report .debug ("Defined identity " ++ canonical) Channel.identity
  let (key, keys) := (← catalog).keys.claim ((Text.proper? declaration.name).getD canonical)
  modifyCatalog ({ · with keys })
  writeRecord key canonical declaration tags
  modifyStats fun stats => { stats with recordsEmitted := stats.recordsEmitted + 1 }
  return true

theorem publish_known {declaration : Record} {canonical : CodeText} {tags : TagList}
    {start : Catalog} (known : start.identities.knows canonical = true) :
    (publish declaration canonical tags).Writes start fun result after text =>
      result = .ok false ∧ text = [] ∧ after.writer = start.writer ∧
        after.ledger = start.ledger := by
  unfold publish
  apply Writes.identities_bind
  simp only [Identities.introduce, known, ↓reduceIte, Bool.not_false]
  refine Writes.report_bind (Writes.modifyStats_bind (Writes.pure ?_))
  exact ⟨rfl, rfl, rfl, rfl⟩

theorem publish_fresh {declaration : Record} {canonical : CodeText} {tags : TagList}
    {start : Catalog} (ground : start.writer.depth = 0) (valid : IsAnchor canonical)
    (fresh : start.identities.knows canonical = false) :
    (publish declaration canonical tags).Writes start fun result after text =>
      after.writer.depth = 0 ∧ ∃ entries ordinal,
        text = Block.text
          ⟨(start.ledger.publish declaration canonical tags).2.key, .struct, some canonical,
            entries⟩ ∧
        after.ledger = { (start.ledger.publish declaration canonical tags).1 with ordinal } ∧
        start.ledger.ordinal ≤ ordinal ∧
        entries.filterMap baseBlock? <+:
          declaration.bases.items.map (Entries.ofBase (canonical :: start.ledger.defined)) ∧
        (declaration.IsClean start.ledger.names → TagList.IsWritable tags →
          ∀ fault, result = .error fault → fault.IsHost) ∧
        (declaration.IsClean start.ledger.names → TagList.IsWritable tags → declaration.IsCalm →
          (entries, ordinal) =
            Entries.ofRecord start.ledger.names (canonical :: start.ledger.defined)
              start.ledger.ordinal declaration tags) ∧
        Tree.EntriesBegin entries
          (Entries.ofRecord start.ledger.names (canonical :: start.ledger.defined)
            start.ledger.ordinal declaration tags).1 ∧
        ((∀ fault, result = .error fault → fault.IsHost) →
          Entries.ofHeader declaration tags <+: entries) := by
  unfold publish
  apply Writes.identities_bind
  simp only [Identities.introduce, fresh, Bool.false_eq_true, ↓reduceIte, Bool.not_true]
  apply Writes.report_bind
  apply Writes.catalog_bind
  apply Writes.modifyCatalog_bind
  apply Writes.bind
  have written (middle : Catalog) (ground : middle.writer.depth = 0) (key : CodeText) :=
    @writeRecord_writes (declaration.IsClean middle.tagNames ∧ TagList.IsWritable tags)
      declaration.IsCalm middle declaration tags key canonical valid ground id id
  refine (written _ (by exact ground) _).mono ?_
  rintro (fault | ⟨⟩) after text ⟨kept, entries, text_eq, bases, begins, headed, ending⟩
  · refine ⟨kept.depth_eq.trans ground, entries, after.identities.ordinal, text_eq, ?_,
      kept.ordinal_le, bases, ?_, ?_, begins, fun hosts => headed ?_⟩
    · exact kept.ledger_eq
    · rintro is_clean writable _ ⟨⟩
      exact ending.isHost ⟨is_clean, writable⟩
    · intro is_clean writable is_calm
      exact absurd is_calm (ending.not_clean_and_calm ⟨is_clean, writable⟩)
    · rintro _ ⟨⟩
      exact hosts fault rfl
  · refine Writes.modifyStats_bind (Writes.pure ?_)
    refine ⟨kept.depth_eq.trans ground, entries, after.identities.ordinal, ?_, ?_,
      kept.ordinal_le, bases, by simp, fun _ _ _ => ending, begins, fun _ => headed (by simp)⟩
    · simp [text_eq, Ledger.publish, Catalog.ledger]
    · exact kept.ledger_eq

theorem isAnchor_identify (ledger : Ledger) (declaration : Record) :
    IsAnchor (ledger.identify declaration).1 := by
  unfold Ledger.identify Record.canonical?
  rcases Text.proper? declaration.name with _ | name
  · exact isAnchor_unknownName _
  · exact isAnchor_namedType name

theorem publish_documents {declaration : Record} {own : TagList} {start middle : Catalog}
    (reading : (Tag.ofAttributes start.tagNames declaration.attributes).result = .ok own)
    (complete : declaration.complete = true)
    (eligible : Tag.isEligible (start.ledger.tagsFor declaration own) start.dumpAll = true)
    (ground : middle.writer.depth = 0)
    (identified : middle.ledger = (start.ledger.identify declaration).2) :
    (publish declaration (start.ledger.identify declaration).1
      (start.ledger.tagsFor declaration own)).Writes middle fun result after text =>
        after.writer.depth = 0 ∧ ∃ blocks, text = blocks.flatMap Block.text ∧
          start.ledger.Documents (.record declaration) result after.ledger blocks := by
  have counts : Tag.isEligible (start.ledger.tagsFor declaration own) start.ledger.dumpAll =
    true := eligible
  by_cases known : middle.identities.knows (start.ledger.identify declaration).1 = true
  · refine (publish_known known).mono ?_
    rintro result after text ⟨rfl, rfl, writer_eq, ledger_eq⟩
    refine ⟨by rw [writer_eq, ground], [], rfl, ?_⟩
    have found : (start.ledger.identify declaration).2.defined.contains
        (start.ledger.identify declaration).1 = true := by
      rw [← identified]
      exact known
    rw [ledger_eq, identified]
    refine .passed reading complete ?_
    simp only [Ledger.define, counts, found, Bool.not_true, Bool.false_eq_true, ↓reduceIte]
  · have fresh := Bool.eq_false_iff.mpr known
    refine (publish_fresh ground (isAnchor_identify _ _) fresh).mono ?_
    rintro result after text
      ⟨bottom, entries, ordinal, text_eq, ledger_eq, handed, bases, accepted, exactly, begins,
        headed⟩
    have missing : (start.ledger.identify declaration).2.defined.contains
        (start.ledger.identify declaration).1 = false := by
      rw [← identified]
      exact fresh
    rw [identified] at text_eq ledger_eq handed bases accepted exactly begins
    rw [Ledger.identify_names] at accepted exactly begins
    have decided : start.ledger.define declaration own =
        (((start.ledger.identify declaration).2.publish declaration
            (start.ledger.identify declaration).1 (start.ledger.tagsFor declaration own)).1,
          some ((start.ledger.identify declaration).2.publish declaration
            (start.ledger.identify declaration).1 (start.ledger.tagsFor declaration own)).2) := by
      simp only [Ledger.define, counts, missing, Bool.not_true, Bool.false_eq_true, ↓reduceIte]
    have documented := @Ledger.Documents.defined start.ledger _ _ _ _ _ _ _ reading complete decided
      handed bases accepted exactly begins headed
    refine ⟨bottom, _, ?_, ledger_eq ▸ documented⟩
    rw [List.flatMap_singleton]
    exact text_eq

def carried (canonical? : Option CodeText) : Walk (Option AwaitedRecord) :=
  match canonical? with
  | some canonical => awaited? canonical
  | none => pure none

def identify (canonical? : Option CodeText) : Walk CodeText :=
  match canonical? with
  | some canonical => do
    modifyCatalog fun catalog =>
      { catalog with awaited := catalog.awaited.filter (·.canonical != canonical) }
    pure canonical
  | none => identities Identities.unknownType

def documentDefinition (declaration : Record) (own : TagList) : Walk Bool := do
  let awaited ← carried declaration.canonical?
  let tags := (awaited.map (·.tags)).getD [] ++ own
  if !Tag.isEligible tags (← catalog).dumpAll then
    modifyStats fun stats => { stats with skipped := stats.skipped + 1 }
    return false
  let canonical ← identify declaration.canonical?
  publish declaration canonical tags

theorem documentRecord_eq (declaration : Record) :
    documentRecord declaration = (do
      let own ← tagsOf (.record declaration)
      if !declaration.complete then
        match declaration.canonical? with
        | some canonical => awaitDefinition declaration canonical own
        | none => pure ()
        return false
      documentDefinition declaration own) := by
  unfold documentRecord documentDefinition carried identify publish Record.canonical?
  rcases Text.proper? declaration.name with _ | name <;> rfl

theorem carried_writes (declaration : Record) (start : Catalog) :
    (carried declaration.canonical?).Writes start fun result after text =>
      result = .ok (start.ledger.carried? declaration) ∧ after = start ∧ text = [] := by
  unfold carried Ledger.carried?
  rcases declaration.canonical? with _ | canonical
  · exact Writes.pure ⟨rfl, rfl, rfl⟩
  · exact Writes.catalog_bind (Writes.pure ⟨rfl, rfl, rfl⟩)

theorem identify_writes (declaration : Record) (start : Catalog) :
    (identify declaration.canonical?).Writes start fun result after text =>
      result = .ok (start.ledger.identify declaration).1 ∧ after.writer = start.writer ∧
        after.ledger = (start.ledger.identify declaration).2 ∧ after.stats = start.stats ∧
        text = [] := by
  unfold identify Ledger.identify
  rcases declaration.canonical? with _ | canonical
  · exact fun _ => ⟨[], by simp, rfl, rfl, rfl, rfl, rfl⟩
  · exact Writes.modifyCatalog_bind (Writes.pure ⟨rfl, rfl, rfl, rfl, rfl⟩)

section Definition

variable {declaration : Record} {own : TagList} {start : Catalog}
  {post : Except WalkFault Bool → Catalog → List Char → Prop}

theorem documentDefinition_ineligible
    (ineligible : Tag.isEligible (start.ledger.tagsFor declaration own) start.dumpAll = false)
    (skips : post (.ok false)
      { start with stats := { start.stats with skipped := start.stats.skipped + 1 } } []) :
    (documentDefinition declaration own).Writes start post := by
  unfold documentDefinition
  apply Writes.silent (carried_writes declaration start)
  apply Writes.catalog_bind
  rw [← Ledger.tagsFor, ineligible]
  exact Writes.modifyStats_bind (Writes.pure skips)

theorem documentDefinition_eligible
    (eligible : Tag.isEligible (start.ledger.tagsFor declaration own) start.dumpAll = true)
    (publishes : (identify declaration.canonical? >>= fun canonical =>
      publish declaration canonical (start.ledger.tagsFor declaration own)).Writes start post) :
    (documentDefinition declaration own).Writes start post := by
  unfold documentDefinition
  apply Writes.silent (carried_writes declaration start)
  apply Writes.catalog_bind
  rw [← Ledger.tagsFor, eligible]
  exact publishes

theorem documentDefinition_writes (ground : start.writer.depth = 0)
    (reading : (Tag.ofAttributes start.tagNames declaration.attributes).result = .ok own)
    (complete : declaration.complete = true) :
    (documentDefinition declaration own).Writes start fun result after text =>
      after.writer.depth = 0 ∧ ∃ blocks, text = blocks.flatMap Block.text ∧
        start.ledger.Documents (.record declaration) result after.ledger blocks := by
  rcases eligible : Tag.isEligible (start.ledger.tagsFor declaration own) start.dumpAll with _ | _
  · have skipped : Tag.isEligible (start.ledger.tagsFor declaration own) start.ledger.dumpAll =
        false := eligible
    refine documentDefinition_ineligible eligible ⟨ground, [], rfl, ?_⟩
    refine .passed reading complete ?_
    simp only [Ledger.define, skipped, Bool.not_false, ↓reduceIte]
    rfl
  · apply documentDefinition_eligible eligible
    apply Writes.bind
    refine (identify_writes declaration start).mono ?_
    rintro result middle text ⟨rfl, writer_eq, ledger_eq, -, rfl⟩
    exact publish_documents reading complete eligible (by rw [writer_eq, ground]) ledger_eq

end Definition

theorem documentRecord_performs (declaration : Record) :
    Performs (.record declaration) (documentRecord declaration) := by
  intro start ground
  rw [documentRecord_eq]
  apply Writes.bind
  refine (tagsOf_writes (.record declaration) start).mono ?_
  rintro result after text ⟨rfl, rfl, rfl⟩
  rcases reading : (Tag.ofDeclaration after.tagNames (.record declaration)).result with fault | own
  · exact ⟨ground, [], rfl, .unread (.inl ⟨_, rfl⟩) reading⟩
  simp only [List.nil_append]
  by_cases complete : declaration.complete = true
  · simp only [complete, Bool.not_true, Bool.false_eq_true, ↓reduceIte]
    exact documentDefinition_writes ground reading complete
  · simp only [complete, Bool.not_false, ↓reduceIte]
    have documented := @Ledger.Documents.forward after.ledger _ _ reading
      (Bool.eq_false_iff.mpr complete)
    rcases named : declaration.canonical? with _ | canonical
    · have unnamed : after.ledger.await declaration own = after.ledger := by
        simp only [Ledger.await, named]
      rw [unnamed] at documented
      exact Writes.pure ⟨ground, [], rfl, documented⟩
    · apply Writes.bind
      refine (awaitDefinition_writes own after named).mono ?_
      rintro result last text ⟨rfl, rfl, writer_eq, ledger_eq⟩
      refine Writes.pure ⟨by rw [writer_eq, ground], [], rfl, ?_⟩
      rwa [ledger_eq]

/-! ## Free functions -/

def functionName (declaration : Function) : Walk CodeText :=
  match Text.proper? declaration.name with
  | some name => pure name
  | none => identities Identities.unknownType

def functionBlock (declaration : Function) (parameters : List Parameter) (tags : TagList)
    (key : CodeText) : Walk Bool := do
  mapping key (.ofString Kind.function.name) none do
    writeLocation declaration.location
    writeQualifiers declaration
    writeParameters parameters
    writeTags tags
  modifyStats fun stats => { stats with functionsEmitted := stats.functionsEmitted + 1 }
  return true

def enterFunction (declaration : Function) (parameters : List Parameter) (tags : TagList) :
    Walk Bool := do
  modifyCatalog fun catalog =>
    { catalog with
      signatures := (declaration.name, parameters.map (·.type.name)) :: catalog.signatures }
  let name ← functionName declaration
  let claimed := (← catalog).keys.claim name
  modifyCatalog ({ · with keys := claimed.2 })
  functionBlock declaration parameters tags claimed.1

theorem documentFunction_eq (declaration : Function) :
    documentFunction declaration = (do
      let tags ← tagsOf (.function declaration)
      if !Tag.isEligible tags (← catalog).dumpAll then
        modifyStats fun stats => { stats with skipped := stats.skipped + 1 }
        return false
      let parameters ← allMembers declaration.parameters
      if (← catalog).signatures.contains (declaration.name, parameters.map (·.type.name)) then
        report .info ("Function " ++ (Declaration.function declaration).shown ++
          " already dumped, ignoring redeclaration")
        modifyStats fun stats => { stats with duplicates := stats.duplicates + 1 }
        return false
      enterFunction declaration parameters tags) := by
  unfold documentFunction enterFunction functionBlock functionName
  rcases Text.proper? declaration.name with _ | name <;> rfl

theorem functionName_writes (declaration : Function) (start : Catalog) :
    (functionName declaration).Writes start fun result after text =>
      result = .ok (start.ledger.functionName declaration).1 ∧ text = [] ∧
        after.writer = start.writer ∧ after.stats = start.stats ∧
        after.ledger =
          { start.ledger with ordinal := (start.ledger.functionName declaration).2 } := by
  unfold functionName Ledger.functionName
  rcases Text.proper? declaration.name with _ | name
  · exact fun _ => ⟨[], by simp, rfl, rfl, rfl, rfl, rfl⟩
  · exact Writes.pure ⟨rfl, rfl, rfl, rfl, rfl⟩

theorem functionBlock_documents {declaration : Function} {own : TagList} {before : Ledger}
    {opened : Catalog}
    (reading : (Tag.ofAttributes before.names declaration.attributes).result = .ok own)
    (eligible : Tag.isEligible own before.dumpAll = true)
    (calm : declaration.parameters.fault = none)
    (fresh : declaration.signature ∉ before.signatures) (ground : opened.writer.depth = 0)
    (entered : opened.ledger = (before.enter declaration).2) :
    (functionBlock declaration declaration.parameters.items own
      (before.enter declaration).1).Writes opened fun result after text =>
        after.writer.depth = 0 ∧ ∃ blocks, text = blocks.flatMap Block.text ∧
          before.Documents (.function declaration) result after.ledger blocks := by
  have names_eq : opened.tagNames = before.names := congrArg Ledger.names entered
  have ordinal_eq : opened.identities.ordinal = (before.enter declaration).2.ordinal :=
    congrArg Ledger.ordinal entered
  have tagged (is_clean : declaration.IsClean opened.tagNames) : TagList.IsWritable own := by
    obtain ⟨tags, tags_eq, writable⟩ := is_clean.1
    rw [names_eq, ← Tag.result_ofAttributes, reading] at tags_eq
    cases tags_eq
    exact writable
  have inside := @draws_function opened.setting
    (Text.Integer.isWritable declaration.location.line = true ∧
      declaration.IsClean opened.tagNames) True declaration own
    fun is_clean => ⟨is_clean.1, is_clean.2, tagged is_clean.2⟩
  have documented {after : Catalog} {entries : List Entry} (kept : opened.Continues after)
      {result : Except WalkFault Bool} (own_eq : entries.filterMap baseBlock? = [])
      (accepted : Text.Integer.isWritable declaration.location.line = true →
        declaration.IsClean before.names → (∃ written, result = .ok written) ∧
          after.identities.ordinal = (before.enter declaration).2.ordinal ∧
          entries = Entries.ofLocation declaration.location ++
            Entries.ofFunction before.names declaration own)
      (begins : Tree.EntriesBegin entries (Entries.ofLocation declaration.location ++
        Entries.ofFunction before.names declaration own)) :
      before.Documents (.function declaration) result after.ledger
        [⟨(before.enter declaration).1, .function, none, entries⟩] := by
    rw [kept.ledger_eq, entered]
    exact .entered reading eligible calm fresh (ordinal_eq ▸ kept.ordinal_le) own_eq accepted begins
  apply Writes.bind
  refine (mapping_writes (before.enter declaration).1 .function ground inside).mono ?_
  rintro (fault | ⟨⟩) after text ⟨kept, entries, text_eq, own_eq, begins, ending⟩ <;>
    rw [Catalog.setting, names_eq] at begins
  · refine ⟨kept.depth_eq.trans ground, _, ?_,
      documented kept own_eq (fun writable is_clean => ?_) begins⟩
    · rwa [List.flatMap_singleton]
    · rw [← names_eq] at is_clean
      exact absurd trivial (ending.not_clean_and_calm ⟨writable, is_clean⟩)
  · refine Writes.modifyStats_bind (Writes.pure ?_)
    refine ⟨kept.depth_eq.trans ground, _, ?_, documented kept own_eq (fun _ _ => ?_) begins⟩
    · rwa [List.flatMap_singleton, List.append_nil]
    · refine ⟨⟨true, rfl⟩, ending.2.trans ordinal_eq, ?_⟩
      rw [← names_eq]
      exact ending.1

theorem enterFunction_writes {declaration : Function} {own : TagList} {start : Catalog}
    (ground : start.writer.depth = 0)
    (reading : (Tag.ofAttributes start.tagNames declaration.attributes).result = .ok own)
    (eligible : Tag.isEligible own start.dumpAll = true)
    (calm : declaration.parameters.fault = none)
    (fresh : declaration.signature ∉ start.signatures) :
    (enterFunction declaration declaration.parameters.items own).Writes start
      fun result after text =>
        after.writer.depth = 0 ∧ ∃ blocks, text = blocks.flatMap Block.text ∧
          start.ledger.Documents (.function declaration) result after.ledger blocks := by
  unfold enterFunction
  apply Writes.modifyCatalog_bind
  apply Writes.bind
  refine (functionName_writes declaration _).mono ?_
  rintro result middle text ⟨rfl, rfl, writer_eq, -, ledger_eq⟩
  apply Writes.catalog_bind
  apply Writes.modifyCatalog_bind
  have keys_eq : middle.keys = start.keys := congrArg Ledger.keys ledger_eq
  rw [keys_eq]
  refine @functionBlock_documents declaration own start.ledger _ reading eligible calm fresh ?_ ?_
  · exact (congrArg LineWriter.depth writer_eq).trans ground
  · rw [Catalog.ledger_withKeys, ledger_eq]
    rfl

theorem documentFunction_performs (declaration : Function) :
    Performs (.function declaration) (documentFunction declaration) := by
  intro start ground
  rw [documentFunction_eq]
  apply Writes.bind
  refine (tagsOf_writes (.function declaration) start).mono ?_
  rintro result after text ⟨rfl, rfl, rfl⟩
  rcases reading : (Tag.ofDeclaration after.tagNames (.function declaration)).result
    with fault | own
  · exact ⟨ground, [], rfl, .unread (.inr ⟨_, rfl⟩) reading⟩
  simp only [List.nil_append]
  apply Writes.catalog_bind
  by_cases eligible : Tag.isEligible own after.dumpAll = true
  · simp only [eligible, Bool.not_true, Bool.false_eq_true, ↓reduceIte]
    rcases ending : declaration.parameters.fault with _ | message
    · have calm : allMembers declaration.parameters = pure declaration.parameters.items := by
        simp only [allMembers, ending]
      rw [calm, pure_bind]
      apply Writes.catalog_bind
      by_cases seen : after.signatures.contains
          (declaration.name, declaration.parameters.items.map (·.type.name)) = true
      · rw [if_pos seen]
        refine Writes.report_bind (Writes.modifyStats_bind (Writes.pure ⟨ground, [], rfl, ?_⟩))
        exact .repeated reading ending (List.contains_iff_mem.mp seen)
      · rw [if_neg seen]
        refine enterFunction_writes ground reading eligible ending fun mem => seen ?_
        exact List.contains_iff_mem.mpr mem
    · have fails : allMembers declaration.parameters = throw (.host message) := by
        simp only [allMembers, ending]
      rw [fails]
      refine Writes.bind (Writes.throw ⟨ground, [], rfl, ?_⟩)
      refine .aborted reading ending ?_
      rintro fault ⟨⟩
      trivial
  · simp only [eligible, Bool.not_false, ↓reduceIte]
    refine Writes.modifyStats_bind (Writes.pure ⟨ground, [], rfl, ?_⟩)
    exact .ineligible reading (Bool.eq_false_iff.mpr eligible)

/-! ## Declarations -/

theorem Writes.tryCatch {part : Walk α} {handle : WalkFault → Walk α} {start : Catalog}
    {post : Except WalkFault α → Catalog → List Char → Prop}
    (body : part.Writes start fun result after text =>
      match result with
      | .ok value => post (.ok value) after text
      | .error fault =>
        (handle fault).Writes after fun result last more => post result last (text ++ more)) :
    (tryCatch part handle).Writes start post := by
  intro events
  obtain ⟨text, written, holds⟩ := body events
  rw [outcome_tryCatch]
  rcases reached : part.outcome ⟨start, events⟩ with ⟨fault | value, after, middle⟩ <;>
    simp only [reached] at written holds ⊢
  · obtain ⟨more, rest, holds⟩ := holds middle
    exact ⟨text ++ more, by rw [rest, written, List.append_assoc], holds⟩
  · exact ⟨text, written, holds⟩

theorem documents_recover {before after : Ledger} {declaration : Declaration} {message : CodeText}
    {blocks : List Block} (written : Bool)
    (documented : before.Documents declaration (.error (.host message)) after blocks) :
    before.Documents declaration (.ok written) after blocks := by
  cases documented with
  | defined reading complete decided handed bases accepted exactly begins headed =>
      refine .defined reading complete decided handed bases (by simp) exactly begins fun _ => ?_
      refine headed ?_
      rintro _ ⟨⟩
      trivial
  | aborted reading fault accepted => exact .aborted reading fault (by simp)
  | entered reading eligible calm fresh handed bases accepted begins =>
      refine .entered reading eligible calm fresh handed bases (fun writable is_clean => ?_) begins
      exact ⟨⟨written, rfl⟩, (accepted writable is_clean).2⟩

theorem documentOne_performs (declaration : Declaration) :
    Performs declaration (match declaration with
      | .record d => documentRecord d
      | .function d => documentFunction d
      | other => do
        report .debug ("Skipping top-level " ++ kindName other)
        return false) := by
  cases declaration with
  | record d => exact documentRecord_performs d
  | function d => exact documentFunction_performs d
  | field d =>
      exact fun start ground => Writes.report_bind
        (Writes.pure ⟨ground, [], rfl, .ignored (by simp) (by simp)⟩)
  | parameter d =>
      exact fun start ground => Writes.report_bind
        (Writes.pure ⟨ground, [], rfl, .ignored (by simp) (by simp)⟩)
  | base d =>
      exact fun start ground => Writes.report_bind
        (Writes.pure ⟨ground, [], rfl, .ignored (by simp) (by simp)⟩)

theorem documentDeclaration_writes (declaration : Declaration) {start : Catalog}
    (ground : start.writer.depth = 0) :
    (documentDeclaration declaration).Writes start fun result after text =>
      after.writer.depth = 0 ∧ (∀ message, result ≠ .error (.host message)) ∧
        ∃ blocks, text = blocks.flatMap Block.text ∧
          start.ledger.Documents declaration result after.ledger blocks := by
  apply Writes.catalog_bind
  apply Writes.bind
  apply Writes.tryCatch
  apply Writes.bind
  refine (documentOne_performs declaration start ground).mono ?_
  rintro (fault | written) after text ⟨bottom, blocks, text_eq, documented⟩
  · cases fault with
    | host message =>
        refine Writes.modifyStats_bind (Writes.report_bind (Writes.catalog_bind (Writes.pure ?_)))
        refine Writes.pure ⟨bottom, by simp, blocks, ?_, documents_recover _ documented⟩
        rwa [List.append_nil, List.append_nil]
    | literal fault =>
        refine Writes.bind (Writes.throw ⟨bottom, by simp, blocks, ?_, documented⟩)
        rwa [List.append_nil]
    | line fault =>
        refine Writes.bind (Writes.throw ⟨bottom, by simp, blocks, ?_, documented⟩)
        rwa [List.append_nil]
  · refine Writes.pure (Writes.pure ⟨bottom, by simp, blocks, ?_, documented⟩)
    rwa [List.append_nil, List.append_nil]

end Walk

end TypeCatalog
