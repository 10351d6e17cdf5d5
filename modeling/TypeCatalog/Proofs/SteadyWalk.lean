import TypeCatalog.Proofs.Documenting
import TypeCatalog.Proofs.LoopRules

/-!
# Counters have no say in a walk

A walk counts what it does and never looks at the counts, and it adds events
without looking at earlier ones.  So two walks that stand at the same point
with different counts go on alike, whatever they have to do, and what a part
of a walk brings about only follows what came before it.  Every line is
counted when it is written.  No report of a walk is on the channel of outlets.
-/

namespace TypeCatalog

open Document
open Text (CodeText)

/-- A catalog at the same point of a walk, which has counted differently at most. -/
def Catalog.Recounts (first second : Catalog) : Prop :=
  ∃ stats, second = { first with stats }

@[refl] theorem Catalog.Recounts.refl (catalog : Catalog) : catalog.Recounts catalog :=
  ⟨catalog.stats, rfl⟩

/-! ## Channels of the reports on tags -/

theorem Tag.channel_argument {literal : Literal} {diagnostic : Diagnostic}
    (reported : diagnostic ∈ (Tag.argument literal).reports) :
    diagnostic.channel = Channel.tags := by
  unfold Tag.argument at reported
  split at reported
  · simp at reported
  · split at reported
    · simp at reported
    · rw [List.mem_singleton.mp reported]
      rfl

theorem Tag.channel_tagInstance {literals : List Literal} {diagnostic : Diagnostic}
    (reported : diagnostic ∈ (Tag.tagInstance literals).reports) :
    diagnostic.channel = Channel.tags := by
  induction literals with
  | nil => simp [Tag.tagInstance] at reported
  | cons literal rest ih =>
      unfold Tag.tagInstance at reported
      dsimp only at reported
      split at reported
      · exact Tag.channel_argument reported
      · rcases List.mem_append.mp reported with reported | reported
        · exact Tag.channel_argument reported
        · exact ih reported

theorem Tag.channel_ofAttributes {names : List CodeText} {attributes : List Attribute}
    {diagnostic : Diagnostic} (reported : diagnostic ∈ (Tag.ofAttributes names attributes).reports) :
    diagnostic.channel = Channel.tags := by
  induction attributes with
  | nil => simp [Tag.ofAttributes] at reported
  | cons candidate rest ih =>
      unfold Tag.ofAttributes at reported
      dsimp only at reported
      split at reported
      · split at reported
        · exact Tag.channel_tagInstance reported
        · rcases List.mem_append.mp reported with reported | reported
          · exact Tag.channel_tagInstance reported
          · exact ih reported
      · exact ih reported

namespace Walk

variable {α β : Type}

/-- Two walks stand at the same point, and since they had brought about `early` and `late` the
same events have followed. -/
structure Abreast (early late : Array Event) (first second : WalkProgress) : Prop where
  recounts : first.catalog.Recounts second.catalog
  follow : ∃ events, first.events = early ++ events ∧ second.events = late ++ events

def IsInner : Event → Prop
  | .report diagnostic => diagnostic.channel ≠ Channel.outlet
  | _ => True

def lineCount (events : Array Event) : Nat :=
  (events.toList.filterMap Event.text?).length

theorem lineCount_append (first second : Array Event) :
    lineCount (first ++ second) = lineCount first + lineCount second := by
  simp [lineCount]

/-- From a catalog on, a part of a walk adds events to those before it. -/
def AddsFrom (part : Walk α) (catalog : Catalog) (result : Except WalkFault α) (after : Catalog)
    (added : Array Event) : Prop :=
  (∀ event ∈ added, IsInner event) ∧
    after.writer.lines = catalog.writer.lines + lineCount added ∧
    ∀ events, part.outcome ⟨catalog, events⟩ = (result, ⟨after, events ++ added⟩)

structure Steady (part : Walk α) : Prop where
  abreast : ∀ {early late : Array Event} {first second : WalkProgress},
    Abreast early late first second →
      (part.outcome second).1 = (part.outcome first).1 ∧
        Abreast early late (part.outcome first).2 (part.outcome second).2
  adds : ∀ catalog, ∃ result after added, part.AddsFrom catalog result after added

namespace Steady

theorem lines_le {part : Walk α} (steady : part.Steady) (progress : WalkProgress) :
    progress.catalog.writer.lines ≤ (part.outcome progress).2.catalog.writer.lines := by
  obtain ⟨result, after, added, -, counted, eq⟩ := steady.adds progress.catalog
  rw [eq progress.events, counted]
  exact Nat.le_add_right _ _

/-! ## Rules -/

theorem adds_chain {part : Walk β} {next whole : Walk α} {catalog middle after : Catalog}
    {first : Except WalkFault β} {result : Except WalkFault α} {added others : Array Event}
    (early : part.AddsFrom catalog first middle added)
    (late : next.AddsFrom middle result after others)
    (chained : ∀ events, part.outcome ⟨catalog, events⟩ = (first, ⟨middle, events ++ added⟩) →
      whole.outcome ⟨catalog, events⟩ = next.outcome ⟨middle, events ++ added⟩) :
    whole.AddsFrom catalog result after (added ++ others) := by
  refine ⟨fun event among => ?_, ?_, fun events => ?_⟩
  · rcases Array.mem_append.mp among with among | among
    · exact early.1 event among
    · exact late.1 event among
  · rw [late.2.1, early.2.1, lineCount_append, Nat.add_assoc]
  · rw [chained events (early.2.2 events), late.2.2, Array.append_assoc]

theorem pure (value : α) : (pure value : Walk α).Steady where
  abreast level := ⟨rfl, level⟩
  adds catalog := ⟨.ok value, catalog, #[], by simp, rfl, fun _ => by simp⟩

theorem throw (fault : WalkFault) : (throw fault : Walk α).Steady where
  abreast level := ⟨rfl, level⟩
  adds catalog := ⟨.error fault, catalog, #[], by simp, rfl, fun _ => by simp⟩

theorem bind {part : Walk β} {next : β → Walk α} (first : part.Steady)
    (rest : ∀ value, (next value).Steady) : (part >>= next).Steady where
  abreast {early late one other} level := by
    obtain ⟨same, after⟩ := first.abreast level
    rw [outcome_bind, outcome_bind]
    generalize part.outcome one = reached, part.outcome other = reached' at same after ⊢
    rcases reached with ⟨fault | value, middle⟩ <;> rcases reached' with ⟨_, middle'⟩ <;>
      cases same
    · exact ⟨rfl, after⟩
    · exact (rest value).abreast after
  adds catalog := by
    obtain ⟨result, middle, added, early⟩ := first.adds catalog
    rcases result with fault | value
    · refine ⟨.error fault, middle, added, early.1, early.2.1, fun events => ?_⟩
      rw [outcome_bind, early.2.2]
    · obtain ⟨result, after, others, late⟩ := (rest value).adds middle
      refine ⟨result, after, added ++ others, adds_chain early late fun events reached => ?_⟩
      rw [outcome_bind, reached]

theorem tryCatch {part : Walk α} {handle : WalkFault → Walk α} (body : part.Steady)
    (recover : ∀ fault, (handle fault).Steady) : (tryCatch part handle).Steady where
  abreast {early late one other} level := by
    obtain ⟨same, after⟩ := body.abreast level
    rw [outcome_tryCatch, outcome_tryCatch]
    generalize part.outcome one = reached, part.outcome other = reached' at same after ⊢
    rcases reached with ⟨fault | value, middle⟩ <;> rcases reached' with ⟨_, middle'⟩ <;>
      cases same
    · exact (recover fault).abreast after
    · exact ⟨rfl, after⟩
  adds catalog := by
    obtain ⟨result, middle, added, early⟩ := body.adds catalog
    rcases result with fault | value
    · obtain ⟨result, after, others, late⟩ := (recover fault).adds middle
      refine ⟨result, after, added ++ others, adds_chain early late fun events reached => ?_⟩
      rw [outcome_tryCatch, reached]
    · refine ⟨.ok value, middle, added, early.1, early.2.1, fun events => ?_⟩
      rw [outcome_tryCatch, early.2.2]

theorem seq {first : Walk β} {second : Walk α} (early : first.Steady) (late : second.Steady) :
    (first >>= fun _ => second).Steady :=
  early.bind fun _ => late

theorem composes : Composes fun α (part : Walk α) => part.Steady where
  pure := pure
  bind := bind

theorem discard {part : Walk α} (steady : part.Steady) : (discard part).Steady :=
  steady.seq (pure ())

/-- What is read of a catalog must not be its counts. -/
theorem catalog_bind {next : Catalog → Walk α}
    (blind : ∀ catalog stats, next { catalog with stats } = next catalog)
    (each : ∀ catalog, (next catalog).Steady) : (catalog >>= next).Steady where
  abreast {early late one other} level := by
    obtain ⟨stats, counted⟩ := level.recounts
    rw [outcome_bind, outcome_bind, outcome_catalog, outcome_catalog]
    simp only [counted, blind]
    exact (each one.catalog).abreast level
  adds start := by
    obtain ⟨result, after, added, inner, counted, eq⟩ := (each start).adds start
    refine ⟨result, after, added, inner, counted, fun events => ?_⟩
    rw [outcome_bind, outcome_catalog]
    exact eq events

theorem modifyCatalog {change : Catalog → Catalog}
    (lines_eq : ∀ catalog, (change catalog).writer.lines = catalog.writer.lines)
    (recounts : ∀ catalog stats, (change catalog).Recounts (change { catalog with stats })) :
    (modifyCatalog change).Steady where
  abreast {early late one other} level := by
    obtain ⟨stats, counted⟩ := level.recounts
    refine ⟨rfl, ?_, level.follow⟩
    rw [outcome_modifyCatalog, outcome_modifyCatalog, counted]
    exact recounts one.catalog stats
  adds catalog := by
    refine ⟨.ok (), change catalog, #[], by simp, lines_eq catalog, fun events => ?_⟩
    rw [outcome_modifyCatalog, Array.append_empty]

theorem modifyStats (change : WalkCounts → WalkCounts) : (modifyStats change).Steady :=
  modifyCatalog (fun _ => rfl) fun _ _ => ⟨_, rfl⟩

theorem event (event : Event) (inner : IsInner event) (silent : event.text? = none) :
    (Walk.event event).Steady where
  abreast {early late one other} level := by
    obtain ⟨events, one_eq, other_eq⟩ := level.follow
    refine ⟨rfl, level.recounts, events.push event, ?_, ?_⟩
    · rw [outcome_event, one_eq, Array.append_push]
    · rw [outcome_event, other_eq, Array.append_push]
  adds catalog := by
    refine ⟨.ok (), catalog, #[event], by simpa using inner, ?_, fun events => ?_⟩
    · simp [lineCount, silent]
    · rw [outcome_event, Array.push_eq_append]

theorem reportTo {channel : CodeText} (inner : channel ≠ Channel.outlet) (level : Level)
    (message : CodeText) : (Walk.report level message channel).Steady :=
  event _ inner rfl

theorem report (level : Level) (message : CodeText) : (Walk.report level message).Steady :=
  reportTo (by decide) level message

theorem flush : (Walk.event .flush).Steady :=
  event _ trivial rfl

theorem identities (operation : Identities → α × Identities) :
    (Walk.identities operation).Steady := by
  apply catalog_bind (fun _ _ => rfl)
  intro catalog
  rcases operation catalog.identities with ⟨result, after⟩
  apply seq
  · exact modifyCatalog (fun _ => rfl) fun _ _ => ⟨_, rfl⟩
  · exact pure result

theorem line {operation : LineWriter → Except LineFault (String × LineWriter)}
    (counts : ∀ writer written, operation writer = .ok written →
      written.2.lines = writer.lines + 1) : (line operation).Steady where
  abreast {early late one other} level := by
    obtain ⟨stats, counted⟩ := level.recounts
    obtain ⟨events, one_eq, other_eq⟩ := level.follow
    rw [outcome_line, outcome_line, counted]
    rcases operation one.catalog.writer with fault | ⟨text, after⟩
    · exact ⟨rfl, level⟩
    · refine ⟨rfl, ⟨stats, rfl⟩, events.push (.line text), ?_, ?_⟩
      · rw [one_eq, Array.append_push]
      · rw [other_eq, Array.append_push]
  adds catalog := by
    rcases written : operation catalog.writer with fault | ⟨text, after⟩
    · refine ⟨.error (.line fault), catalog, #[], by simp, rfl, fun events => ?_⟩
      rw [outcome_line]
      simp [written]
    · refine ⟨.ok (), { catalog with writer := after }, #[.line text], ?_, ?_, fun events => ?_⟩
      · simp [IsInner]
      · exact counts _ _ written
      · rw [outcome_line]
        simp [written]

theorem block {operation : LineWriter → Except LineFault (String × LineWriter)}
    (counts : ∀ writer written, operation writer = .ok written →
      written.2.lines = writer.lines + 1) {body : Walk Unit} (inside : body.Steady) :
    (block operation body).Steady := by
  have restores (depth : Nat) : (Walk.modifyCatalog fun catalog =>
      { catalog with writer := { catalog.writer with depth } }).Steady :=
    modifyCatalog (fun _ => rfl) fun _ _ => ⟨_, rfl⟩
  unfold Walk.block
  apply catalog_bind (fun _ _ => rfl)
  intro catalog
  apply (line counts).seq
  exact (inside.tryCatch fun fault => (restores _).seq (throw fault)).seq (restores _)

theorem block_lines {operation : LineWriter → Except LineFault (String × LineWriter)}
    {body : Walk Unit} (inside : body.Steady)
    (counts : ∀ writer written, operation writer = .ok written →
      written.2.lines = writer.lines + 1) {progress after : WalkProgress}
    (ended : (Walk.block operation body).outcome progress = (.ok (), after)) :
    progress.catalog.writer.lines < after.catalog.writer.lines := by
  rw [outcome_block] at ended
  rcases opened : operation progress.catalog.writer with fault | ⟨text, writer⟩
  · simp [opened] at ended
  · have counted := counts _ _ opened
    have below := inside.lines_le
      ⟨{ progress.catalog with writer }, progress.events.push (.line text)⟩
    rw [opened] at ended
    obtain ⟨-, after_eq⟩ := Prod.ext_iff.mp ended
    dsimp only at after_eq
    rw [← after_eq]
    exact Nat.lt_of_lt_of_le (Nat.lt_of_lt_of_eq (Nat.lt_succ_self _) counted.symm) below

end Steady

/-! ## Lines -/

theorem lines_succ {writer : LineWriter} {result : Except LineFault (List Char)}
    {finish : List Char → String × LineWriter}
    (counts : ∀ text, (finish text).2.lines = writer.lines + 1) {written : String × LineWriter}
    (accepted : (do return finish (← result) : Except LineFault _) = .ok written) :
    written.2.lines = writer.lines + 1 := by
  rcases result with fault | text
  · cases accepted
  · cases accepted
    exact counts text

theorem steady_scalar (key : CodeText) (value : Scalar) : (scalar key value).Steady :=
  .line fun _ _ => lines_succ fun _ => rfl

theorem steady_flag (key : CodeText) (enabled : Bool) : (flag key enabled).Steady := by
  cases enabled with
  | false => exact .pure ()
  | true => exact steady_scalar key (.bool true)

theorem steady_mapping (key tag : CodeText) (anchor : Option CodeText) {body : Walk Unit}
    (inside : body.Steady) : (mapping key tag anchor body).Steady :=
  .block (fun _ _ => lines_succ fun _ => rfl) inside

theorem steady_sequence (key : CodeText) {body : Walk Unit} (inside : body.Steady) :
    (block (fun writer => .ok (writer.sequence key)) body).Steady := by
  refine .block ?_ inside
  rintro writer _ ⟨⟩
  rfl

theorem steady_item (tag : Option CodeText) {body : Walk Unit} (inside : body.Steady) :
    (block (·.item tag) body).Steady :=
  .block (fun _ _ => lines_succ fun _ => rfl) inside

/-! ## Members -/

theorem steady_allMembers (members : Members α) : (allMembers members).Steady := by
  unfold allMembers
  rcases members.fault with _ | message
  · exact .pure _
  · exact .throw _

theorem steady_faultOf (members : Members α) : (faultOf members).Steady := by
  unfold faultOf
  rcases members.fault with _ | message
  · exact .pure ()
  · exact .throw _

theorem steady_tagsOf (declaration : Declaration) : (tagsOf declaration).Steady := by
  unfold tagsOf
  apply Steady.catalog_bind (fun _ _ => rfl)
  intro catalog
  have reports : ((Tag.ofDeclaration catalog.tagNames declaration).reports.forM fun diagnostic =>
      Walk.event (.report diagnostic)).Steady :=
    Steady.composes.forM fun diagnostic among => .event _ (by
      rw [IsInner, Tag.channel_ofAttributes among]
      decide) rfl
  apply reports.seq
  rcases (Tag.ofDeclaration catalog.tagNames declaration).result with fault | tags
  · exact .throw _
  · exact .pure tags

theorem steady_writeTags (tags : TagList) : (writeTags tags).Steady := by
  have values (instance' : List TagValue) :
      (instance'.forM fun value => line (·.scalarItem (tagScalar value))).Steady :=
    Steady.composes.forM fun _ _ => .line fun _ _ => lines_succ fun _ => rfl
  unfold writeTags
  dsimp only
  split
  · exact .pure ()
  · exact steady_sequence _ (Steady.composes.forM fun instance' _ =>
      steady_item none (values instance'))

theorem steady_ownTags (declaration : Declaration) :
    (tagsOf declaration >>= writeTags).Steady :=
  (steady_tagsOf declaration).bind steady_writeTags

theorem steady_location (location : Location) : (writeLocation location).Steady :=
  (steady_scalar _ _).seq (steady_scalar _ _)

theorem steady_resolved (value : Option Int) (what : String) (subject : CodeText) :
    (resolved value what subject).Steady := by
  cases value with
  | some n => exact .pure n
  | none => exact (Steady.modifyStats _).seq ((Steady.report _ _).seq (.pure _))

theorem steady_number (key : CodeText) (value : Option Int) (what : String) (subject : CodeText)
    {rest : Walk Unit} (later : rest.Steady) :
    (resolved value what subject >>= fun n => scalar key (.int n) >>= fun _ => rest).Steady :=
  (steady_resolved value what subject).bind fun _ => (steady_scalar _ _).seq later

theorem steady_properText (key : CodeText) (value : Option CodeText) {rest : Walk Unit}
    (later : rest.Steady) :
    (match Text.proper? value with
      | some text => scalar key (.text text) >>= fun _ => rest
      | none => rest).Steady := by
  rcases Text.proper? value with _ | text
  · exact later
  · exact (steady_scalar _ _).seq later

/-! ## Functions -/

theorem steady_parameter (parameter : Parameter) : (writeParameter parameter).Steady :=
  steady_item _ ((steady_scalar _ _).seq ((steady_scalar _ _).seq (steady_ownTags _)))

theorem steady_parameters (parameters : List Parameter) : (writeParameters parameters).Steady := by
  unfold writeParameters
  split
  · refine .line ?_
    rintro writer _ ⟨⟩
    rfl
  · exact steady_sequence _ (Steady.composes.forM fun parameter _ => steady_parameter parameter)

theorem steady_qualifiers (declaration : Function) : (writeQualifiers declaration).Steady := by
  have roles := (steady_flag "constructor" (declaration.role == .constructor)).seq
    ((steady_flag "explicit" declaration.flags.explicit).seq
      ((steady_flag "default" (declaration.role == .constructor &&
          declaration.constructorKind == some .default)).seq
        ((steady_flag "copy" (declaration.role == .constructor &&
            declaration.constructorKind == some .copy)).seq
          ((steady_flag "move" (declaration.role == .constructor &&
              declaration.constructorKind == some .move)).seq
            (steady_flag "destructor" (declaration.role == .destructor))))))
  have traits : ((traitKeys declaration.flags).forM fun trait =>
      flag (.ofString trait.1) trait.2).Steady :=
    Steady.composes.forM fun trait _ => steady_flag _ _
  exact (steady_scalar "name" (.text (declaration.name.getD ""))).seq
    (steady_properText "asm" declaration.mangledName (traits.seq roles))

theorem steady_method (declaration : Function) : (writeMethod declaration).Steady :=
  (steady_qualifiers declaration).seq
    ((steady_allMembers _).bind fun parameters =>
      (steady_parameters parameters).seq (steady_ownTags (.function declaration)))

theorem steady_passed (change : WalkCounts → WalkCounts) :
    (do modifyStats change; return false : Walk Bool).Steady :=
  (Steady.modifyStats change).seq (.pure false)

theorem steady_enterFunction (declaration : Function) (parameters : List Parameter)
    (tags : TagList) : (enterFunction declaration parameters tags).Steady := by
  have name : (functionName declaration).Steady := by
    unfold functionName
    rcases Text.proper? declaration.name with _ | name
    · exact .identities _
    · exact .pure name
  have block (key : CodeText) : (functionBlock declaration parameters tags key).Steady := by
    apply Steady.seq
    · exact steady_mapping _ _ _ ((steady_location _).seq ((steady_qualifiers _).seq
        ((steady_parameters _).seq (steady_writeTags tags))))
    · exact (Steady.modifyStats _).seq (.pure true)
  unfold enterFunction
  apply Steady.seq
  · exact .modifyCatalog (fun _ => rfl) fun _ _ => ⟨_, rfl⟩
  refine name.bind fun name => Steady.catalog_bind (fun _ _ => rfl) fun catalog => ?_
  apply Steady.seq
  · exact .modifyCatalog (fun _ => rfl) fun _ _ => ⟨_, rfl⟩
  · exact block _

theorem steady_documentFunction (declaration : Function) :
    (documentFunction declaration).Steady := by
  rw [documentFunction_eq]
  refine (steady_tagsOf _).bind fun tags => Steady.catalog_bind (fun _ _ => rfl) fun catalog => ?_
  split
  · exact steady_passed _
  refine (steady_allMembers _).bind fun parameters =>
    Steady.catalog_bind (fun _ _ => rfl) fun catalog => ?_
  split
  · exact (Steady.report _ _).seq (steady_passed _)
  · exact steady_enterFunction declaration parameters tags

/-! ## Records -/

theorem steady_base (base : Base) : (writeBase base).Steady := by
  refine (steady_scalar _ _).seq ((steady_flag _ _).seq ((steady_scalar _ _).seq ?_))
  rcases Text.proper? base.type.name with _ | name
  · exact .pure ()
  · apply Steady.catalog_bind (fun _ _ => rfl)
    intro catalog
    rcases catalog.identities.reference? (Identities.namedType name) with _ | anchor
    · exact .report _ _
    · exact .line fun _ _ => lines_succ fun _ => rfl

theorem steady_bases (slots : UniqueKeys) (index : Nat) (bases : List Base) :
    (writeBases slots index bases).Steady := by
  induction bases generalizing slots index with
  | nil => exact .pure slots
  | cons base rest ih => exact (steady_mapping _ _ _ (steady_base base)).seq (ih _ _)

theorem steady_fieldBody (field : Field) (what : CodeText) : (fieldBody field what).Steady := by
  refine steady_properText "name" field.name (steady_properText "type" field.type.name
    (steady_number "size" field.type.size "size" what
      (steady_number "align" field.type.align "alignment" what ?_)))
  refine (steady_resolved field.bitOffset "offset" what).bind fun offset => ?_
  refine (steady_scalar "offset" _).seq ((steady_scalar "boffset" _).seq ?_)
  refine (steady_flag "artificial" _).seq ((steady_flag "unknown" _).seq ?_)
  rcases field.bitWidth with _ | width
  · exact steady_ownTags _
  · exact (steady_flag _ _).seq ((steady_scalar _ _).seq (steady_ownTags _))

theorem steady_field (field : Field) (owner : CodeText) (slots : UniqueKeys) :
    (writeField field owner slots).Steady := by
  rw [writeField_eq]
  have slot : (fieldSlot field).Steady := by
    unfold fieldSlot
    rcases Text.proper? field.name with _ | name
    · exact .identities _
    · exact .pure name
  exact slot.bind fun _ => (steady_mapping _ _ _ (steady_fieldBody _ _)).seq (.pure _)

theorem steady_fields (owner : CodeText) (slots : UniqueKeys) (fields : List Field) :
    (writeFields owner slots fields).Steady := by
  induction fields generalizing slots with
  | nil => exact .pure slots
  | cons field rest ih => exact (steady_field field owner slots).bind ih

theorem steady_methods (slots : UniqueKeys) (index : Nat) (methods : List Function) :
    (writeMethods slots index methods).Steady := by
  induction methods generalizing slots index with
  | nil => exact .pure slots
  | cons method rest ih => exact (steady_mapping _ _ _ (steady_method method)).seq (ih _ _)

theorem steady_recordBody (declaration : Record) (name : CodeText) (tags : TagList) :
    (do
      headerBody declaration name tags
      let slots ← writeBases {} 0 declaration.bases.items
      membersBody declaration name slots : Walk Unit).Steady := by
  have header : (headerBody declaration name tags).Steady :=
    (steady_location _).seq (steady_number _ _ _ _ (steady_number _ _ _ _ (steady_writeTags tags)))
  have members (slots : UniqueKeys) : (membersBody declaration name slots).Steady := by
    refine (steady_faultOf _).seq ((steady_fields name slots _).bind fun slots => ?_)
    refine (steady_faultOf _).seq ((steady_allMembers _).bind fun methods => ?_)
    exact (steady_methods slots 0 _).discard
  exact header.seq ((steady_bases _ _ _).bind members)

theorem steady_record (key canonical : CodeText) (declaration : Record) (tags : TagList) :
    (writeRecord key canonical declaration tags).Steady := by
  rw [writeRecord_eq]
  exact steady_mapping _ _ _ (steady_recordBody declaration _ tags)

theorem writeRecord_lines {key canonical : CodeText} {declaration : Record} {tags : TagList}
    {progress after : WalkProgress}
    (written : (writeRecord key canonical declaration tags).outcome progress = (.ok (), after)) :
    progress.catalog.writer.lines < after.catalog.writer.lines := by
  rw [writeRecord_eq] at written
  exact (steady_recordBody declaration _ tags).block_lines
    (fun _ _ => lines_succ fun _ => rfl) written

theorem steady_awaitDefinition (declaration : Record) (canonical : CodeText) (tags : TagList) :
    (awaitDefinition declaration canonical tags).Steady := by
  unfold awaitDefinition awaited?
  refine Steady.catalog_bind (fun _ _ => rfl) fun catalog => ?_
  split
  · exact .pure ()
  simp only [bind_assoc, pure_bind]
  refine Steady.catalog_bind (fun _ _ => rfl) fun catalog => ?_
  refine Steady.catalog_bind (fun _ _ => rfl) fun catalog' => ?_
  split
  · exact (Steady.modifyStats _).seq (.pure ())
  · apply Steady.seq
    · exact .modifyCatalog (fun _ => rfl) fun _ _ => ⟨_, rfl⟩
    · exact .report _ _

theorem steady_publish (declaration : Record) (canonical : CodeText) (tags : TagList) :
    (publish declaration canonical tags).Steady := by
  refine (Steady.identities _).bind fun fresh => ?_
  cases fresh with
  | false => exact (Steady.report _ _).seq (steady_passed _)
  | true =>
      have toIdentity : (Channel.identity : CodeText) ≠ Channel.outlet := by decide
      refine (Steady.reportTo toIdentity _ _).seq
        (Steady.catalog_bind (fun _ _ => rfl) fun catalog => ?_)
      apply Steady.seq
      · exact .modifyCatalog (fun _ => rfl) fun _ _ => ⟨_, rfl⟩
      · exact (steady_record _ _ _ _).seq ((Steady.modifyStats _).seq (.pure true))

theorem steady_documentRecord (declaration : Record) : (documentRecord declaration).Steady := by
  have carried : (carried declaration.canonical?).Steady := by
    unfold carried
    rcases declaration.canonical? with _ | canonical
    · exact .pure none
    · exact Steady.catalog_bind (fun _ _ => rfl) fun _ => .pure _
  have identify : (identify declaration.canonical?).Steady := by
    unfold identify
    rcases declaration.canonical? with _ | canonical
    · exact .identities _
    · apply Steady.seq
      · exact .modifyCatalog (fun _ => rfl) fun _ _ => ⟨_, rfl⟩
      · exact .pure canonical
  rw [documentRecord_eq]
  refine (steady_tagsOf _).bind fun own => ?_
  split
  · rcases declaration.canonical? with _ | canonical
    · exact .pure false
    · exact (steady_awaitDefinition _ _ _).seq (.pure false)
  · refine carried.bind fun awaited => Steady.catalog_bind (fun _ _ => rfl) fun catalog => ?_
    split
    · exact steady_passed _
    · exact identify.bind fun canonical => steady_publish _ _ _

/-! ## Declarations and whole documents -/

theorem outcome_ext {first second : Walk α}
    (same : ∀ progress, first.outcome progress = second.outcome progress) : first = second :=
  funext same

def documentOne : Declaration → Walk Bool
  | .record d => documentRecord d
  | .function d => documentFunction d
  | other => do
    report .debug ("Skipping top-level " ++ kindName other)
    return false

def giveUp (declaration : Declaration) (linesBefore : Nat) : WalkFault → Walk Bool
  | .host message => do
    modifyStats fun stats => { stats with aborted := stats.aborted + 1 }
    report .error ("Aborted dump of " ++ declaration.shown ++ ": " ++ message)
    return linesBefore < (← catalog).writer.lines
  | fault => throw fault

theorem documentDeclaration_eq (declaration : Declaration) :
    documentDeclaration declaration = (do
      let linesBefore := (← catalog).writer.lines
      tryCatch (documentOne declaration) (giveUp declaration linesBefore)) := by
  apply outcome_ext
  intro progress
  have split (part : Walk Bool) : (do
      let linesBefore := (← catalog).writer.lines
      try part catch
        | .host message =>
          modifyStats fun stats => { stats with aborted := stats.aborted + 1 }
          report .error ("Aborted dump of " ++ declaration.shown ++ ": " ++ message)
          return linesBefore < (← catalog).writer.lines
        | fault => throw fault : Walk Bool).outcome progress = (do
      let linesBefore := (← catalog).writer.lines
      tryCatch part (giveUp declaration linesBefore) : Walk Bool).outcome progress := by
    simp only [outcome_bind, outcome_catalog, outcome_tryCatch]
    rcases part.outcome progress with ⟨fault | value, after⟩
    · cases fault <;> rfl
    · rfl
  cases declaration <;> exact split _

theorem steady_documentOne (declaration : Declaration) : (documentOne declaration).Steady := by
  cases declaration with
  | record d => exact steady_documentRecord d
  | function d => exact steady_documentFunction d
  | field | parameter | base => exact (Steady.report _ _).seq (.pure false)

theorem steady_documentDeclaration (declaration : Declaration) :
    (documentDeclaration declaration).Steady := by
  rw [documentDeclaration_eq]
  refine Steady.catalog_bind (fun _ _ => rfl) fun before =>
    (steady_documentOne declaration).tryCatch fun fault => ?_
  cases fault with
  | host message =>
      refine (Steady.modifyStats _).seq ((Steady.report _ _).seq ?_)
      exact Steady.catalog_bind (fun _ _ => rfl) fun _ => .pure _
  | literal | line => exact .throw _

theorem steady_documentAll (declarations : List Declaration) :
    (documentAll declarations).Steady := by
  induction declarations with
  | nil => exact .pure 0
  | cons declaration rest ih =>
      exact (steady_documentDeclaration declaration).bind fun _ => ih.bind fun _ => .pure _

theorem steady_stub (awaited : AwaitedRecord) : (writeStub awaited).Steady := by
  refine (Steady.report _ _).seq (Steady.catalog_bind (fun _ _ => rfl) fun catalog => ?_)
  apply Steady.seq
  · exact .modifyCatalog (fun _ => rfl) fun _ _ => ⟨_, rfl⟩
  apply Steady.seq
  · exact steady_mapping _ _ _
      ((steady_location _).seq ((steady_flag _ _).seq (steady_writeTags _)))
  · exact .modifyStats _

theorem steady_finish : finish.Steady := by
  refine Steady.catalog_bind (fun _ _ => rfl) fun catalog => ?_
  refine (Steady.composes.forM fun awaited _ => steady_stub awaited).seq ?_
  apply Steady.seq
  · exact .modifyCatalog (fun _ => rfl) fun _ _ => ⟨_, rfl⟩
  · exact .flush

theorem discard_bind (part : Walk α) (next : PUnit → Walk β) :
    (discard part >>= next) = (part >>= fun _ => next ⟨⟩) := by
  change ((part >>= fun _ => pure PUnit.unit) >>= next) = _
  simp only [bind_assoc, pure_bind]

theorem steady_documentGroup (declarations : List Declaration) :
    (documentGroup declarations).Steady :=
  (steady_documentAll declarations).bind fun _ => Steady.flush.seq (.pure _)

theorem steady_document (groups : List (List Declaration)) : (document groups).Steady :=
  (Steady.composes.forM fun declarations _ => (steady_documentGroup declarations).discard).seq
    steady_finish

end Walk

theorem Catalog.perform_eq (catalog : Catalog) (part : Walk α) :
    catalog.perform part =
      ⟨(part.outcome ⟨catalog, #[]⟩).1, (part.outcome ⟨catalog, #[]⟩).2.catalog,
        (part.outcome ⟨catalog, #[]⟩).2.events.toList⟩ := rfl

theorem Walk.Steady.perform_recounts {part : Walk α} (steady : part.Steady)
    {first second : Catalog} (same : first.Recounts second) :
    (second.perform part).result = (first.perform part).result ∧
      (second.perform part).events = (first.perform part).events ∧
      (first.perform part).catalog.Recounts (second.perform part).catalog := by
  have level : Walk.Abreast #[] #[] ⟨first, #[]⟩ ⟨second, #[]⟩ := ⟨same, #[], rfl, rfl⟩
  obtain ⟨result_eq, recounts, events, first_eq, second_eq⟩ := steady.abreast level
  rw [Catalog.perform_eq, Catalog.perform_eq]
  exact ⟨result_eq, congrArg Array.toList (second_eq.trans first_eq.symm), recounts⟩

theorem Walk.Steady.perform_isInner {part : Walk α} (steady : part.Steady) (catalog : Catalog) :
    ∀ event ∈ (catalog.perform part).events, Walk.IsInner event := by
  obtain ⟨result, after, added, inner, -, eq⟩ := steady.adds catalog
  rw [Catalog.perform_eq, eq]
  simpa using inner

theorem Walk.Steady.perform_lines {part : Walk α} (steady : part.Steady) (catalog : Catalog) :
    (catalog.perform part).catalog.writer.lines =
      catalog.writer.lines + ((catalog.perform part).events.filterMap Event.text?).length := by
  obtain ⟨result, after, added, -, counted, eq⟩ := steady.adds catalog
  rw [Catalog.perform_eq, eq, counted]
  simp [Walk.lineCount]

def Catalog.Step.followedBy (first : Catalog.Step β) (next : Catalog → β → Catalog.Step α) :
    Catalog.Step α :=
  match first.result with
  | .error fault => ⟨.error fault, first.catalog, first.events⟩
  | .ok value =>
    let second := next first.catalog value
    { second with events := first.events ++ second.events }

theorem Catalog.perform_bind (catalog : Catalog) (part : Walk β) {next : β → Walk α}
    (steady : ∀ value, (next value).Steady) :
    catalog.perform (part >>= next) =
      (catalog.perform part).followedBy fun middle value => middle.perform (next value) := by
  rw [Catalog.perform_eq, Catalog.perform_eq, Walk.outcome_bind]
  rcases part.outcome ⟨catalog, #[]⟩ with ⟨fault | value, middle, early⟩
  · rfl
  · obtain ⟨result, after, added, -, -, eq⟩ := (steady value).adds middle
    simp only [Catalog.Step.followedBy, Catalog.perform_eq, eq]
    simp

end TypeCatalog
