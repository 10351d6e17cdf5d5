import Mathlib.Algebra.GroupWithZero.Nat
import TypeCatalog.Dump
import TypeCatalog.Proofs.CleanRun
import TypeCatalog.Proofs.Delivery
import TypeCatalog.Proofs.SoundExtraction

/-!
# A dump is one walk over what its sources yield

A dump reads its sources lazily, and each group of declarations is documented
before the next item is read.  The types and the catalog go from source to
source, and a source that fails leaves behind what it yielded before.  The
outcome is that of reading all sources first and walking over their groups
afterwards.
-/

namespace TypeCatalog

open Document
open Text (CodeText)

/-! ## Calls -/

namespace Document.Event

def calls (events : List Event) : List Event :=
  events.filter (·.report?.isNone)

theorem calls_append (first second : List Event) :
    calls (first ++ second) = calls first ++ calls second :=
  List.filter_append ..

theorem calls_reports (diagnostics : List Diagnostic) : calls (diagnostics.map .report) = [] :=
  List.filter_eq_nil_iff.mpr fun event listed => by
    obtain ⟨diagnostic, -, rfl⟩ := List.mem_map.mp listed
    simp [report?]

theorem document_calls (events : List Event) : document (calls events) = document events := by
  unfold document calls
  rw [List.filterMap_filter]
  congr 2
  funext event
  cases event <;> rfl

theorem dropWhile_calls (events : List Event) :
    (calls events).dropWhile (!·.isFlush) = calls (events.dropWhile (!·.isFlush)) := by
  induction events with
  | nil => rfl
  | cons event rest ih =>
      cases event with
      | flush => rfl
      | line text => exact ih
      | report diagnostic => exact ih

theorem flushed_calls (events : List Event) : flushed (calls events) = flushed events := by
  have reversed (events : List Event) : (calls events).reverse = calls events.reverse :=
    List.filter_reverse.symm
  unfold flushed
  rw [reversed, dropWhile_calls, reversed, document_calls]

theorem flushed_congr {first second : List Event} (same : calls first = calls second) :
    flushed first = flushed second := by
  rw [← flushed_calls, same, flushed_calls]

end Document.Event

/-! ## Walks over groups -/

def Walk.documentEach (groups : List Group) : Walk Unit :=
  groups.forM fun group => discard (Walk.documentGroup group)

theorem Walk.steady_documentEach (groups : List Group) : (Walk.documentEach groups).Steady :=
  Walk.Steady.composes.forM fun group _ => .discard (Walk.steady_documentGroup group)

theorem Walk.documentEach_snoc (groups : List Group) (group : Group) :
    Walk.documentEach (groups ++ [group]) = (do
      Walk.documentEach groups
      discard (Walk.documentGroup group)) := by
  simp [Walk.documentEach]

theorem Catalog.perform_discard {α : Type} (catalog : Catalog) (part : Walk α) :
    catalog.perform (discard part) =
      { catalog.perform part with result := (catalog.perform part).result.map fun _ => () } := by
  have steps := catalog.perform_bind part fun _ => Walk.Steady.pure PUnit.unit
  change catalog.perform (part >>= fun _ => pure PUnit.unit) = _
  rw [steps]
  rcases catalog.perform part with ⟨fault | value, middle, events⟩
  · rfl
  · simp [Step.followedBy, Catalog.perform_eq, Walk.outcome_pure, Except.map]

theorem Catalog.Step.of_followedBy_ok {α β : Type} {first : Catalog.Step β}
    {next : Catalog → β → Catalog.Step α} {value : α}
    (ended : (first.followedBy next).result = .ok value) :
    ∃ early, first.result = .ok early ∧ (next first.catalog early).result = .ok value := by
  unfold followedBy at ended
  rcases result_eq : first.result with fault | early <;> rw [result_eq] at ended
  · cases ended
  · exact ⟨early, rfl, ended⟩

namespace DumpOptions

variable {options : DumpOptions} {earlier later : List Group} {group : Group}

def catalog (options : DumpOptions) : Catalog :=
  { dumpAll := options.dumpAll, tagNames := options.tagNames }

def begun (options : DumpOptions) (groups : List Group) : Catalog.Step Unit :=
  options.catalog.perform (Walk.documentEach groups)

theorem begun_snoc : options.begun (earlier ++ [group]) =
    (options.begun earlier).followedBy fun middle _ =>
      middle.perform (discard (Walk.documentGroup group)) := by
  unfold begun
  rw [Walk.documentEach_snoc]
  exact options.catalog.perform_bind _ fun _ => (Walk.steady_documentGroup group).discard

theorem begun_of_append (ended : (options.begun (earlier ++ later)).result = .ok ()) :
    (options.begun earlier).result = .ok () := by
  have split : Walk.documentEach (earlier ++ later) = (do
      Walk.documentEach earlier
      Walk.documentEach later) := by
    simp [Walk.documentEach]
  unfold begun at ended ⊢
  rw [split, options.catalog.perform_bind _ fun _ => Walk.steady_documentEach later] at ended
  obtain ⟨_, result_eq, -⟩ := Catalog.Step.of_followedBy_ok ended
  exact result_eq

theorem documentGroups_eq (options : DumpOptions) (groups : List Group) :
    documentGroups groups options.dumpAll options.tagNames =
      (options.begun groups).followedBy fun middle _ => middle.finish :=
  options.catalog.perform_bind _ fun _ => Walk.steady_finish

end DumpOptions

/-! ## What sources yield -/

/-- The files while a dump is at work that has documented groups: the document may be one of
them. -/
def FileTree.during (files : FileTree) (options : DumpOptions) (groups : List Group) : FileTree :=
  match options.output with
  | none => files
  | some place =>
    files.put place (Text.Utf8.encode (Event.flushed (options.begun groups).events).toList)

theorem FileTree.shownPath_during (files : FileTree) (options : DumpOptions) (groups : List Group)
    (root : Option CodeText) (path : CodeText) :
    shownPath (files.during options groups) root path = shownPath files root path := by
  have home_eq : (files.during options groups).home = files.home := by
    unfold FileTree.during FileTree.put
    split
    · rfl
    · split <;> rfl
  unfold shownPath
  rw [home_eq]

/-- What sources yield, each read against the types that are known after those before it.  The
groups are those of earlier sources. -/
def FileTree.yields (files : FileTree) (options : DumpOptions) :
    KnownTypes → List Group → List CodeText → List FileGroups
  | _, _, [] => []
  | types, groups, path :: rest =>
    let read := fileGroups (files.during options groups) types options.root options.macroNames path
    read :: files.yields options read.types (groups ++ read.groups) rest

theorem fileGroups_sound (files : FileTree) {types : KnownTypes} (sound : types.IsSound)
    (root : Option CodeText) (macroNames : List CodeText) (path : CodeText) :
    (fileGroups files types root macroNames path).types.IsSound ∧
      ∀ fault, (fileGroups files types root macroNames path).fault ≠ some (.items (.layout fault)) := by
  unfold fileGroups
  rcases openSource files macroNames path with ⟨fault | ⟨tree, errors⟩, notes⟩
  · exact ⟨sound, fun fault same => by cases same⟩
  · obtain ⟨-, explained, kept⟩ := extract_read (shownPath files root path) sound tree
    refine ⟨kept, fun fault same => ?_⟩
    obtain ⟨found, found_eq, same⟩ := Option.map_eq_some_iff.mp same
    cases same
    exact explained _ found_eq

def SourceCounts.after (counts : SourceCounts) (read : FileGroups) : SourceCounts :=
  match read.fault with
  | none => counts.processed read.groups.flatten.length 0
  | some _ => counts.failed

/-! ## A dump at work -/

structure DumpPoint where
  groups : List Group
  types : KnownTypes
  counts : SourceCounts

def DumpState.told (state : DumpState) : List Event :=
  state.segments.toList.flatMap (·.events) ++ state.events.toList

/-- A group as part of a list, in which empty groups are left out. -/
def Group.shown (group : Group) : List Group :=
  if group.isEmpty then [] else [group]

def DumpState.advance {α : Type} (state : DumpState) (step : Catalog.Step α) : DumpState :=
  { state with catalog := step.catalog, events := state.events ++ step.events.toArray }

namespace Dump

variable {α β : Type} {options : DumpOptions} {point middle after : DumpPoint}

/-- A dump that has come to a point: its catalog and its calls are those of a walk over the
groups. -/
structure Stands (options : DumpOptions) (point : DumpPoint) (state : DumpState) : Prop where
  walked : ∃ events, options.begun point.groups = ⟨.ok (), state.catalog, events⟩ ∧
    Event.calls events = Event.calls state.told
  types : state.types = point.types
  counts : { state.stats with parseErrors := 0 } = point.counts

def LeadsTo (options : DumpOptions) (part : Dump α) (point : DumpPoint)
    (result : Except DumpFault α) (after : DumpPoint) : Prop :=
  ∀ state, Stands options point state →
    ∃ last, part.run state = (result, last) ∧ Stands options after last

theorem run_bind (part : Dump α) (next : α → Dump β) (state : DumpState) :
    (part >>= next).run state =
      match part.run state with
      | (.ok value, after) => (next value).run after
      | (.error fault, after) => (.error fault, after) := by
  change (ExceptT.bindCont next (part.run state).1) (part.run state).2 = _
  rcases part.run state with ⟨fault | value, after⟩ <;> rfl

theorem run_get_bind (next : DumpState → Dump α) (state : DumpState) :
    (get >>= next).run state = (next state).run state :=
  rfl

theorem run_modify_bind (change : DumpState → DumpState) (next : Unit → Dump α)
    (state : DumpState) : (modify change >>= next).run state = (next ()).run (change state) :=
  rfl

theorem LeadsTo.pure (value : α) : LeadsTo options (pure value) point (.ok value) point :=
  fun state stands => ⟨state, rfl, stands⟩

theorem LeadsTo.throw (fault : DumpFault) :
    LeadsTo options (throw fault : Dump α) point (.error fault) point :=
  fun state stands => ⟨state, rfl, stands⟩

theorem LeadsTo.bind {part : Dump α} {next : α → Dump β} {value : α} {result : Except DumpFault β}
    (first : LeadsTo options part point (.ok value) middle)
    (rest : LeadsTo options (next value) middle result after) :
    LeadsTo options (part >>= next) point result after := by
  intro state stands
  obtain ⟨between, ran, stands⟩ := first state stands
  obtain ⟨last, went, stands⟩ := rest between stands
  exact ⟨last, by rw [run_bind, ran]; exact went, stands⟩

theorem LeadsTo.stop {part : Dump α} {next : α → Dump β} {fault : DumpFault}
    (first : LeadsTo options part point (.error fault) after) :
    LeadsTo options (part >>= next) point (.error fault) after := by
  intro state stands
  obtain ⟨last, ran, stands⟩ := first state stands
  exact ⟨last, by rw [run_bind, ran], stands⟩

theorem LeadsTo.observing {part : Dump α} {result : Except DumpFault α}
    (leads : LeadsTo options part point result after) :
    LeadsTo options (countedSource.observing part) point (.ok result) after := by
  intro state stands
  obtain ⟨last, ran, stands⟩ := leads state stands
  refine ⟨last, ?_, stands⟩
  change (let outcome := part.run state; (Except.ok outcome.1, outcome.2)) = _
  rw [ran]

theorem reports_leadsTo (diagnostics : List Diagnostic) :
    LeadsTo options (reports diagnostics) point (.ok ()) point := by
  rintro state ⟨⟨events, begun_eq, calls_eq⟩, types, counts⟩
  refine ⟨_, rfl, ⟨events, begun_eq, ?_⟩, types, counts⟩
  simp [DumpState.told, calls_eq, Event.calls_append, Event.calls_reports]

theorem endSegment_leadsTo (source : CodeText) :
    LeadsTo options (endSegment source) point (.ok ()) point := by
  rintro state ⟨⟨events, begun_eq, calls_eq⟩, types, counts⟩
  refine ⟨_, rfl, ⟨events, begun_eq, ?_⟩, types, counts⟩
  simp [DumpState.told, calls_eq]

theorem currentFiles_leadsTo (files : FileTree) :
    LeadsTo options (currentFiles files options) point (.ok (files.during options point.groups))
      point := by
  rintro state ⟨⟨events, begun_eq, calls_eq⟩, types, counts⟩
  refine ⟨state, ?_, ⟨events, begun_eq, calls_eq⟩, types, counts⟩
  unfold currentFiles FileTree.during
  rcases options.output with _ | place
  · rfl
  · rw [begun_eq]
    dsimp only
    rw [Event.flushed_congr calls_eq]
    rfl

theorem walk_run (group : Group) (state : DumpState) :
    (walk group).run state =
      (((state.catalog.documentGroup group).result.map fun _ => ()).mapError .walk,
        state.advance (state.catalog.documentGroup group)) := by
  unfold walk
  rw [run_get_bind, run_modify_bind]
  rcases (state.catalog.documentGroup group).result with fault | count <;> rfl

theorem walk_leadsTo {group : Group}
    (ended : (options.begun (point.groups ++ [group])).result = .ok ()) :
    LeadsTo options (walk group) point (.ok ())
      { point with groups := point.groups ++ [group] } := by
  rintro state ⟨⟨events, begun_eq, calls_eq⟩, types, counts⟩
  have next_eq : options.begun (point.groups ++ [group]) =
      ⟨(state.catalog.documentGroup group).result.map fun _ => (),
        (state.catalog.documentGroup group).catalog,
        events ++ (state.catalog.documentGroup group).events⟩ := by
    rw [DumpOptions.begun_snoc, begun_eq]
    simp only [Catalog.Step.followedBy, Catalog.perform_discard, Catalog.documentGroup]
  rw [next_eq] at ended
  rcases result_eq : (state.catalog.documentGroup group).result with fault | count <;>
    rw [result_eq] at ended next_eq
  · cases ended
  refine ⟨state.advance (state.catalog.documentGroup group), ?_, ⟨_, next_eq, ?_⟩, types, counts⟩
  · rw [walk_run, result_eq]
    rfl
  · simp [DumpState.told, DumpState.advance, Event.calls_append, calls_eq]

/-! ## One source -/

def settle (session : Session) (result : Except ItemFault Group) : Dump Nat := do
  modify fun state => { state with types := session.types }
  reports session.reports.toList
  match result with
  | .error fault => throw (.file (.items fault))
  | .ok group =>
    if !group.isEmpty then walk group
    return group.length

theorem item_run (display : CodeText) (entry : Except ReadFault Item) (state : DumpState) :
    (item display entry).run state =
      (settle (Session.readItem { file := display, types := state.types } entry).2
        (Session.readItem { file := display, types := state.types } entry).1).run state :=
  rfl

theorem types_leadsTo (types : KnownTypes) :
    LeadsTo options (modify fun state => { state with types } : Dump Unit) point (.ok ())
      { point with types } := by
  rintro state ⟨walked, -, counts⟩
  exact ⟨_, rfl, walked, rfl, counts⟩

theorem item_leadsTo {display : CodeText} {entry : Except ReadFault Item}
    {result : Except ItemFault Group} {types : KnownTypes} {outcome : Except DumpFault Nat}
    (read : ItemComesTo display point.types entry result types)
    (settled : ∀ reports, LeadsTo options (settle ⟨display, types, reports⟩ result) point outcome
      after) :
    LeadsTo options (item display entry) point outcome after := by
  intro state stands
  obtain ⟨reports, eq⟩ := read #[]
  rw [item_run, stands.types, eq]
  exact settled reports state stands

theorem settle_fails {session : Session} (fault : ItemFault) :
    LeadsTo options (settle session (.error fault)) point (.error (.file (.items fault)))
      { point with types := session.types } :=
  (types_leadsTo _).bind ((reports_leadsTo _).bind (.throw _))

theorem settle_yields {session : Session} {group : Group}
    (ended : (options.begun (point.groups ++ group.shown)).result = .ok ()) :
    LeadsTo options (settle session (.ok group)) point (.ok group.length)
      { point with groups := point.groups ++ group.shown, types := session.types } := by
  refine (types_leadsTo _).bind ((reports_leadsTo _).bind ?_)
  rcases group with _ | ⟨declaration, others⟩
  · rw [Group.shown, if_pos List.isEmpty_nil, List.append_nil]
    exact LeadsTo.pure 0
  · rw [Group.shown, if_neg (by simp)] at ended ⊢
    have walked : LeadsTo options (walk (declaration :: others))
        { point with types := session.types } (.ok ())
        ⟨point.groups ++ [declaration :: others], session.types, point.counts⟩ :=
      walk_leadsTo ended
    exact walked.bind (.pure (declaration :: others).length)

def ending (value : α) : Option FileFault → Except DumpFault α
  | none => .ok value
  | some fault => .error (.file fault)

theorem items_leadsTo {display : CodeText} {entries : List (Except ReadFault Item)}
    {types last : KnownTypes} {groups earlier : List Group} {fault : Option ItemFault}
    {counts : SourceCounts} (read : ItemsRead display types entries groups fault last)
    (ended : (options.begun (earlier ++ groups)).result = .ok ()) :
    LeadsTo options (items display entries) ⟨earlier, types, counts⟩
      (ending groups.flatten.length (fault.map .items)) ⟨earlier ++ groups, last, counts⟩ := by
  induction read generalizing earlier with
  | done =>
      rw [List.append_nil]
      exact LeadsTo.pure 0
  | fails read =>
      rw [List.append_nil]
      exact LeadsTo.stop (item_leadsTo read fun reports => settle_fails _)
  | @yields types middle last entry rest group groups fault read later ih =>
      have split : (if group.isEmpty then groups else group :: groups) = group.shown ++ groups := by
        unfold Group.shown
        split <;> rfl
      have length_eq : (group.shown ++ groups).flatten.length =
          group.length + groups.flatten.length := by
        rcases group with _ | ⟨declaration, others⟩
        · simp [Group.shown]
        · simp only [Group.shown, List.isEmpty_cons, Bool.false_eq_true, ↓reduceIte,
            List.singleton_append, List.flatten_cons, List.length_append]
      rw [split, ← List.append_assoc] at ended
      rw [split, length_eq, ← List.append_assoc]
      have first : LeadsTo options (item display entry) ⟨earlier, types, counts⟩ (.ok group.length)
          ⟨earlier ++ group.shown, middle, counts⟩ :=
        item_leadsTo read fun reports => settle_yields (DumpOptions.begun_of_append ended)
      refine first.bind ?_
      cases fault with
      | none => exact (ih ended).bind (.pure _)
      | some fault => exact (ih ended).stop

def openedSource (files : FileTree) (options : DumpOptions) (path : CodeText)
    (opened : Except SourceFault (SyntaxNode × Nat)) : Dump (Nat × Nat) :=
  match opened with
  | .error fault => throw (.file (.source fault))
  | .ok (tree, errors) => do
    let display := shownPath files options.root path
    reports [extractionStarted display]
    let count ← items display (Item.all [] false tree)
    reports [extractionEnded display count]
    return (count, errors)

theorem source_leadsTo {files : FileTree} {path : CodeText} {read : FileGroups}
    (read_eq : fileGroups (files.during options point.groups) point.types options.root
      options.macroNames path = read) (sound : point.types.IsSound)
    (ended : (options.begun (point.groups ++ read.groups)).result = .ok ()) :
    ∃ errors, LeadsTo options (source files options path) point
      (ending (read.groups.flatten.length, errors) read.fault)
      ⟨point.groups ++ read.groups, read.types, point.counts⟩ := by
  have opening {outcome : Except DumpFault (Nat × Nat)} {last : DumpPoint}
      {opened : Except SourceFault (SyntaxNode × Nat) × List Diagnostic}
      (opened_eq : openSource (files.during options point.groups) options.macroNames path = opened)
      (rest : LeadsTo options (openedSource files options path opened.1) point outcome last) :
      LeadsTo options (source files options path) point outcome last := by
    refine (reports_leadsTo _).bind ((currentFiles_leadsTo files).bind ?_)
    rw [opened_eq]
    exact (reports_leadsTo _).bind rest
  unfold fileGroups at read_eq
  rcases opened : openSource (files.during options point.groups) options.macroNames path with
    ⟨fault | ⟨tree, errors⟩, notes⟩ <;> rw [opened] at read_eq <;> subst read_eq
  · refine ⟨0, opening opened ?_⟩
    rw [List.append_nil]
    exact LeadsTo.throw (.file (.source fault))
  · refine ⟨errors, opening opened ((reports_leadsTo _).bind ?_)⟩
    rw [FileTree.shownPath_during] at ended ⊢
    obtain ⟨read, -⟩ := extract_read (shownPath files options.root path) sound tree
    have items : LeadsTo options _ point _ ⟨_, _, point.counts⟩ := items_leadsTo read ended
    dsimp only
    generalize (extract (shownPath files options.root path) point.types tree).fault = fault
      at items ⊢
    cases fault with
    | none => exact items.bind ((reports_leadsTo _).bind (.pure _))
    | some fault => exact items.stop

/-! ## All sources -/

theorem report?_isSome (path : CodeText) {fault : FileFault}
    (placeable : ∀ cause, fault ≠ .items (.layout cause)) :
    ∃ message, (DumpFault.file fault).report? path = some message := by
  match fault with
  | .source (.notFound _) | .source (.notSource _) => exact ⟨_, rfl⟩
  | .source (.access fault) =>
      unfold DumpFault.report?
      dsimp only
      split <;> exact ⟨_, rfl⟩
  | .items (.container _) | .items (.item _ _ _) => exact ⟨_, rfl⟩
  | .items (.layout cause) => exact absurd rfl (placeable cause)

theorem processed_leadsTo (count errors : Nat) :
    LeadsTo options (modify fun state =>
        { state with stats := state.stats.processed count errors } : Dump Unit)
      point (.ok ()) { point with counts := point.counts.processed count 0 } := by
  rintro state ⟨walked, types, counts⟩
  exact ⟨_, rfl, walked, types, by rw [← counts]; rfl⟩

theorem failed_leadsTo :
    LeadsTo options (modify fun state => { state with stats := state.stats.failed } : Dump Unit)
      point (.ok ()) { point with counts := point.counts.failed } := by
  rintro state ⟨walked, types, counts⟩
  exact ⟨_, rfl, walked, types, by rw [← counts]; rfl⟩

theorem countedSource_leadsTo {files : FileTree} {path : CodeText} {read : FileGroups}
    (continues : options.continueOnError = true)
    (read_eq : fileGroups (files.during options point.groups) point.types options.root
      options.macroNames path = read) (sound : point.types.IsSound)
    (ended : (options.begun (point.groups ++ read.groups)).result = .ok ()) :
    LeadsTo options (countedSource files options path) point (.ok ())
      ⟨point.groups ++ read.groups, read.types, point.counts.after read⟩ := by
  obtain ⟨errors, leads⟩ := source_leadsTo read_eq sound ended
  have placeable := (fileGroups_sound (files.during options point.groups) sound options.root
    options.macroNames path).2
  rw [read_eq] at placeable
  refine leads.observing.bind ?_
  unfold SourceCounts.after
  rcases fault_eq : read.fault with _ | fault
  · exact (processed_leadsTo _ errors).bind (endSegment_leadsTo path)
  · obtain ⟨message, message_eq⟩ := report?_isSome path fun cause same =>
      placeable cause (fault_eq.trans (congrArg some same))
    dsimp only [ending]
    rw [message_eq]
    refine (reports_leadsTo _).bind (failed_leadsTo.bind ((endSegment_leadsTo path).bind ?_))
    rw [continues]
    exact .pure ()

theorem sources_leadsTo {files : FileTree} {paths : List CodeText} {types : KnownTypes}
    {earlier : List Group} {counts : SourceCounts} (continues : options.continueOnError = true)
    (sound : types.IsSound)
    (ended : (options.begun (earlier ++
      (files.yields options types earlier paths).flatMap (·.groups))).result = .ok ()) :
    ∃ last, LeadsTo options (paths.forM (countedSource files options)) ⟨earlier, types, counts⟩
      (.ok ()) ⟨earlier ++ (files.yields options types earlier paths).flatMap (·.groups), last,
        (files.yields options types earlier paths).foldl SourceCounts.after counts⟩ := by
  induction paths generalizing types earlier counts with
  | nil =>
      refine ⟨types, ?_⟩
      rw [FileTree.yields, List.flatMap_nil, List.append_nil]
      exact LeadsTo.pure ()
  | cons path rest ih =>
      rw [FileTree.yields] at ended ⊢
      rw [List.flatMap_cons, ← List.append_assoc] at ended ⊢
      obtain ⟨kept, -⟩ := fileGroups_sound (files.during options earlier) sound options.root
        options.macroNames path
      have first : LeadsTo options (countedSource files options path) ⟨earlier, types, counts⟩
          (.ok ()) _ :=
        countedSource_leadsTo continues rfl sound (DumpOptions.begun_of_append ended)
      obtain ⟨last, later⟩ := ih kept ended
      exact ⟨last, first.bind later⟩

theorem finish_run (state : DumpState) :
    finish.run state = (((state.catalog.finish).result.map fun _ => ()).mapError .walk,
      state.advance state.catalog.finish) := by
  unfold finish
  rw [run_get_bind, run_modify_bind]
  rcases state.catalog.finish.result with fault | count <;> rfl

structure Ended (walk : Catalog.Step Unit) (counts : SourceCounts) (state : DumpState) : Prop where
  catalog : state.catalog = walk.catalog
  calls : Event.calls state.told = Event.calls walk.events
  counts : { state.stats with parseErrors := 0 } = counts

def Ends (options : DumpOptions) (part : Dump Unit) (point : DumpPoint) (walk : Catalog.Step Unit)
    (counts : SourceCounts) : Prop :=
  ∀ state, Stands options point state →
    ∃ last, part.run state = (.ok (), last) ∧ Ended walk counts last

theorem LeadsTo.ends {part : Dump α} {next : α → Dump Unit} {value : α} {walk : Catalog.Step Unit}
    {counts : SourceCounts} (first : LeadsTo options part point (.ok value) middle)
    (rest : Ends options (next value) middle walk counts) :
    Ends options (part >>= next) point walk counts := by
  intro state stands
  obtain ⟨between, ran, stands⟩ := first state stands
  obtain ⟨last, went, ended⟩ := rest between stands
  exact ⟨last, by rw [run_bind, ran]; exact went, ended⟩

def close : Dump Unit := do
  finish
  let state ← get
  report .info ("Dump complete: " ++ state.stats.summary ++ ", " ++ state.catalog.stats.summary)

theorem close_ends
    (ended : (documentGroups point.groups options.dumpAll options.tagNames).result = .ok ()) :
    Ends options close point (documentGroups point.groups options.dumpAll options.tagNames)
      point.counts := by
  rintro state ⟨⟨events, begun_eq, calls_eq⟩, -, counts⟩
  rw [DumpOptions.documentGroups_eq, begun_eq] at ended ⊢
  replace ended : state.catalog.finish.result = .ok () := ended
  obtain ⟨diagnostics, ran⟩ : ∃ diagnostics,
      close.run state = (reports diagnostics).run (state.advance state.catalog.finish) := by
    unfold close
    rw [run_bind, finish_run, ended]
    exact ⟨_, run_get_bind _ _⟩
  refine ⟨_, ran, rfl, ?_, counts⟩
  simp [DumpState.told, DumpState.advance, Catalog.Step.followedBy, Event.calls_append,
    Event.calls_reports, calls_eq]

theorem sources_ends {files : FileTree} {names : List CodeText} {types : KnownTypes}
    (continues : options.continueOnError = true) (sound : types.IsSound)
    (ended : (documentGroups ((files.yields options types [] (files.sourceFiles names).1).flatMap
      (·.groups)) options.dumpAll options.tagNames).result = .ok ()) :
    Ends options (sources files options names) ⟨[], types, {}⟩
      (documentGroups ((files.yields options types [] (files.sourceFiles names).1).flatMap
        (·.groups)) options.dumpAll options.tagNames)
      ((files.yields options types [] (files.sourceFiles names).1).foldl SourceCounts.after {}) := by
  have begun := ended
  rw [DumpOptions.documentGroups_eq] at begun
  obtain ⟨_, begun, -⟩ := Catalog.Step.of_followedBy_ok begun
  unfold sources
  generalize files.sourceFiles names = found at *
  obtain ⟨paths, notes⟩ := found
  obtain ⟨last, all⟩ := @sources_leadsTo options files paths types [] {} continues sound begun
  have rest : Ends options (do
      endSegment "-"
      paths.forM (countedSource files options)
      close) ⟨[], types, {}⟩ _ _ := (endSegment_leadsTo "-").ends (all.ends (close_ends ended))
  refine (reports_leadsTo notes).ends ?_
  dsimp only
  split
  · exact (reports_leadsTo _).ends rest
  · exact rest

end Dump

/-! ## Counts -/

theorem FileTree.length_yields (files : FileTree) (options : DumpOptions) (types : KnownTypes)
    (groups : List Group) (paths : List CodeText) :
    (files.yields options types groups paths).length = paths.length := by
  induction paths generalizing types groups with
  | nil => rfl
  | cons path rest ih => exact congrArg (· + 1) (ih _ _)

def FileGroups.countEnded (reads : List FileGroups) : Nat :=
  ((reads.filter (·.fault.isNone)).map (·.groups.flatten.length)).sum

structure SourceCounts.Tells (counts : SourceCounts) (reads : List FileGroups) : Prop where
  all : counts.filesProcessed + counts.filesFailed = reads.length
  failed : counts.filesFailed = reads.countP (·.fault.isSome)
  declarations : counts.declarationsExtracted = FileGroups.countEnded reads

theorem SourceCounts.Tells.after {counts : SourceCounts} {reads : List FileGroups}
    (tells : counts.Tells reads) (read : FileGroups) : (counts.after read).Tells (reads ++ [read]) := by
  obtain ⟨all, failed, declarations⟩ := tells
  rcases fault_eq : read.fault with _ | fault
  · have after_eq : counts.after read = counts.processed read.groups.flatten.length 0 := by
      rw [SourceCounts.after, fault_eq]
    rw [after_eq]
    refine ⟨?_, ?_, ?_⟩
    · simp only [processed, List.length_append, List.length_singleton]
      omega
    · simp [processed, failed, fault_eq]
    · simp [processed, declarations, FileGroups.countEnded, fault_eq]
  · have after_eq : counts.after read = counts.failed := by
      rw [SourceCounts.after, fault_eq]
    rw [after_eq]
    refine ⟨?_, ?_, ?_⟩
    · simp only [SourceCounts.failed, List.length_append, List.length_singleton]
      omega
    · simp [SourceCounts.failed, failed, fault_eq]
    · simp [SourceCounts.failed, declarations, FileGroups.countEnded, fault_eq]

theorem SourceCounts.Tells.foldl {counts : SourceCounts} {earlier : List FileGroups}
    (tells : counts.Tells earlier) (reads : List FileGroups) :
    (reads.foldl SourceCounts.after counts).Tells (earlier ++ reads) := by
  induction reads generalizing counts earlier with
  | nil => simpa using tells
  | cons read rest ih => simpa using ih (tells.after read)

/-! ## Whole dumps -/

theorem DataModel.mem_all {name : CodeText} {model : DataModel} (known : ofName? name = some model) :
    model ∈ all := by
  obtain ⟨chars, -, found⟩ := Option.bind_eq_some_iff.mp known
  exact List.mem_of_find?_eq_some found

theorem catalogSources_eq {files : FileTree} {options : DumpOptions} {names : List CodeText}
    {model : DataModel} {last : DumpState}
    (known : DataModel.ofName? options.dataModel = some model)
    (ran : (Dump.sources files options names).run { catalog := options.catalog, types := { model } } =
      (.ok (), last)) :
    catalogSources files options names =
      { result := .ok (last.catalog.stats, last.stats)
        segments := (last.segments.push ⟨"-", last.events.toList⟩).toList } := by
  have whole : (do Dump.sources files options names; Dump.endSegment "-").run
      { catalog := options.catalog, types := { model } } =
      (.ok (), { last with segments := last.segments.push ⟨"-", last.events.toList⟩, events := #[] }) := by
    rw [Dump.run_bind, ran]
    rfl
  unfold DumpOptions.catalog at whole
  simp only [catalogSources, known, whole]

/-- A dump that goes on after failures has the outcome of one walk over all that its sources
yield, each up to its own failure, unless that walk fails; and it does not fail over declarations
that can be written. -/
theorem dump_is_one_walk (files : FileTree) (options : DumpOptions) (names : List CodeText)
    {model : DataModel} (known : DataModel.ofName? options.dataModel = some model)
    (continues : options.continueOnError = true) :
    let paths := (files.sourceFiles names).1
    let reads := files.yields options { model } [] paths
    let groups := reads.flatMap (·.groups)
    let walk := documentGroups groups options.dumpAll options.tagNames
    ((∀ declaration ∈ groups.flatten, declaration.IsClean options.tagNames) →
      walk.result = .ok ()) ∧
    (walk.result = .ok () → ∃ counts,
      (catalogSources files options names).result = .ok (walk.catalog.stats, counts) ∧
      Event.document ((catalogSources files options names).segments.flatMap (·.events)) =
        Event.document walk.events ∧
      counts.filesProcessed + counts.filesFailed = paths.length ∧
      counts.filesFailed = reads.countP (·.fault.isSome) ∧
      counts.declarationsExtracted =
        ((reads.filter (·.fault.isNone)).map (·.groups.flatten.length)).sum) := by
  intro paths reads groups walk
  refine ⟨documentGroups_clean, fun ended => ?_⟩
  have sound : ({ model } : KnownTypes).IsSound := .empty (DataModel.mem_all known)
  have start : Dump.Stands options ⟨[], { model }, {}⟩
      { catalog := options.catalog, types := { model } } := ⟨⟨[], rfl, rfl⟩, rfl, rfl⟩
  obtain ⟨last, ran, catalog_eq, calls_eq, counts_eq⟩ :=
    Dump.sources_ends continues sound ended _ start
  have outcome_eq := catalogSources_eq known ran
  have tells := (SourceCounts.Tells.mk rfl rfl rfl : ({} : SourceCounts).Tells []).foldl reads
  rw [List.nil_append, ← counts_eq] at tells
  refine ⟨last.stats, by rw [outcome_eq, catalog_eq], ?_, ?_, tells.failed, tells.declarations⟩
  · rw [outcome_eq, ← Event.document_calls walk.events, ← calls_eq, Event.document_calls]
    simp [DumpState.told]
  · exact tells.all.trans (files.length_yields options _ _ _)

section

open SessionPart

/-- `[[t(..)]] int f();` with an argument of one letter. -/
def taggedFunction (kind : String) (letter : UInt8) : SyntaxNode :=
  .mk { kind := "declaration", named := true }
    [.mk { kind := "attribute_declaration", named := true }
      [.mk { kind := "attribute", named := true }
        [letterNode "identifier" "name" 116,
          .mk { kind := "argument_list", named := true } [letterNode kind "" letter]]],
      .mk { kind := "primitive_type", field := "type", named := true,
            bytes := some [105, 110, 116] } [],
      .mk { kind := "function_declarator", field := "declarator", named := true }
        [letterNode "identifier" "declarator" 102,
          .mk { kind := "parameter_list", field := "parameters", named := true } []]]

def singleSource (item : SyntaxNode) : FileTree :=
  { home := "/w"
    files := [(["w", "a.h"],
      { bytes := [], grammar := fun _ => .mk { kind := "translation_unit" } [item] })] }

def singleTag : DumpOptions :=
  { tagNames := ["t"] }

def numberedReads : List FileGroups :=
  (singleSource (taggedFunction "number_literal" 55)).yields singleTag { model := .lp64 } []
    ["gone.h", "a.h"]

theorem numberedFunction_is_one_walk :
    DataModel.ofName? singleTag.dataModel = some .lp64 ∧ singleTag.continueOnError = true ∧
    (documentGroups (numberedReads.flatMap (·.groups)) false ["t"]).result = .ok () ∧
    ∃ counts,
      (catalogSources (singleSource (taggedFunction "number_literal" 55)) singleTag
        ["gone.h", "a.h"]).result =
        .ok ((documentGroups (numberedReads.flatMap (·.groups)) false ["t"]).catalog.stats, counts) ∧
      counts.filesProcessed + counts.filesFailed = 2 ∧ counts.filesFailed = 1 ∧
      counts.declarationsExtracted = 1 := by
  have known : DataModel.ofName? singleTag.dataModel = some .lp64 := by decide +kernel
  have ended : (documentGroups (numberedReads.flatMap (·.groups)) false ["t"]).result = .ok () := by
    decide +kernel
  have paths_eq : ((singleSource (taggedFunction "number_literal" 55)).sourceFiles
      ["gone.h", "a.h"]).1 = ["gone.h", "a.h"] := by
    decide +kernel
  obtain ⟨-, ends⟩ := dump_is_one_walk (singleSource (taggedFunction "number_literal" 55)) singleTag
    ["gone.h", "a.h"] known rfl
  rw [paths_eq] at ends
  obtain ⟨counts, result_eq, -, all, failed, declarations⟩ := ends ended
  refine ⟨known, rfl, ended, counts, result_eq, all, failed.trans ?_, declarations.trans ?_⟩
  · decide +kernel
  · decide +kernel

/-- An integer that is known by its text only fails a walk over all declarations, and only its
own source in a dump; nothing is written. -/
theorem misnumberedFunction_splits :
    (documentGroups
      (((singleSource (taggedFunction "integer" 120)).yields singleTag { model := .lp64 } []
        ["a.h"]).flatMap (·.groups)) false ["t"]).result =
      .error (.literal (.notDecimal "x")) ∧
    (catalogSources (singleSource (taggedFunction "integer" 120)) singleTag ["a.h"]).result =
      .ok ({}, { filesFailed := 1 }) ∧
    Event.document ((catalogSources (singleSource (taggedFunction "integer" 120)) singleTag
      ["a.h"]).segments.flatMap (·.events)) = "" := by
  decide +kernel

end

end TypeCatalog
