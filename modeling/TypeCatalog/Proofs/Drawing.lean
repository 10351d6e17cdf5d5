import TypeCatalog.Catalog
import TypeCatalog.Proofs.Entries

/-!
# What the steps of a walk write

The steps below the header of a block change nothing in a catalog but its
counters and its last ordinal, and what they write is a list of entries, also
when they are given up half-way.  A part of a walk with that property draws
entries; the property passes from parts to sequences and to blocks.
-/

namespace TypeCatalog

open Document
open Text (CodeText)

/-! ## Outcomes -/

namespace Walk

variable {α β : Type}

def outcome (part : Walk α) (progress : WalkProgress) : Except WalkFault α × WalkProgress :=
  part.run.run progress

theorem outcome_bind (part : Walk α) (next : α → Walk β) (progress : WalkProgress) :
    (part >>= next).outcome progress =
      match part.outcome progress with
      | (.ok value, after) => (next value).outcome after
      | (.error fault, after) => (.error fault, after) := by
  change (ExceptT.bindCont next (part.outcome progress).1) (part.outcome progress).2 = _
  rcases part.outcome progress with ⟨_ | _, _⟩ <;> rfl

theorem outcome_tryCatch (part : Walk α) (handle : WalkFault → Walk α)
    (progress : WalkProgress) :
    (tryCatch part handle).outcome progress =
      match part.outcome progress with
      | (.ok value, after) => (.ok value, after)
      | (.error fault, after) => (handle fault).outcome after := by
  rcases reached : part.outcome progress with ⟨fault | value, after⟩
  all_goals
    simp only [outcome, ExceptT.run, StateT.run] at reached
    simp only [outcome, ExceptT.run, StateT.run, tryCatch, tryCatchThe, MonadExceptOf.tryCatch,
      ExceptT.tryCatch, ExceptT.mk, bind, StateT.bind, reached]
  rfl

@[simp] theorem outcome_pure (value : α) (progress : WalkProgress) :
    (pure value : Walk α).outcome progress = (.ok value, progress) := rfl

@[simp] theorem outcome_throw (fault : WalkFault) (progress : WalkProgress) :
    (throw fault : Walk α).outcome progress = (.error fault, progress) := rfl

@[simp] theorem outcome_catalog (progress : WalkProgress) :
    catalog.outcome progress = (.ok progress.catalog, progress) := rfl

@[simp] theorem outcome_modifyCatalog (change : Catalog → Catalog) (progress : WalkProgress) :
    (modifyCatalog change).outcome progress =
      (.ok (), { progress with catalog := change progress.catalog }) := rfl

@[simp] theorem outcome_modifyStats (change : WalkCounts → WalkCounts)
    (progress : WalkProgress) :
    (modifyStats change).outcome progress =
      (.ok (), { progress with
        catalog := { progress.catalog with stats := change progress.catalog.stats } }) := rfl

@[simp] theorem outcome_event (event : Event) (progress : WalkProgress) :
    (Walk.event event).outcome progress =
      (.ok (), { progress with events := progress.events.push event }) := rfl

@[simp] theorem outcome_report (level : Level) (message channel : CodeText)
    (progress : WalkProgress) :
    (report level message channel).outcome progress =
      (.ok (), { progress with
        events := progress.events.push (.report { level, channel, message }) }) := rfl

@[simp] theorem outcome_identities (operation : Identities → α × Identities)
    (progress : WalkProgress) :
    (identities operation).outcome progress =
      (.ok (operation progress.catalog.identities).1,
        { progress with
          catalog :=
            { progress.catalog with
              identities := (operation progress.catalog.identities).2 } }) := rfl

theorem outcome_line (operation : LineWriter → Except LineFault (String × LineWriter))
    (progress : WalkProgress) :
    (line operation).outcome progress =
      match operation progress.catalog.writer with
      | .error fault => (.error (.line fault), progress)
      | .ok (text, after) =>
        (.ok (),
          ⟨{ progress.catalog with writer := after }, progress.events.push (.line text)⟩) := by
  unfold line
  simp only [outcome_bind, outcome_catalog]
  rcases operation progress.catalog.writer with fault | ⟨text, after⟩
  · simp
  · simp [outcome_bind]

theorem outcome_block (operation : LineWriter → Except LineFault (String × LineWriter))
    (body : Walk Unit) (progress : WalkProgress) :
    (block operation body).outcome progress =
      match operation progress.catalog.writer with
      | .error fault => (.error (.line fault), progress)
      | .ok (text, after) =>
        let inside := body.outcome
          ⟨{ progress.catalog with writer := after }, progress.events.push (.line text)⟩
        (inside.1,
          { inside.2 with
            catalog :=
              { inside.2.catalog with
                writer :=
                  { inside.2.catalog.writer with depth := progress.catalog.writer.depth } } }) := by
  unfold block
  simp only [outcome_bind, outcome_catalog, outcome_tryCatch, outcome_line]
  rcases operation progress.catalog.writer with fault | ⟨text, after⟩
  · rfl
  · simp only
    rcases body.outcome _ with ⟨_ | _, _⟩ <;> simp

end Walk

/-! ## What stays -/

/-- A later catalog of the same walk, in which nothing that decides about declarations has
changed.  Ordinals may have been handed out in between. -/
structure Catalog.Continues (before after : Catalog) : Prop where
  dumpAll_eq : after.dumpAll = before.dumpAll
  tagNames_eq : after.tagNames = before.tagNames
  keys_eq : after.keys = before.keys
  signatures_eq : after.signatures = before.signatures
  awaited_eq : after.awaited = before.awaited
  defined_eq : after.identities.defined = before.identities.defined
  depth_eq : after.writer.depth = before.writer.depth
  ordinal_le : before.identities.ordinal ≤ after.identities.ordinal
  stats_eq : after.stats = { before.stats with unresolved := after.stats.unresolved }

namespace Catalog.Continues

@[refl] theorem refl (catalog : Catalog) : catalog.Continues catalog :=
  ⟨rfl, rfl, rfl, rfl, rfl, rfl, rfl, Nat.le_refl _, rfl⟩

theorem trans {first second third : Catalog} (early : first.Continues second)
    (late : second.Continues third) : first.Continues third :=
  ⟨late.1.trans early.1, late.2.trans early.2, late.3.trans early.3, late.4.trans early.4,
    late.5.trans early.5, late.6.trans early.6, late.7.trans early.7,
    Nat.le_trans early.8 late.8, by rw [late.9, early.9]⟩

end Catalog.Continues

/-- A fault of the front end, which ends a declaration and not the walk. -/
def WalkFault.IsHost : WalkFault → Prop
  | host _ => True
  | _ => False

/-- A fault that what is `clean` meets from the front end only, and what is `calm` not even
from there. -/
structure WalkFault.Excused (clean calm : Prop) (fault : WalkFault) : Prop where
  isHost : clean → fault.IsHost
  not_calm : fault.IsHost → ¬calm

theorem WalkFault.Excused.not_clean_and_calm {clean calm : Prop} {fault : WalkFault}
    (excused : fault.Excused clean calm) (is_clean : clean) : ¬calm :=
  excused.not_calm (excused.isHost is_clean)

/-! ## Texts of parts -/

namespace Walk

variable {α β ι : Type}

def Writes (part : Walk α) (start : Catalog)
    (post : Except WalkFault α → Catalog → List Char → Prop) : Prop :=
  ∀ events : Array Event, ∃ text,
    Event.written (part.outcome ⟨start, events⟩).2.events.toList =
        Event.written events.toList ++ text ∧
      post (part.outcome ⟨start, events⟩).1 (part.outcome ⟨start, events⟩).2.catalog text

namespace Writes

variable {start : Catalog} {post : Except WalkFault α → Catalog → List Char → Prop}

theorem mono {weaker : Except WalkFault α → Catalog → List Char → Prop} {part : Walk α}
    (writes : part.Writes start post)
    (implies : ∀ result after text, post result after text → weaker result after text) :
    part.Writes start weaker := by
  intro events
  obtain ⟨text, written, holds⟩ := writes events
  exact ⟨text, written, implies _ _ _ holds⟩

theorem pure {value : α} (holds : post (.ok value) start []) :
    (pure value : Walk α).Writes start post :=
  fun _ => ⟨[], by simp, holds⟩

theorem throw {fault : WalkFault} (holds : post (.error fault) start []) :
    (throw fault : Walk α).Writes start post :=
  fun _ => ⟨[], by simp, holds⟩

theorem bind {part : Walk β} {next : β → Walk α}
    (first : part.Writes start fun result after text =>
      match result with
      | .ok value =>
        (next value).Writes after fun result last more => post result last (text ++ more)
      | .error fault => post (.error fault) after text) :
    (part >>= next).Writes start post := by
  intro events
  obtain ⟨text, written, holds⟩ := first events
  rw [outcome_bind]
  rcases reached : part.outcome ⟨start, events⟩ with ⟨fault | value, after, middle⟩ <;>
    simp only [reached] at written holds ⊢
  · exact ⟨text, written, holds⟩
  · obtain ⟨more, rest, holds⟩ := holds middle
    exact ⟨text ++ more, by rw [rest, written, List.append_assoc], holds⟩

theorem silent {part : Walk β} {next : β → Walk α} {value : β} {after : Catalog}
    (quiet : part.Writes start fun result last text =>
      result = .ok value ∧ last = after ∧ text = [])
    (rest : (next value).Writes after post) : (part >>= next).Writes start post := by
  apply bind
  refine quiet.mono ?_
  rintro result last text ⟨rfl, rfl, rfl⟩
  simpa using rest

theorem catalog_bind {next : Catalog → Walk α} (rest : (next start).Writes start post) :
    (catalog >>= next).Writes start post :=
  silent (fun _ => ⟨[], by simp⟩) rest

theorem modifyCatalog_bind {change : Catalog → Catalog} {next : Unit → Walk α}
    (rest : (next ()).Writes (change start) post) :
    (modifyCatalog change >>= next).Writes start post :=
  silent (fun _ => ⟨[], by simp⟩) rest

theorem modifyStats_bind {change : WalkCounts → WalkCounts} {next : Unit → Walk α}
    (rest : (next ()).Writes { start with stats := change start.stats } post) :
    (modifyStats change >>= next).Writes start post :=
  silent (fun _ => ⟨[], by simp⟩) rest

theorem report_bind {level : Level} {message channel : CodeText} {next : Unit → Walk α}
    (rest : (next ()).Writes start post) :
    (report level message channel >>= next).Writes start post :=
  silent (fun _ => ⟨[], by simp⟩) rest

theorem identities_bind {operation : Identities → β × Identities} {next : β → Walk α}
    (rest : (next (operation start.identities).1).Writes
      { start with identities := (operation start.identities).2 } post) :
    (identities operation >>= next).Writes start post :=
  silent (fun _ => ⟨[], by simp⟩) rest

theorem line {operation : LineWriter → Except LineFault (String × LineWriter)}
    {post : Except WalkFault Unit → Catalog → List Char → Prop}
    (holds : match operation start.writer with
      | .error fault => post (.error (.line fault)) start []
      | .ok (text, after) => post (.ok ()) { start with writer := after } text.toList) :
    (line operation).Writes start post := by
  intro events
  rw [outcome_line]
  rcases reached : operation start.writer with fault | ⟨text, after⟩ <;>
    simp only [reached] at holds ⊢
  · exact ⟨[], by simp, holds⟩
  · exact ⟨text.toList, by simp, holds⟩

theorem block {operation : LineWriter → Except LineFault (String × LineWriter)}
    {body : Walk Unit} {post : Except WalkFault Unit → Catalog → List Char → Prop}
    {text : String} {after : LineWriter} (opened : operation start.writer = .ok (text, after))
    (inside : body.Writes { start with writer := after } fun result last more =>
      post result
        { last with writer := { last.writer with depth := start.writer.depth } }
        (text.toList ++ more)) :
    (block operation body).Writes start post := by
  intro events
  obtain ⟨more, written, holds⟩ := inside (events.push (.line text))
  refine ⟨text.toList ++ more, ?_, ?_⟩
  · simpa [outcome_block, opened] using written
  · simpa [outcome_block, opened] using holds

end Writes

/-! ## Drawing -/

/-- A way to write lists of pieces at a depth, with the pieces that may occur and what a text
that breaks off can show of pieces. -/
structure Rendering (ι : Type) where
  text : Nat → List ι → List Char
  fits : ι → Prop
  begins : List ι → List ι → Prop
  nil : ∀ depth, text depth [] = []
  append : ∀ depth first second,
    text depth (first ++ second) = text depth first ++ text depth second
  begins_nil : ∀ whole, begins [] whole
  begins_extend : ∀ {pieces whole}, begins pieces whole → ∀ others, begins pieces (whole ++ others)
  begins_append : ∀ {whole pieces others}, begins whole whole → begins pieces others →
    begins (whole ++ pieces) (whole ++ others)

def ownEntries : Rendering Entry where
  text := Tree.entriesText
  fits entry := baseBlock? entry = none
  begins := Tree.EntriesBegin
  nil _ := rfl
  append := Tree.entriesText_append
  begins_nil _ := trivial
  begins_extend := Tree.EntriesBegin.extend
  begins_append := Tree.EntriesBegin.append

def listItems : Rendering Tree where
  text := Tree.itemsText
  fits _ := True
  begins := Tree.ItemsBegin
  nil _ := rfl
  append := Tree.itemsText_append
  begins_nil _ := trivial
  begins_extend := Tree.ItemsBegin.extend
  begins_append := Tree.ItemsBegin.append

/-- A part that writes pieces from a catalog on, which are a beginning of those expected from it.
If it ends well it has written all of them, yields the value expected and has handed out the
ordinals up to the one expected.  If what it writes is `clean` it fails by the front end only,
and if that is `calm` it does not fail. -/
def DrawsFrom (rendering : Rendering ι) (clean calm : Prop) (start : Catalog)
    (expected : List ι) (value : α) (ordinal : Nat) (part : Walk α) : Prop :=
  part.Writes start fun result after text =>
    start.Continues after ∧ ∃ pieces, text = rendering.text start.writer.depth pieces ∧
      (∀ piece ∈ pieces, rendering.fits piece) ∧ rendering.begins pieces expected ∧
      match result with
      | .ok reached => reached = value ∧ pieces = expected ∧ after.identities.ordinal = ordinal
      | .error fault => fault.Excused clean calm

structure Setting where
  names : List CodeText
  defined : List CodeText

end Walk

def Catalog.setting (catalog : Catalog) : Walk.Setting :=
  ⟨catalog.tagNames, catalog.identities.defined⟩

theorem Catalog.Continues.setting_eq {before after : Catalog} (kept : before.Continues after) :
    after.setting = before.setting := by
  simp [Catalog.setting, kept.tagNames_eq, kept.defined_eq]

namespace Walk

variable {α β ι : Type}

/-- A part that draws the same pieces from every catalog with a setting, and hands out no
ordinal. -/
def Draws (rendering : Rendering ι) (setting : Setting) (clean calm : Prop)
    (expected : List ι) (value : α) (part : Walk α) : Prop :=
  ∀ start : Catalog, start.setting = setting →
    DrawsFrom rendering clean calm start expected value start.identities.ordinal part

section Rules

variable {rendering : Rendering ι} {setting : Setting} {clean calm : Prop}
  {start : Catalog} {value : α}

theorem DrawsFrom.bind {part : Walk β} {next : β → Walk α} {expected others : List ι} {reached : β}
    {middle ordinal : Nat}
    (early : DrawsFrom rendering clean calm start expected reached middle part)
    (late : ∀ after, start.Continues after → after.identities.ordinal = middle →
      DrawsFrom rendering clean calm after others value ordinal (next reached)) :
    DrawsFrom rendering clean calm start (expected ++ others) value ordinal (part >>= next) := by
  apply Writes.bind
  refine early.mono ?_
  rintro (fault | reached) after text ⟨kept, pieces, text_eq, fits, begins, ending⟩
  · exact ⟨kept, pieces, text_eq, fits, rendering.begins_extend begins others, ending⟩
  · obtain ⟨rfl, rfl, handed⟩ := ending
    refine (late after kept handed).mono ?_
    rintro result last more ⟨later, others, more_eq, others_fit, others_begin, ending⟩
    refine ⟨kept.trans later, pieces ++ others, ?_, ?_,
      rendering.begins_append begins others_begin, ?_⟩
    · rw [rendering.append, text_eq, more_eq, kept.depth_eq]
    · intro piece mem
      rcases List.mem_append.mp mem with mem | mem
      · exact fits piece mem
      · exact others_fit piece mem
    · cases result with
      | error fault => exact ending
      | ok reached =>
          obtain ⟨reached_eq, rfl, handed⟩ := ending
          exact ⟨reached_eq, rfl, handed⟩

theorem DrawsFrom.pure {value : α} :
    DrawsFrom rendering clean calm start [] value start.identities.ordinal (pure value) :=
  Writes.pure ⟨.refl start, [], (rendering.nil _).symm, by simp, rendering.begins_nil _, rfl, rfl,
    rfl⟩

theorem DrawsFrom.throw {fault : WalkFault} {expected : List ι} {ordinal : Nat}
    (excused : fault.Excused clean calm) :
    DrawsFrom rendering clean calm start expected value ordinal (throw fault) :=
  Writes.throw ⟨.refl start, [], (rendering.nil _).symm, by simp, rendering.begins_nil _, excused⟩

theorem DrawsFrom.block {inner : Rendering β} {body : Walk Unit} {expected : List β}
    {operation : LineWriter → Except LineFault (String × LineWriter)} {ordinal : Nat}
    {header : List Char} (piece : List β → ι)
    (inside : DrawsFrom inner clean calm
      { start with writer := ⟨start.writer.depth + 1, start.writer.lines + 1⟩ }
      expected () ordinal body)
    (fits : ∀ pieces, rendering.fits (piece pieces))
    (begins : ∀ pieces, inner.begins pieces expected →
      rendering.begins [piece pieces] [piece expected])
    (opened : operation start.writer =
      .ok (String.ofList header, ⟨start.writer.depth + 1, start.writer.lines + 1⟩))
    (text_eq : ∀ pieces, rendering.text start.writer.depth [piece pieces] =
      header ++ inner.text (start.writer.depth + 1) pieces) :
    DrawsFrom rendering clean calm start [piece expected] () ordinal
      (Walk.block operation body) := by
  apply Writes.block opened
  refine inside.mono ?_
  rintro result after text ⟨kept, pieces, rfl, -, inner_begins, ending⟩
  refine ⟨⟨kept.1, kept.2, kept.3, kept.4, kept.5, kept.6, rfl, kept.8, kept.9⟩, [piece pieces], ?_, ?_,
    begins pieces inner_begins, ?_⟩
  · simp [text_eq]
  · simpa using fits pieces
  · cases result with
    | error fault => exact ending
    | ok reached =>
        obtain ⟨-, rfl, handed⟩ := ending
        exact ⟨rfl, rfl, handed⟩

namespace Draws

theorem bind {part : Walk β} {next : β → Walk α} {expected others : List ι} {reached : β}
    (early : Draws rendering setting clean calm expected reached part)
    (late : Draws rendering setting clean calm others value (next reached)) :
    Draws rendering setting clean calm (expected ++ others) value (part >>= next) := by
  intro start setting_eq
  refine DrawsFrom.bind (early start setting_eq) fun after kept handed => ?_
  rw [← handed]
  exact late after (kept.setting_eq.trans setting_eq)

theorem seq {first : Walk β} {second : Walk α} {expected others : List ι} {reached : β}
    (early : Draws rendering setting clean calm expected reached first)
    (late : Draws rendering setting clean calm others value second) :
    Draws rendering setting clean calm (expected ++ others) value (first >>= fun _ => second) :=
  early.bind late

theorem pure {value : α} : Draws rendering setting clean calm [] value (pure value) :=
  fun _ _ => DrawsFrom.pure

theorem forM {items : List β} {step : β → Walk Unit} {expected : β → List ι}
    (each : ∀ item ∈ items, Draws rendering setting clean calm (expected item) () (step item)) :
    Draws rendering setting clean calm (items.flatMap expected) () (items.forM step) := by
  induction items with
  | nil => exact pure
  | cons item rest ih =>
      have head := each item (by simp)
      have tail := ih fun other mem => each other (by simp [mem])
      simpa using head.seq tail

theorem forEach {items : List β} {step : β → Walk Unit} {piece : β → ι}
    (each : ∀ item ∈ items, Draws rendering setting clean calm [piece item] () (step item)) :
    Draws rendering setting clean calm (items.map piece) () (items.forM step) := by
  rw [List.map_eq_flatMap]
  exact forM each

theorem line {operation : LineWriter → Except LineFault (String × LineWriter)} {piece : ι}
    (fits : rendering.fits piece)
    (written : ∀ writer, (∃ fault, operation writer = .error fault ∧ ¬clean) ∨
      operation writer = .ok (String.ofList (rendering.text writer.depth [piece]),
        { writer with lines := writer.lines + 1 }) ∧ rendering.begins [piece] [piece]) :
    Draws rendering setting clean calm [piece] () (Walk.line operation) := by
  intro start _
  apply Writes.line
  rcases written start.writer with ⟨fault, refused, unclean⟩ | ⟨accepted, begins⟩
  · simp only [refused]
    exact ⟨.refl start, [], (rendering.nil _).symm, by simp, rendering.begins_nil _,
      fun is_clean => absurd is_clean unclean, False.elim⟩
  · simp only [accepted]
    exact ⟨⟨rfl, rfl, rfl, rfl, rfl, rfl, rfl, Nat.le_refl _, rfl⟩, [piece], by simp, by simpa,
      begins, by simp⟩

theorem block {inner : Rendering β} {body : Walk Unit} {expected : List β}
    {operation : LineWriter → Except LineFault (String × LineWriter)} (piece : List β → ι)
    (inside : Draws inner setting clean calm expected () body)
    (fits : ∀ pieces, rendering.fits (piece pieces))
    (begins : ∀ pieces, inner.begins pieces expected →
      rendering.begins [piece pieces] [piece expected])
    (opened : ∀ writer, ∃ header,
      operation writer =
        .ok (String.ofList header, ⟨writer.depth + 1, writer.lines + 1⟩) ∧
      ∀ pieces, rendering.text writer.depth [piece pieces] =
        header ++ inner.text (writer.depth + 1) pieces) :
    Draws rendering setting clean calm [piece expected] () (Walk.block operation body) := by
  intro start setting_eq
  obtain ⟨header, open_eq, text_eq⟩ := opened start.writer
  exact DrawsFrom.block piece (inside _ setting_eq) fits begins open_eq text_eq

end Draws

end Rules

/-! ## Lines and blocks of entries -/

section Entries

variable {setting : Setting} {clean calm : Prop}

theorem draws_scalar (key : String) {value : Scalar}
    (writable : clean → value.written?.isSome = true) :
    Draws ownEntries setting clean calm [(.ofString key, .scalar value)] ()
      (scalar (.ofString key) value) := by
  refine Draws.line (by simp [ownEntries, baseBlock?]) fun writer => ?_
  rcases written : value.written? with _ | text
  · refine Or.inl ⟨.unwritable, ?_, fun is_clean => ?_⟩
    · simp only [LineWriter.scalar, scalarText, written]
      rfl
    · simpa [written] using writable is_clean
  · refine Or.inr ⟨?_, (Tree.begins_scalar (by simp [written])).entry _⟩
    simp only [LineWriter.scalar, scalarText, written]
    simp [ownEntries, Tree.entriesText, Tree.bodyText, Tree.headText, lineText, indentation,
      LineWriter.line, written, pure, bind, Except.bind, Except.pure]

theorem draws_text (key : String) (value : CodeText) :
    Draws ownEntries setting clean calm [Entries.text key value] ()
      (scalar (.ofString key) (.text value)) :=
  draws_scalar key fun _ => rfl

theorem draws_number (key : String) {value : Int}
    (writable : clean → Text.Integer.isWritable value = true) :
    Draws ownEntries setting clean calm [Entries.number key value] ()
      (scalar (.ofString key) (.int value)) :=
  draws_scalar key fun is_clean => by simp [Scalar.written?, writable is_clean]

theorem draws_flag (key : String) (enabled : Bool) :
    Draws ownEntries setting clean calm (Entries.flag key enabled) ()
      (flag (.ofString key) enabled) := by
  cases enabled with
  | false => exact Draws.pure
  | true => exact draws_scalar key fun _ => rfl

theorem draws_resolved (value : Option Int) (what : String) (subject : CodeText) :
    Draws ownEntries setting clean calm [] (value.getD unresolved)
      (resolved value what subject) := by
  cases value with
  | some n => exact Draws.pure
  | none =>
      intro start _
      refine Writes.modifyStats_bind (Writes.report_bind (Writes.pure ?_))
      exact ⟨⟨rfl, rfl, rfl, rfl, rfl, rfl, rfl, Nat.le_refl _, rfl⟩, [], rfl, by simp, trivial, rfl,
        rfl, rfl⟩

theorem isWritable_digit {n : Int} (small : n.natAbs < 10) : Text.Integer.isWritable n = true := by
  have enough (limit : Nat) (proper : 0 < limit) : 10 ≤ Nat.pow 10 limit :=
    Nat.le_self_pow (Nat.ne_of_gt proper) 10
  have below := Nat.lt_of_lt_of_le small (enough Text.Integer.digitLimit (by decide))
  exact decide_eq_true below

theorem isWritable_getD {value : Option Int} (writable : IsWritableNumber value) :
    Text.Integer.isWritable (value.getD unresolved) = true := by
  cases value with
  | none => exact isWritable_digit (by decide)
  | some n => exact writable n rfl

theorem draws_record (key : CodeText) {kind : Kind} {body : Walk Unit} {expected : List Entry}
    (different : kind ≠ .base)
    (inside : Draws ownEntries setting clean calm expected () body) :
    Draws ownEntries setting clean calm [(key, .record kind expected)] ()
      (mapping key (.ofString kind.name) none body) := by
  refine Draws.block (fun entries => (key, Tree.record kind entries)) inside ?_
    (fun _ begins => (Tree.begins_record _ begins).entry key) fun writer => ?_
  · cases kind <;> simp_all [ownEntries, baseBlock?]
  · refine ⟨_, mapping_eq writer key kind (by simp), fun entries => ?_⟩
    simp [ownEntries, Tree.entriesText, Tree.bodyText, Tree.headText]

/-! ## Tags -/

theorem tagsOf_writes (declaration : Declaration) (start : Catalog) :
    (tagsOf declaration).Writes start fun result after text =>
      after = start ∧ text = [] ∧
        result =
          match (Tag.ofDeclaration start.tagNames declaration).result with
          | .ok tags => .ok tags
          | .error fault => .error (.literal fault) := by
  have reported (reports : List Diagnostic) :
      (reports.forM fun diagnostic => event (.report diagnostic)).Writes start
        fun result after text => result = .ok () ∧ after = start ∧ text = [] := by
    induction reports with
    | nil => exact Writes.pure ⟨rfl, rfl, rfl⟩
    | cons diagnostic rest ih =>
        simp only [List.forM_eq_forM, List.forM_cons]
        exact Writes.silent (fun _ => ⟨[], by simp, rfl, rfl, rfl⟩) ih
  unfold tagsOf
  apply Writes.catalog_bind
  apply Writes.silent (reported _)
  rcases (Tag.ofDeclaration start.tagNames declaration).result with fault | tags
  · exact Writes.throw ⟨rfl, rfl, rfl⟩
  · exact Writes.pure ⟨rfl, rfl, rfl⟩

theorem sequence_eq (writer : LineWriter) (key : String) :
    (.ok (writer.sequence (.ofString key)) : Except LineFault (String × LineWriter)) =
      .ok (String.ofList (lineText writer.depth (Scalar.writtenText (.ofString key) ++ [':'])),
        ⟨writer.depth + 1, writer.lines + 1⟩) := by
  simp [LineWriter.sequence, LineWriter.openBlock, LineWriter.line, LineWriter.enter, lineText,
    indentation]

theorem draws_list (key : String) {body : Walk Unit} {expected : List Tree}
    (inside : Draws listItems setting clean calm expected () body) :
    Draws ownEntries setting clean calm [(.ofString key, .list expected)] ()
      (block (fun writer => .ok (writer.sequence (.ofString key))) body) := by
  refine Draws.block (fun items => (CodeText.ofString key, Tree.list items)) inside ?_
    (fun _ begins => (Tree.begins_list begins).entry _) fun writer => ?_
  · simp [ownEntries, baseBlock?]
  · refine ⟨_, sequence_eq writer key, fun items => ?_⟩
    simp [ownEntries, listItems, Tree.entriesText, Tree.bodyText, Tree.headText]

theorem draws_tagValue (value : TagValue)
    (writable : clean → ∀ n, value = .integer n → Text.Integer.isWritable n = true) :
    Draws listItems setting clean calm [Entries.ofTagValue value] ()
      (line (·.scalarItem (tagScalar value))) := by
  rw [← Entries.scalar_tagScalar]
  refine Draws.line (by simp [listItems]) fun writer => ?_
  rcases written : (tagScalar value).written? with _ | text
  · refine Or.inl ⟨.unwritable, ?_, fun is_clean => ?_⟩
    · simp only [LineWriter.scalarItem, scalarText, written]
      rfl
    · cases value with
      | text value => simp [tagScalar, Scalar.written?] at written
      | integer n => simp [tagScalar, Scalar.written?, writable is_clean n rfl] at written
  · refine Or.inr ⟨?_, (Tree.begins_scalar (by simp [written])).item⟩
    simp only [LineWriter.scalarItem, scalarText, written]
    simp [listItems, Tree.itemsText, Tree.bodyText, Tree.headText, lineText, indentation,
      LineWriter.line, written, pure, bind, Except.bind, Except.pure]

theorem draws_tagInstance (values : List TagValue)
    (writable : clean → ∀ n, TagValue.integer n ∈ values → Text.Integer.isWritable n = true) :
    Draws listItems setting clean calm
      [.list (values.map Entries.ofTagValue)] ()
      (block (·.item none) (values.forM fun value => line (·.scalarItem (tagScalar value)))) := by
  have inside : Draws listItems setting clean calm
      (values.map Entries.ofTagValue) ()
      (values.forM fun value => line (·.scalarItem (tagScalar value))) := by
    refine Draws.forEach fun value mem => draws_tagValue value ?_
    rintro is_clean n rfl
    exact writable is_clean n mem
  refine Draws.block Tree.list inside (by simp [listItems])
    (fun _ begins => (Tree.begins_list begins).item) fun writer => ?_
  refine ⟨lineText writer.depth ['-'], ?_, fun items => ?_⟩
  · simp [LineWriter.item, nodeProperties, bind, Except.bind, pure, Except.pure, Text.joinWith,
      LineWriter.openBlock, LineWriter.line, LineWriter.enter, lineText, indentation]
  · simp [listItems, Tree.itemsText, Tree.bodyText, Tree.headText]

theorem draws_tags {tags : TagList} (writable : clean → TagList.IsWritable tags) :
    Draws ownEntries setting clean calm (Entries.ofTags tags) () (writeTags tags) := by
  unfold writeTags Entries.ofTags
  rw [Entries.visible_eq]
  by_cases empty : (Entries.shownTags tags).isEmpty = true
  · simpa [empty] using Draws.pure
  · simp only [empty, Bool.false_eq_true, ↓reduceIte]
    apply draws_list
    refine Draws.forEach fun values mem => draws_tagInstance values fun is_clean n value_mem => ?_
    exact writable is_clean values (List.mem_filter.mp mem).1 n value_mem

theorem isWritable_read {names : List CodeText} {attributes : List Attribute}
    (readable : Tag.IsClean names attributes) :
    TagList.IsWritable (Tag.read names attributes) := by
  obtain ⟨tags, reading, writable⟩ := readable
  simpa [Tag.read, reading] using writable

theorem draws_tagsOf (declaration : Declaration)
    (readable : clean → Tag.IsClean setting.names declaration.attributes) :
    Draws ownEntries setting clean calm [] (Tag.read setting.names declaration.attributes)
      (tagsOf declaration) := by
  intro start setting_eq
  refine (tagsOf_writes declaration start).mono ?_
  rintro result after text ⟨rfl, rfl, rfl⟩
  refine ⟨.refl after, [], rfl, by simp, trivial, ?_⟩
  subst setting_eq
  simp only [Tag.ofDeclaration, Tag.read, Catalog.setting, Tag.result_ofAttributes]
  rcases reading : Tag.values after.tagNames declaration.attributes with fault | tags
  · refine ⟨fun is_clean => ?_, False.elim⟩
    obtain ⟨tags, readable, -⟩ := readable is_clean
    cases reading.symm.trans readable
  · simp

theorem draws_ownTags (declaration : Declaration)
    (readable : clean → Tag.IsClean setting.names declaration.attributes) :
    Draws ownEntries setting clean calm
      (Entries.ofTags (Tag.read setting.names declaration.attributes)) ()
      (tagsOf declaration >>= writeTags) :=
  (draws_tagsOf declaration readable).bind
    (draws_tags fun is_clean => isWritable_read (readable is_clean))

end Entries

end Walk
end TypeCatalog
