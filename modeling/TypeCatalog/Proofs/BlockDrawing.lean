import TypeCatalog.Proofs.CanonicalName
import TypeCatalog.Proofs.Drawing

/-!
# What the blocks of functions and records say

A walk draws the entries of a function, of a field and of a method as they are
listed for the declaration, up to the first fault.  The blocks of the bases of
a record are always drawn in full: nothing in them can fail.
-/

namespace TypeCatalog.Walk

open Document
open Text (CodeText)

variable {setting : Setting} {clean calm : Prop} {start : Catalog}

/-! ## Functions -/

theorem draws_properText (key : String) (value : Option CodeText) {rest : Walk Unit}
    {expected : List Entry} (later : Draws ownEntries setting clean calm expected () rest) :
    Draws ownEntries setting clean calm (Entries.properText key value ++ expected) ()
      (match Text.proper? value with
        | some text => scalar (.ofString key) (.text text) >>= fun _ => rest
        | none => rest) := by
  rcases proper : Text.proper? value with _ | text
  · simpa [Entries.properText, proper] using later
  · simpa [Entries.properText, proper] using (draws_text key text).seq later

theorem draws_parameter {parameter : Parameter}
    (readable : clean → parameter.IsClean setting.names) :
    Draws listItems setting clean calm
      [.record .param (Entries.ofParameter setting.names parameter)] ()
      (writeParameter parameter) := by
  have inside : Draws ownEntries setting clean calm (Entries.ofParameter setting.names parameter) ()
      (do
        scalar "name" (.text (parameter.name.getD ""))
        scalar "type" (.text (parameter.type.name.getD ""))
        writeTags (← tagsOf (.parameter parameter))) :=
    (draws_text "name" _).seq
      ((draws_text "type" _).seq (draws_ownTags (.parameter parameter) readable))
  refine Draws.block (Tree.record .param) inside (by simp [listItems])
    (fun _ begins => (Tree.begins_record _ begins).item) fun writer => ?_
  refine ⟨_, item_eq writer .param, fun entries => ?_⟩
  simp [listItems, ownEntries, Tree.itemsText, Tree.bodyText, Tree.headText]

theorem draws_parameters {parameters : List Parameter}
    (readable : clean → ∀ parameter ∈ parameters, parameter.IsClean setting.names) :
    Draws ownEntries setting clean calm (Entries.ofParameters setting.names parameters) ()
      (writeParameters parameters) := by
  unfold writeParameters Entries.ofParameters
  by_cases empty : parameters.isEmpty = true
  · simp only [empty, ↓reduceIte]
    refine Draws.line (by simp [ownEntries, baseBlock?]) fun writer =>
      Or.inr ⟨?_, _, _, rfl, rfl, trivial⟩
    simp [ownEntries, Tree.entriesText, Tree.bodyText, Tree.headText, lineText, indentation,
      LineWriter.emptyList, LineWriter.line]
  · simp only [empty, Bool.false_eq_true, ↓reduceIte]
    apply draws_list
    exact Draws.forEach fun parameter mem =>
      draws_parameter fun is_clean => readable is_clean parameter mem

theorem draws_qualifiers (declaration : Function) :
    Draws ownEntries setting clean calm (Entries.ofQualifiers declaration) ()
      (writeQualifiers declaration) := by
  have traits : Draws ownEntries setting clean calm
      ((Entries.traits declaration.flags).flatMap fun trait => Entries.flag trait.1 trait.2) ()
      ((traitKeys declaration.flags).forM fun trait => flag (.ofString trait.1) trait.2) := by
    rw [Entries.traitKeys_eq]
    exact Draws.forM fun trait _ => draws_flag trait.1 trait.2
  have roles := (draws_flag "constructor" (declaration.role == .constructor)).seq
    ((draws_flag "explicit" declaration.flags.explicit).seq
      ((draws_flag "default" (declaration.role == .constructor &&
          declaration.constructorKind == some .default)).seq
        ((draws_flag "copy" (declaration.role == .constructor &&
            declaration.constructorKind == some .copy)).seq
          ((draws_flag "move" (declaration.role == .constructor &&
              declaration.constructorKind == some .move)).seq
            (@draws_flag setting clean calm "destructor" (declaration.role == .destructor))))))
  have all := (draws_text "name" (declaration.name.getD "")).seq
    (draws_properText "asm" declaration.mangledName (traits.seq roles))
  simp only [← List.append_assoc] at all
  exact all

theorem draws_faultOf {members : Members α} (calms : calm → members.fault = none) :
    Draws ownEntries setting clean calm [] () (faultOf members) := by
  unfold faultOf
  rcases ending : members.fault with _ | message
  · exact Draws.pure
  · refine fun start _ => DrawsFrom.throw ⟨fun _ => trivial, fun _ is_calm => ?_⟩
    simp [ending] at calms
    exact calms is_calm

theorem draws_allMembers {members : Members α} (calms : calm → members.fault = none) :
    Draws ownEntries setting clean calm [] members.items (allMembers members) := by
  have parts : allMembers members = faultOf members >>= fun _ => pure members.items := by
    unfold allMembers faultOf
    rcases members.fault with _ | message <;> rfl
  rw [parts]
  exact (draws_faultOf calms).bind Draws.pure

theorem draws_method {method : Function} (readable : clean → method.IsClean setting.names)
    (calms : calm → method.parameters.fault = none) :
    Draws ownEntries setting clean calm (Entries.ofMethod setting.names method) ()
      (writeMethod method) := by
  have parameters : Draws ownEntries setting clean calm
      (Entries.ofParameters setting.names method.parameters.items) ()
      (allMembers method.parameters >>= writeParameters) :=
    (draws_allMembers calms).bind (draws_parameters fun is_clean => (readable is_clean).2)
  have parts := (draws_qualifiers method).seq
    (parameters.seq (draws_ownTags (.function method) fun is_clean => (readable is_clean).1))
  simpa [Entries.ofMethod, Entries.ofFunction, writeMethod, Declaration.attributes] using parts

/-! ## Bases -/

def anyEntries : Rendering Entry :=
  { ownEntries with fits := fun _ => True }

theorem DrawsFrom.anyEntries {expected : List Entry} {value : α} {ordinal : Nat} {part : Walk α}
    (drawn : DrawsFrom ownEntries clean calm start expected value ordinal part) :
    DrawsFrom anyEntries clean calm start expected value ordinal part := by
  refine drawn.mono ?_
  rintro result after text ⟨kept, pieces, text_eq, -, begins, ending⟩
  exact ⟨kept, pieces, text_eq, fun _ _ => trivial, begins, ending⟩

theorem reference_eq (writer : LineWriter) {anchor : CodeText} (valid : IsAnchor anchor) :
    writer.reference (.ofString "ref") anchor =
      .ok (String.ofList (Tree.entriesText writer.depth [(.ofString "ref", .reference anchor)]),
        { writer with lines := writer.lines + 1 }) := by
  simp [LineWriter.reference, valid.anchorName_eq, bind, Except.bind, pure, Except.pure,
    LineWriter.line, Tree.entriesText, Tree.bodyText, Tree.headText, lineText, indentation]

theorem draws_reference (base : Base) :
    Draws ownEntries setting clean calm (Entries.ofReference setting.defined base) ()
      (match Text.proper? base.type.name with
      | none => pure ()
      | some name => do
        match (← catalog).identities.reference? (Identities.namedType name) with
        | some anchor => line (·.reference "ref" anchor)
        | none => report .debug ("Base " ++ name ++ " not dumped yet; no reference")) := by
  rintro start rfl
  unfold Entries.ofReference
  rcases Text.proper? base.type.name with _ | name
  · exact DrawsFrom.pure
  · refine Writes.catalog_bind ?_
    unfold Identities.reference? Identities.knows Catalog.setting
    dsimp only
    by_cases known : start.identities.defined.contains (Identities.namedType name) = true
    · rw [if_pos known, if_pos known]
      refine Draws.line ?_ (fun writer => Or.inr ?_) start rfl
      · simp [ownEntries, baseBlock?]
      · exact ⟨reference_eq writer (isAnchor_namedType name), _, _, rfl, rfl, trivial⟩
    · rw [if_neg known, if_neg known]
      exact fun _ => ⟨[], by simp, .refl start, [], rfl, by simp, trivial, rfl, rfl, rfl⟩

theorem draws_base (base : Base) :
    Draws ownEntries setting clean calm (Entries.ofBase setting.defined base) ()
      (writeBase base) := by
  have parts := (@draws_text setting clean calm "access"
    (.ofString (base.access.getD .pub).name)).seq
      ((draws_flag "virtual" base.virtual).seq
        ((draws_text "name" (base.type.name.getD "")).seq (draws_reference base)))
  simp only [← List.append_assoc] at parts
  rw [Entries.ofBase, Entries.ofAccess_eq]
  exact parts

theorem draws_bases (slots : UniqueKeys) (index : Nat) (bases : List Base) :
    Draws anyEntries setting clean calm
      (Entries.listBases setting.defined slots index bases).entries
      (Entries.listBases setting.defined slots index bases).slots
      (writeBases slots index bases) := by
  induction bases generalizing slots index with
  | nil => exact Draws.pure
  | cons base rest ih =>
      have first (key : CodeText) : Draws anyEntries setting clean calm
          [(key, .record .base (Entries.ofBase setting.defined base))] ()
          (mapping key (.ofString Kind.base.name) none (writeBase base)) := by
        refine Draws.block (fun entries => (key, Tree.record .base entries)) (draws_base base)
          (fun _ => trivial) (fun _ begins => (Tree.begins_record _ begins).entry key)
          fun writer => ?_
        refine ⟨_, mapping_eq writer key .base (by simp), fun entries => ?_⟩
        simp [anyEntries, ownEntries, Tree.entriesText, Tree.bodyText, Tree.headText]
      exact (first _).seq (ih _ _)

/-! ## Fields -/

theorem draws_numberThen (key what : String) (subject : CodeText) {value : Option Int}
    {rest : Walk Unit} {expected : List Entry} (writable : clean → IsWritableNumber value)
    (later : Draws ownEntries setting clean calm expected () rest) :
    Draws ownEntries setting clean calm (Entries.knownNumber key value :: expected) ()
      (resolved value what subject >>= fun n =>
        scalar (.ofString key) (.int n) >>= fun _ => rest) := by
  have writes := @draws_number setting clean calm key _ fun is_clean =>
    isWritable_getD (writable is_clean)
  exact (draws_resolved value what subject).bind (writes.seq later)

theorem isWritable_bitInByte (offset : Int) :
    Text.Integer.isWritable (Entries.bitInByte offset) = true := by
  apply isWritable_digit
  unfold Entries.bitInByte
  split
  · decide
  · omega

theorem draws_offset (subject : CodeText) {value : Option Int} {rest : Walk Unit}
    {expected : List Entry} (writable : clean → IsWritableNumber value)
    (later : Draws ownEntries setting clean calm expected () rest) :
    Draws ownEntries setting clean calm
      ([Entries.knownNumber "offset" value,
        Entries.number "boffset" (Entries.bitInByte (value.getD (-1)))] ++ expected) ()
      (resolved value "offset" subject >>= fun offset => do
        scalar "offset" (.int offset)
        scalar "boffset" (.int (if offset == unresolved then unresolved else offset % 8))
        rest) := by
  have whole := @draws_number setting clean calm "offset" _ fun is_clean =>
    isWritable_getD (writable is_clean)
  have bit := @draws_number setting clean calm "boffset" _ fun _ =>
    isWritable_bitInByte (value.getD (-1))
  have same : (if value.getD (-1) == -1 then -1 else value.getD (-1) % 8) =
      Entries.bitInByte (value.getD (-1)) := by
    simp only [Entries.bitInByte, beq_iff_eq]
  rw [← same] at bit ⊢
  rw [Entries.unresolved_eq]
  exact (draws_resolved value "offset" subject).bind (whole.seq (bit.seq later))

theorem draws_width (field : Field) {rest : Walk Unit} {expected : List Entry}
    (writable : clean → IsWritableNumber field.bitWidth)
    (later : Draws ownEntries setting clean calm expected () rest) :
    Draws ownEntries setting clean calm (Entries.ofWidth field.bitWidth ++ expected) ()
      (match field.bitWidth with
        | some width => do
          flag "bitfield" true
          scalar "width" (.int width)
          rest
        | none => rest) := by
  rcases width_eq : field.bitWidth with _ | n
  · exact later
  · have parts := (draws_flag "bitfield" true).seq
      ((draws_number "width" fun is_clean => writable is_clean n width_eq).seq later)
    simp only [← List.append_assoc] at parts
    exact parts

def fieldBody (field : Field) (what : CodeText) : Walk Unit := do
  match Text.proper? field.name with
  | some name => scalar "name" (.text name)
  | none => pure ()
  match Text.proper? field.type.name with
  | some type => scalar "type" (.text type)
  | none => pure ()
  scalar "size" (.int (← resolved field.type.size "size" what))
  scalar "align" (.int (← resolved field.type.align "alignment" what))
  let offset ← resolved field.bitOffset "offset" what
  scalar "offset" (.int offset)
  scalar "boffset" (.int (if offset == unresolved then unresolved else offset % 8))
  flag "artificial" field.artificial
  flag "unknown" (Text.proper? field.name).isNone
  match field.bitWidth with
  | some width =>
    flag "bitfield" true
    scalar "width" (.int width)
  | none => pure ()
  writeTags (← tagsOf (.field field))

def fieldSlot (field : Field) : Walk CodeText :=
  match Text.proper? field.name with
  | some name => pure name
  | none => identities Identities.anonymousMember

theorem writeField_eq (field : Field) (owner : CodeText) (slots : UniqueKeys) :
    writeField field owner slots = (do
      let slot ← fieldSlot field
      let claimed := slots.claim (slot ++ "$")
      mapping claimed.1 (.ofString Kind.field.name) none (fieldBody field (owner ++ "." ++ slot))
      return claimed.2) := by
  unfold writeField fieldSlot fieldBody
  rcases Text.proper? field.name with _ | name <;> rfl

theorem draws_fieldBody {field : Field} (what : CodeText)
    (readable : clean → field.IsClean setting.names) :
    Draws ownEntries setting clean calm (Entries.ofField setting.names field) ()
      (fieldBody field what) := by
  have flags : Draws ownEntries setting clean calm _ () _ :=
    (draws_flag "artificial" field.artificial).seq
    ((draws_flag "unknown" (Text.proper? field.name).isNone).seq
      (draws_width field (fun is_clean => (readable is_clean).2.2.2.1)
        (draws_ownTags (.field field) fun is_clean => (readable is_clean).2.2.2.2)))
  have numbers := draws_numberThen "size" "size" what
    (fun is_clean => (readable is_clean).1)
    (draws_numberThen "align" "alignment" what
      (fun is_clean => (readable is_clean).2.1)
      (draws_offset what (fun is_clean => (readable is_clean).2.2.1) flags))
  have parts := draws_properText "name" field.name
    (draws_properText "type" field.type.name numbers)
  simp only [Entries.ofField, List.append_assoc, List.cons_append, List.nil_append] at parts ⊢
  exact parts

theorem draws_fieldSlot (field : Field) :
    DrawsFrom ownEntries clean calm start [] (Entries.slotName start.identities.ordinal field).1
      (Entries.slotName start.identities.ordinal field).2 (fieldSlot field) := by
  unfold Entries.slotName fieldSlot
  rcases Text.proper? field.name with _ | name
  · refine fun _ => ⟨[], by simp, ?_, [], rfl, by simp, trivial, rfl, rfl, rfl⟩
    exact ⟨rfl, rfl, rfl, rfl, rfl, rfl, rfl, Nat.le_succ _, rfl⟩
  · exact DrawsFrom.pure

theorem draws_field {field : Field} (owner : CodeText) (slots : UniqueKeys)
    (readable : clean → field.IsClean start.tagNames) :
    let slot := Entries.slotName start.identities.ordinal field
    let claimed := slots.claim (slot.1 ++ "$")
    DrawsFrom ownEntries clean calm start
      [(claimed.1, .record .field (Entries.ofField start.tagNames field))] claimed.2 slot.2
      (writeField field owner slots) := by
  intro slot claimed
  rw [writeField_eq]
  refine (draws_fieldSlot field).bind fun after kept handed => ?_
  have block := @draws_record start.setting clean calm claimed.1 .field _ _ (by decide)
    (draws_fieldBody (owner ++ "." ++ slot.1) readable)
  have drawn := block.seq (@Draws.pure _ _ ownEntries start.setting clean calm claimed.2)
  rw [← handed]
  exact drawn after kept.setting_eq

theorem draws_fields (owner : CodeText) {fields : List Field} (slots : UniqueKeys)
    (readable : clean → ∀ field ∈ fields, field.IsClean start.tagNames) :
    let listing := Entries.listFields start.tagNames slots start.identities.ordinal fields
    DrawsFrom ownEntries clean calm start listing.entries listing.slots listing.ordinal
      (writeFields owner slots fields) := by
  induction fields generalizing slots start with
  | nil => exact DrawsFrom.pure
  | cons field rest ih =>
      intro listing
      have first := @draws_field clean calm start field owner slots fun is_clean =>
        readable is_clean field (by simp)
      refine first.bind fun after kept handed => ?_
      rw [← kept.tagNames_eq] at readable
      have others (claimed : UniqueKeys) := @ih after claimed fun is_clean other mem =>
        readable is_clean other (by simp [mem])
      rw [kept.tagNames_eq, handed] at others
      exact others _

/-! ## Methods -/

theorem draws_methods {methods : List Function} (slots : UniqueKeys) (index : Nat)
    (readable : clean → ∀ method ∈ methods, method.IsClean setting.names)
    (calms : calm → ∀ method ∈ methods, method.parameters.fault = none) :
    Draws ownEntries setting clean calm
      (Entries.listMethods setting.names slots index methods).entries
      (Entries.listMethods setting.names slots index methods).slots
      (writeMethods slots index methods) := by
  induction methods generalizing slots index with
  | nil => exact Draws.pure
  | cons method rest ih =>
      have first (key : CodeText) := @draws_record setting clean calm key .method _ _ (by decide)
        (draws_method (fun is_clean => readable is_clean method (by simp))
          fun is_calm => calms is_calm method (by simp))
      have others := ih (slots.claim ("method_" ++ toString index ++ "$")).2 (index + 1)
        (fun is_clean other mem => readable is_clean other (by simp [mem]))
        fun is_calm other mem => calms is_calm other (by simp [mem])
      exact (first _).seq others

/-! ## Blocks -/

theorem draws_location (location : Location)
    (writable : clean → Text.Integer.isWritable location.line = true) :
    Draws ownEntries setting clean calm (Entries.ofLocation location) ()
      (writeLocation location) :=
  (draws_text "$srcFile" location.file).seq (draws_number "$srcLine" writable)

def headerBody (declaration : Record) (name : CodeText) (tags : TagList) : Walk Unit := do
  writeLocation declaration.location
  scalar "$sizeof" (.int (← resolved declaration.size "size" name))
  scalar "$alignof" (.int (← resolved declaration.align "alignment" name))
  writeTags tags

theorem draws_header {declaration : Record} {tags : TagList} (name : CodeText)
    (readable : clean → declaration.IsClean setting.names ∧ TagList.IsWritable tags) :
    Draws ownEntries setting clean calm (Entries.ofHeader declaration tags) ()
      (headerBody declaration name tags) := by
  have parts := (draws_location declaration.location fun is_clean => (readable is_clean).1.1).seq
    (draws_numberThen "$sizeof" "size" name (fun is_clean => (readable is_clean).1.2.1)
      (draws_numberThen "$alignof" "alignment" name (fun is_clean => (readable is_clean).1.2.2.1)
        (@draws_tags setting clean calm tags fun is_clean => (readable is_clean).2)))
  simp only [Entries.ofHeader, List.append_assoc]
  exact parts

def membersBody (declaration : Record) (name : CodeText) (slots : UniqueKeys) : Walk Unit := do
  faultOf declaration.bases
  let slots ← writeFields name slots declaration.fields.items
  faultOf declaration.fields
  let methods ← allMembers declaration.methods
  discard <| writeMethods slots 0 (constructorsFirst methods)

theorem draws_discard {rendering : Rendering ι} {expected : List ι} {value : α} {part : Walk α}
    (drawn : Draws rendering setting clean calm expected value part) :
    Draws rendering setting clean calm expected () (discard part) := by
  have parts := drawn.seq (@Draws.pure _ _ rendering setting clean calm ())
  rw [List.append_nil] at parts
  exact parts

theorem draws_members {declaration : Record} (name : CodeText) (slots : UniqueKeys)
    (readable : clean → declaration.IsClean start.tagNames) (calms : calm → declaration.IsCalm) :
    let fields := Entries.listFields start.tagNames slots start.identities.ordinal
      declaration.fields.items
    let methods := Entries.listMethods start.tagNames fields.slots 0
      (Entries.constructorsFirst declaration.methods.items)
    DrawsFrom ownEntries clean calm start (fields.entries ++ methods.entries) () fields.ordinal
      (membersBody declaration name slots) := by
  intro fields methods
  have methodBlocks : Draws ownEntries start.setting clean calm methods.entries () (do
      faultOf declaration.fields
      let methods ← allMembers declaration.methods
      discard <| writeMethods fields.slots 0 (constructorsFirst methods)) := by
    refine (draws_faultOf fun is_calm => (calms is_calm).2.1).seq ?_
    refine (draws_allMembers fun is_calm => (calms is_calm).2.2.1).bind ?_
    rw [Entries.constructorsFirst_eq]
    refine draws_discard (draws_methods fields.slots 0 ?_ ?_)
    · intro is_clean method mem
      exact (readable is_clean).2.2.2.2.2 method (Entries.mem_constructorsFirst.mp mem)
    · intro is_calm method mem
      exact (calms is_calm).2.2.2 method (Entries.mem_constructorsFirst.mp mem)
  have fieldBlocks (after : Catalog) (kept : start.Continues after)
      (handed : after.identities.ordinal = start.identities.ordinal) :
      DrawsFrom ownEntries clean calm after fields.entries fields.slots fields.ordinal
        (writeFields name slots declaration.fields.items) := by
    have drawn := @draws_fields clean calm after name declaration.fields.items slots
    rw [kept.tagNames_eq, handed] at drawn
    exact drawn fun is_clean => (readable is_clean).2.2.2.2.1
  have fault := @draws_faultOf start.setting clean calm _ declaration.bases
    (fun is_calm => (calms is_calm).1) start rfl
  refine fault.bind fun after kept handed => ?_
  refine (fieldBlocks after kept handed).bind fun last later handed => ?_
  rw [← handed]
  exact methodBlocks last (later.setting_eq.trans kept.setting_eq)

theorem writeRecord_eq (key canonical : CodeText) (declaration : Record) (tags : TagList) :
    writeRecord key canonical declaration tags =
      mapping key (.ofString Kind.struct.name) (some canonical) (do
        let name := (Text.proper? declaration.name).getD canonical
        headerBody declaration name tags
        let slots ← writeBases {} 0 declaration.bases.items
        membersBody declaration name slots) := by
  simp only [writeRecord, headerBody, membersBody, bind_assoc]
  rfl

theorem baseBlocks_listBases (defined : List CodeText) (slots : UniqueKeys) (index : Nat)
    (bases : List Base) :
    (Entries.listBases defined slots index bases).entries.filterMap baseBlock? =
      bases.map (Entries.ofBase defined) := by
  induction bases generalizing slots index with
  | nil => rfl
  | cons base rest ih => simp [Entries.listBases, Entries.Listing.after, baseBlock?, ih]

theorem baseBlocks_own {entries : List Entry}
    (own : ∀ entry ∈ entries, ownEntries.fits entry) : entries.filterMap baseBlock? = [] :=
  List.filterMap_eq_nil_iff.mpr own

theorem recordBody_writes {declaration : Record} {tags : TagList} (name : CodeText)
    (readable : clean → declaration.IsClean start.tagNames ∧ TagList.IsWritable tags)
    (calms : calm → declaration.IsCalm) :
    (do
      headerBody declaration name tags
      let slots ← writeBases {} 0 declaration.bases.items
      membersBody declaration name slots : Walk Unit).Writes start fun result after text =>
      start.Continues after ∧ ∃ entries,
        text = Tree.entriesText start.writer.depth entries ∧
        entries.filterMap baseBlock? <+:
          declaration.bases.items.map (Entries.ofBase start.identities.defined) ∧
        Tree.EntriesBegin entries
          (Entries.ofRecord start.tagNames start.identities.defined start.identities.ordinal
            declaration tags).1 ∧
        ((∀ fault, result = .error fault → fault.IsHost) →
          Entries.ofHeader declaration tags <+: entries) ∧
        match result with
        | .ok _ =>
          (entries, after.identities.ordinal) =
            Entries.ofRecord start.tagNames start.identities.defined start.identities.ordinal
              declaration tags
        | .error fault => fault.Excused clean calm := by
  -- The front end has no part in the header, so a fault of it comes from below the header.
  apply Writes.bind
  refine (@draws_header start.setting clean True _ _ name readable start rfl).mono ?_
  rintro (fault | ⟨⟩) middle text ⟨kept, header, text_eq, own, begins, ending⟩
  · have abroad : ¬fault.IsHost := fun host => ending.not_calm host trivial
    refine ⟨kept, header, text_eq, by simp [baseBlocks_own own], ?_,
      fun hosts => absurd (hosts fault rfl) abroad, ending.isHost, fun host => absurd host abroad⟩
    simp only [Entries.ofRecord, List.append_assoc]
    exact begins.extend _
  obtain ⟨-, rfl, handed⟩ := ending
  apply Writes.bind
  refine (@draws_bases start.setting True True {} 0 declaration.bases.items middle
    kept.setting_eq).mono ?_
  rintro (fault | slots) between more ⟨still, bases, more_eq, -, bases_begin, ending⟩
  · exact absurd trivial (ending.not_clean_and_calm trivial)
  obtain ⟨rfl, bases_eq, handed'⟩ := ending
  have same := kept.trans still
  refine (@draws_members clean calm between declaration name _
    (by rw [same.tagNames_eq]; exact fun is_clean => (readable is_clean).1) calms).mono ?_
  rintro result after rest ⟨later, members, rest_eq, own', members_begin, ending⟩
  refine ⟨same.trans later, Entries.ofHeader declaration tags ++ bases ++ members, ?_, ?_, ?_,
    fun _ => ⟨bases ++ members, (List.append_assoc ..).symm⟩, ?_⟩
  · rw [Tree.entriesText_append, Tree.entriesText_append, ← List.append_assoc, text_eq, more_eq,
      rest_eq, kept.depth_eq, same.depth_eq]
    rfl
  · rw [List.filterMap_append, List.filterMap_append, baseBlocks_own own, baseBlocks_own own',
      bases_eq, baseBlocks_listBases]
    simp [Catalog.setting]
  · rw [same.tagNames_eq, handed', handed] at members_begin
    subst bases_eq
    have whole := (begins.append bases_begin).append members_begin
    simp only [Entries.ofRecord, List.append_assoc] at whole ⊢
    exact whole
  · cases result with
    | error fault => exact ending
    | ok _ =>
        obtain ⟨-, rfl, handed''⟩ := ending
        simp only [handed'', bases_eq, Entries.ofRecord, same.tagNames_eq, handed', handed]
        simp [Catalog.setting]

/-- The block of a record: however it ends, the bases in it are the first ones declared, with
references to anchors defined before its body. -/
theorem writeRecord_writes {declaration : Record} {tags : TagList} (key : CodeText)
    {canonical : CodeText} (valid : IsAnchor canonical) (ground : start.writer.depth = 0)
    (readable : clean → declaration.IsClean start.tagNames ∧ TagList.IsWritable tags)
    (calms : calm → declaration.IsCalm) :
    (writeRecord key canonical declaration tags).Writes start fun result after text =>
      start.Continues after ∧ ∃ entries,
        text = Block.text ⟨key, .struct, some canonical, entries⟩ ∧
        entries.filterMap baseBlock? <+:
          declaration.bases.items.map (Entries.ofBase start.identities.defined) ∧
        Tree.EntriesBegin entries
          (Entries.ofRecord start.tagNames start.identities.defined start.identities.ordinal
            declaration tags).1 ∧
        ((∀ fault, result = .error fault → fault.IsHost) →
          Entries.ofHeader declaration tags <+: entries) ∧
        match result with
        | .ok _ =>
          (entries, after.identities.ordinal) =
            Entries.ofRecord start.tagNames start.identities.defined start.identities.ordinal
              declaration tags
        | .error fault => fault.Excused clean calm := by
  have opened := @mapping_eq start.writer key .struct (some canonical)
    (by rintro name ⟨⟩; exact valid)
  rw [writeRecord_eq]
  apply Writes.block opened
  refine (@recordBody_writes clean calm
    { start with writer := ⟨start.writer.depth + 1, start.writer.lines + 1⟩ } declaration tags _
    readable calms).mono ?_
  rintro result after text ⟨kept, entries, text_eq, ending⟩
  refine ⟨⟨kept.1, kept.2, kept.3, kept.4, kept.5, kept.6, rfl, kept.8, kept.9⟩, entries, ?_, ending⟩
  simp [text_eq, Block.text, ground]

theorem mapping_writes (key : CodeText) (kind : Kind) {body : Walk Unit} {expected : List Entry}
    (ground : start.writer.depth = 0)
    (inside : Draws ownEntries start.setting clean calm expected () body) :
    (mapping key (.ofString kind.name) none body).Writes start fun result after text =>
      start.Continues after ∧ ∃ entries, text = Block.text ⟨key, kind, none, entries⟩ ∧
        entries.filterMap baseBlock? = [] ∧ Tree.EntriesBegin entries expected ∧
        match result with
        | .ok _ =>
          entries = expected ∧ after.identities.ordinal = start.identities.ordinal
        | .error fault => fault.Excused clean calm := by
  apply Writes.block (@mapping_eq start.writer key kind none (by simp))
  refine (inside { start with writer := ⟨start.writer.depth + 1, start.writer.lines + 1⟩ }
    rfl).mono ?_
  rintro result after text ⟨kept, entries, text_eq, own, begins, ending⟩
  refine ⟨⟨kept.1, kept.2, kept.3, kept.4, kept.5, kept.6, rfl, kept.8, kept.9⟩, entries, ?_,
    baseBlocks_own own, begins, ?_⟩
  · simp [text_eq, Block.text, ground, ownEntries]
  · cases result with
    | error fault => exact ending
    | ok _ => exact ending.2

theorem draws_function {declaration : Function} {tags : TagList}
    (readable : clean → Text.Integer.isWritable declaration.location.line = true ∧
      declaration.IsClean setting.names ∧ TagList.IsWritable tags) :
    Draws ownEntries setting clean calm
      (Entries.ofLocation declaration.location ++
        Entries.ofFunction setting.names declaration tags) ()
      (do
        writeLocation declaration.location
        writeQualifiers declaration
        writeParameters declaration.parameters.items
        writeTags tags) := by
  have parts := (draws_location declaration.location fun is_clean => (readable is_clean).1).seq
    ((draws_qualifiers declaration).seq
      ((draws_parameters fun is_clean => (readable is_clean).2.1.2).seq
        (@draws_tags setting clean calm tags fun is_clean => (readable is_clean).2.2)))
  simp only [Entries.ofFunction, List.append_assoc]
  exact parts

theorem draws_stub {awaited : AwaitedRecord}
    (writable : clean → Text.Integer.isWritable awaited.declaration.location.line = true ∧
      TagList.IsWritable awaited.tags) :
    Draws ownEntries setting clean calm (Entries.ofStub awaited) ()
      (do
        writeLocation awaited.declaration.location
        flag "incomplete" true
        writeTags awaited.tags) := by
  have parts := (draws_location awaited.declaration.location fun is_clean =>
    (writable is_clean).1).seq
      ((draws_flag "incomplete" true).seq
        (@draws_tags setting clean calm _ fun is_clean => (writable is_clean).2))
  simp only [Entries.ofStub, List.append_assoc]
  exact parts

end TypeCatalog.Walk
