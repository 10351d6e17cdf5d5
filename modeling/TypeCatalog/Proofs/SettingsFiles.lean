import TypeCatalog.Settings.File

/-!
# What is read from a settings file

A file that is missing, not well formed or no mapping counts as an empty one,
and an entry that is unknown or has a value of another kind is passed over; a
strict reading refuses all of them.  What cannot be opened or decoded ends
either reading, and so does an unknown key that cannot be shown.
-/

namespace TypeCatalog.Settings

open Text Yaml

/-! ## Entries -/

/-- A value of a kind, as a setting.  A list of pairs counts as a list of texts if it is empty. -/
inductive IsValue (loaded : Loaded) : Kind → Value → Setting → Prop
  | text (value : CodeText) : IsValue loaded .text (.scalar (.text value)) (.text value)
  | flag (value : Bool) : IsValue loaded .flag (.scalar (.bool value)) (.flag value)
  | names {list : Value} (values : List CodeText)
      (listed : loaded.objectOf? list = some (.list (values.map fun value =>
        .scalar (.text value)))) :
      IsValue loaded .names list (.names values)
  | noPairs {list : Value} (listed : loaded.objectOf? list = some (.pairs [])) :
      IsValue loaded .names list (.names [])

def IsSetting (loaded : Loaded) (entry : Scalar × Value) (setting : Key × Setting) : Prop :=
  entry.1 = .text setting.1.name ∧ IsValue loaded setting.1.kind entry.2 setting.2

def IsUnshowable (key : Scalar) : Prop :=
  ∃ number, key = .int number ∧ Integer.isWritable number = false

inductive Selects (loaded : Loaded) : List (Scalar × Value) → Entries → Prop
  | nil : Selects loaded [] []
  | keep {entry : Scalar × Value} {setting : Key × Setting} {rest : List (Scalar × Value)}
      {entries : Entries} (valid : IsSetting loaded entry setting)
      (others : Selects loaded rest entries) :
      Selects loaded (entry :: rest) (setting :: entries)
  | skip {entry : Scalar × Value} {rest : List (Scalar × Value)} {entries : Entries}
      (invalid : ∀ setting, ¬ IsSetting loaded entry setting)
      (others : Selects loaded rest entries) :
      Selects loaded (entry :: rest) entries

variable {loaded : Loaded} {key : Scalar} {value : Value}

theorem Key.ofScalar?_name : ∀ known : Key, ofScalar? (.text known.name) = some known := by
  intro known
  cases known <;> decide +kernel

theorem Key.ofScalar?_eq_some_iff {known : Key} :
    ofScalar? key = some known ↔ key = .text known.name := by
  constructor
  · intro found
    unfold ofScalar? at found
    split at found
    · have spelled := List.find?_some found
      rw [← beq_iff_eq.mp spelled]
    · cases found
  · rintro rfl
    exact ofScalar?_name known

theorem texts?_eq_some_iff {items : List Value} {values : List CodeText} :
    texts? items = some values ↔ items = values.map fun value => .scalar (.text value) := by
  induction items generalizing values with
  | nil => cases values <;> simp [texts?]
  | cons item rest hyp =>
    cases values with
    | nil => unfold texts?; split <;> simp_all
    | cons first others =>
      unfold texts?
      split <;> simp_all
      grind

theorem settingOf?_eq_some_iff {kind : Kind} {setting : Setting} :
    settingOf? loaded kind value = some setting ↔ IsValue loaded kind value setting := by
  constructor
  · intro valued
    unfold settingOf? at valued
    split at valued
    · cases valued
      exact .text _
    · cases valued
      exact .flag _
    · rename_i listed
      obtain ⟨values, textual, rfl⟩ := Option.map_eq_some_iff.mp valued
      rw [texts?_eq_some_iff.mp textual] at listed
      exact .names values listed
    · rename_i listed
      cases valued
      exact .noPairs listed
    · cases valued
  · rintro (value | value | ⟨values, listed⟩ | listed)
    · simp [settingOf?]
    · simp [settingOf?]
    · simp [settingOf?, listed, texts?_eq_some_iff]
    · simp [settingOf?, listed]

theorem display?_eq_none_iff : key.display? = none ↔ IsUnshowable key := by
  cases key <;> simp [Scalar.display?, IsUnshowable]

theorem readEntry_cases (path : CodeText) (loaded : Loaded) (key : Scalar) (value : Value) :
    (∃ setting, IsSetting loaded (key, value) setting ∧
      readEntry path loaded key value = .ok setting) ∨
    ((∀ setting, ¬ IsSetting loaded (key, value) setting) ∧ ¬ IsUnshowable key ∧
      ∃ fault, readEntry path loaded key value = .error fault ∧ fault.isInvalid = true ∧
        fault.remark?.isSome = true) ∨
    ((∀ setting, ¬ IsSetting loaded (key, value) setting) ∧ IsUnshowable key ∧
      readEntry path loaded key value = .error .unwritableKey) := by
  unfold readEntry
  cases found : Key.ofScalar? key with
  | none =>
    have invalid : ∀ setting, ¬ IsSetting loaded (key, value) setting := by
      intro setting valid
      have known := Key.ofScalar?_eq_some_iff.mpr valid.1
      simp [found] at known
    cases shown : key.display? with
    | none => exact .inr (.inr ⟨invalid, display?_eq_none_iff.mp shown, rfl⟩)
    | some text =>
      refine .inr (.inl ⟨invalid, ?_, .unknownKey text path, rfl, rfl, rfl⟩)
      simp [← display?_eq_none_iff, shown]
  | some known =>
    obtain rfl := Key.ofScalar?_eq_some_iff.mp found
    simp only
    cases valued : settingOf? loaded known.kind value with
    | none =>
      refine .inr (.inl ⟨?_, ?_, .wrongKind known path, rfl, rfl, rfl⟩)
      · intro setting valid
        have same := Key.ofScalar?_eq_some_iff.mpr valid.1
        obtain rfl : known = setting.1 := Option.some_inj.mp (found.symm.trans same)
        have agrees := settingOf?_eq_some_iff.mpr valid.2
        simp [valued] at agrees
      · rintro ⟨number, same, -⟩
        cases same
    | some setting =>
      exact .inl ⟨(known, setting), ⟨rfl, settingOf?_eq_some_iff.mp valued⟩, rfl⟩

theorem readEntry_of_isSetting {path : CodeText} {setting : Key × Setting}
    (valid : IsSetting loaded (key, value) setting) :
    readEntry path loaded key value = .ok setting := by
  have known := Key.ofScalar?_eq_some_iff.mpr valid.1
  have valued := settingOf?_eq_some_iff.mpr valid.2
  simp only at known valued
  simp [readEntry, known, valued]

/-! ## Mappings -/

def HasOthers (loaded : Loaded) (given : List (Scalar × Value)) : Prop :=
  ∃ entry ∈ given, ∀ setting, ¬ IsSetting loaded entry setting

def HasUnshowable (given : List (Scalar × Value)) : Prop :=
  ∃ entry ∈ given, IsUnshowable entry.1

theorem HasOthers.cons {entry : Scalar × Value} {rest : List (Scalar × Value)}
    (others : HasOthers loaded rest) : HasOthers loaded (entry :: rest) :=
  others.imp fun _ => And.imp_left (List.mem_cons_of_mem _)

theorem HasOthers.tail {entry : Scalar × Value} {rest : List (Scalar × Value)}
    {setting : Key × Setting} (others : HasOthers loaded (entry :: rest))
    (valid : IsSetting loaded entry setting) : HasOthers loaded rest := by
  obtain ⟨other, _ | ⟨_, listed⟩, invalid⟩ := others
  · exact absurd valid (invalid setting)
  · exact ⟨other, listed, invalid⟩

theorem HasUnshowable.cons {entry : Scalar × Value} {rest : List (Scalar × Value)}
    (unshowable : HasUnshowable rest) : HasUnshowable (entry :: rest) :=
  unshowable.imp fun _ => And.imp_left (List.mem_cons_of_mem _)

theorem HasUnshowable.tail {entry : Scalar × Value} {rest : List (Scalar × Value)}
    (unshowable : HasUnshowable (entry :: rest)) (plain : ¬ IsUnshowable entry.1) :
    HasUnshowable rest := by
  obtain ⟨other, _ | ⟨_, listed⟩, found⟩ := unshowable
  · exact absurd found plain
  · exact ⟨other, listed, found⟩

theorem exists_selects (loaded : Loaded) (given : List (Scalar × Value)) :
    ∃ entries, Selects loaded given entries := by
  induction given with
  | nil => exact ⟨[], .nil⟩
  | cons entry rest hyp =>
    obtain ⟨entries, others⟩ := hyp
    by_cases valid : ∃ setting, IsSetting loaded entry setting
    · exact ⟨_, .keep valid.choose_spec others⟩
    · exact ⟨_, .skip (not_exists.mp valid) others⟩

theorem IsSetting.not_isUnshowable {entry : Scalar × Value} {setting : Key × Setting}
    (valid : IsSetting loaded entry setting) : ¬ IsUnshowable entry.1 := by
  rintro ⟨number, same, -⟩
  rw [valid.1] at same
  cases same

section ReadEntries

variable {strict : Bool} {path : CodeText} {rest given : List (Scalar × Value)}
  {setting : Key × Setting} {fault : Fault} {entries : Entries}

@[simp] theorem pass_strict (fault : Fault) : pass true fault = .error fault :=
  rfl

theorem pass_of_remark (reported : fault.remark?.isSome = true) :
    ∃ reports, pass false fault = .ok reports := by
  obtain ⟨message, reported⟩ := Option.isSome_iff_exists.mp reported
  refine ⟨[{ level := .warning, channel := Channel.settings, message }], ?_⟩
  simp only [pass, reported]

theorem pass_of_no_remark (unreported : fault.remark? = none) :
    pass strict fault = .error fault := by
  simp [pass, unreported]

theorem readEntries_of_ok (read : readEntry path loaded key value = .ok setting) :
    (readEntries strict path loaded ((key, value) :: rest)).result =
      (readEntries strict path loaded rest).result.map (setting :: ·) := by
  rw [readEntries, read]

/-- The entries after one that is not valid count only if that one is passed over. -/
theorem readEntries_of_error (read : readEntry path loaded key value = .error fault) :
    (readEntries strict path loaded ((key, value) :: rest)).result =
      (pass strict fault).bind fun _ => (readEntries strict path loaded rest).result := by
  rw [readEntries, read]
  dsimp only
  cases pass strict fault <;> rfl

theorem readEntries_of_remark (read : readEntry path loaded key value = .error fault)
    (reported : fault.remark?.isSome = true) :
    (readEntries false path loaded ((key, value) :: rest)).result =
      (readEntries false path loaded rest).result := by
  obtain ⟨reports, passed⟩ := pass_of_remark reported
  rw [readEntries_of_error read, passed]
  rfl

theorem readEntries_of_no_remark (read : readEntry path loaded key value = .error fault)
    (unreported : fault.remark? = none) :
    (readEntries strict path loaded ((key, value) :: rest)).result = .error fault := by
  rw [readEntries_of_error read, pass_of_no_remark unreported]
  rfl

theorem readEntries_strict (read : readEntry path loaded key value = .error fault) :
    (readEntries true path loaded ((key, value) :: rest)).result = .error fault := by
  rw [readEntries_of_error read, pass_strict]
  rfl

theorem readEntries_lenient_eq (selected : Selects loaded given entries)
    (showable : ¬ HasUnshowable given) :
    (readEntries false path loaded given).result = .ok entries := by
  induction selected with
  | nil => rfl
  | @keep entry setting rest entries valid _ hyp =>
    obtain ⟨key, value⟩ := entry
    have others := hyp (mt HasUnshowable.cons showable)
    rw [readEntries_of_ok (readEntry_of_isSetting valid), others]
    rfl
  | @skip entry rest entries invalid _ hyp =>
    obtain ⟨key, value⟩ := entry
    have others := hyp (mt HasUnshowable.cons showable)
    have plain : ¬ IsUnshowable key := fun unshowable =>
      showable ⟨_, List.mem_cons_self, unshowable⟩
    obtain ⟨setting, valid, _⟩ | ⟨_, _, fault, read, _, reported⟩ | ⟨_, unshowable, _⟩ :=
      readEntry_cases path loaded key value
    · exact absurd valid (invalid setting)
    · rw [readEntries_of_remark read reported, others]
    · exact absurd unshowable plain

theorem readEntries_lenient_stops (unshowable : HasUnshowable given) :
    (readEntries false path loaded given).result = .error .unwritableKey := by
  induction given with
  | nil => simp [HasUnshowable] at unshowable
  | cons entry rest hyp =>
    obtain ⟨key, value⟩ := entry
    obtain ⟨setting, valid, read⟩ | ⟨_, plain, fault, read, _, reported⟩ | ⟨_, _, read⟩ :=
      readEntry_cases path loaded key value
    · rw [readEntries_of_ok read, hyp (unshowable.tail valid.not_isUnshowable)]
      rfl
    · rw [readEntries_of_remark read reported, hyp (unshowable.tail plain)]
    · exact readEntries_of_no_remark read rfl

theorem readEntries_strict_eq (selected : Selects loaded given entries)
    (complete : ¬ HasOthers loaded given) :
    (readEntries true path loaded given).result = .ok entries := by
  induction selected with
  | nil => rfl
  | @keep entry setting rest entries valid _ hyp =>
    obtain ⟨key, value⟩ := entry
    have others := hyp (mt HasOthers.cons complete)
    rw [readEntries_of_ok (readEntry_of_isSetting valid), others]
    rfl
  | skip invalid => exact absurd ⟨_, List.mem_cons_self, invalid⟩ complete

theorem readEntries_strict_refuses (others : HasOthers loaded given) :
    ∃ fault, (readEntries true path loaded given).result = .error fault ∧
      (fault.isInvalid = true ∨ fault = .unwritableKey ∧ HasUnshowable given) := by
  induction given with
  | nil => simp [HasOthers] at others
  | cons entry rest hyp =>
    obtain ⟨key, value⟩ := entry
    obtain ⟨setting, valid, read⟩ | ⟨_, _, fault, read, isInvalid, _⟩ | ⟨_, unshowable, read⟩ :=
      readEntry_cases path loaded key value
    · obtain ⟨fault, result, kind⟩ := hyp (others.tail valid)
      refine ⟨fault, ?_, kind.imp_right (And.imp_right HasUnshowable.cons)⟩
      rw [readEntries_of_ok read, result]
      rfl
    · exact ⟨fault, readEntries_strict read, .inl isInvalid⟩
    · exact ⟨_, readEntries_strict read, .inr ⟨rfl, _, List.mem_cons_self, unshowable⟩⟩

end ReadEntries

/-! ## Files -/

inductive IsMapping (files : FileTree) (path : CodeText) :
    Loaded → List (Scalar × Value) → Prop
  | null {file : FileEntry} {loaded : Loaded} (opened : files.read path = .ok file)
      (loads : Yaml.load none (FileText.ofBytes file.bytes).source = .ok loaded)
      (null : loaded.root = .scalar .null) : IsMapping files path loaded []
  | mapping {file : FileEntry} {loaded : Loaded} {kind : Option String}
      {given : List (Scalar × Value)} (opened : files.read path = .ok file)
      (loads : Yaml.load none (FileText.ofBytes file.bytes).source = .ok loaded)
      (mapping : loaded.objectOf? loaded.root = some (.mapping kind given)) :
      IsMapping files path loaded given

/-- A file that is as good as empty, and how a strict reading refuses it. -/
inductive IsVoid (files : FileTree) (path : CodeText) : Fault → Prop
  | missing {fault : AccessFault} (unopened : files.read path = .error fault)
      (missing : fault.cause = .missing) : IsVoid files path (.notFound path)
  | malformed {file : FileEntry} {flaw : Flaw} (opened : files.read path = .ok file)
      (flawed : Yaml.load none (FileText.ofBytes file.bytes).source = .error (.malformed flaw)) :
      IsVoid files path (.malformed path)
  | unreadable {file : FileEntry} (opened : files.read path = .ok file)
      (unread : Yaml.load none (FileText.ofBytes file.bytes).source = .error .unreadable)
      (decoded : (FileText.ofBytes file.bytes).undecoded = none) :
      IsVoid files path (.malformed path)
  | notMapping {file : FileEntry} {loaded : Loaded} (opened : files.read path = .ok file)
      (loads : Yaml.load none (FileText.ofBytes file.bytes).source = .ok loaded)
      (value : loaded.root ≠ .scalar .null)
      (other : ∀ kind given, loaded.objectOf? loaded.root ≠ some (.mapping kind given)) :
      IsVoid files path (.notMapping (loaded.typeName loaded.root))

inductive Stops (files : FileTree) (path : CodeText) : Fault → Prop
  | access {fault : AccessFault} (unopened : files.read path = .error fault)
      (present : fault.cause ≠ .missing) : Stops files path (.access fault)
  | notUtf8 {file : FileEntry} {fault : Utf8.Fault} (opened : files.read path = .ok file)
      (unread : Yaml.load none (FileText.ofBytes file.bytes).source = .error .unreadable)
      (undecoded : (FileText.ofBytes file.bytes).undecoded = some fault) :
      Stops files path (.notUtf8 fault)
  | noValue {file : FileEntry} {fault : ScalarFault} (opened : files.read path = .ok file)
      (valueless : Yaml.load none (FileText.ofBytes file.bytes).source = .error (.noValue fault)) :
      Stops files path (.noValue fault)

theorem readValue_cases (files : FileTree) (path : CodeText) :
    (∃ fault, Stops files path fault ∧ readValue files path = .error fault) ∨
    (∃ fault, IsVoid files path fault ∧ readValue files path = .error fault) ∨
    ∃ file loaded, files.read path = .ok file ∧
      Yaml.load none (FileText.ofBytes file.bytes).source = .ok loaded ∧
      readValue files path = .ok loaded := by
  unfold readValue
  cases opened : files.read path with
  | error fault =>
    by_cases missing : fault.cause = .missing
    · exact .inr (.inl ⟨_, .missing opened missing, by simp [missing]⟩)
    · exact .inl ⟨_, .access opened missing, by simp [missing]⟩
  | ok file =>
    cases loads : Yaml.load none (FileText.ofBytes file.bytes).source with
    | ok loaded => exact .inr (.inr ⟨file, loaded, rfl, loads, by simp [loads]⟩)
    | error fault =>
      cases fault with
      | noValue fault => exact .inl ⟨_, .noValue opened loads, by simp [loads]⟩
      | malformed flaw => exact .inr (.inl ⟨_, .malformed opened loads, by simp [loads]⟩)
      | unreadable =>
        cases undecoded : (FileText.ofBytes file.bytes).undecoded with
        | none =>
          exact .inr (.inl ⟨_, .unreadable opened loads undecoded, by simp [loads, undecoded]⟩)
        | some fault => exact .inl ⟨_, .notUtf8 opened loads undecoded, by simp [loads, undecoded]⟩

theorem entriesOf_cases {files : FileTree} {path : CodeText} {file : FileEntry}
    (opened : files.read path = .ok file)
    (loads : Yaml.load none (FileText.ofBytes file.bytes).source = .ok loaded) :
    (∃ given, IsMapping files path loaded given ∧ entriesOf loaded = .ok given) ∨
    ∃ fault, IsVoid files path fault ∧ entriesOf loaded = .error fault := by
  unfold entriesOf
  split
  · rename_i null
    exact .inl ⟨[], .null opened loads null, rfl⟩
  · rename_i mapping _
    exact .inl ⟨_, .mapping opened loads mapping, rfl⟩
  · rename_i value other
    exact .inr ⟨_, .notMapping opened loads value other, rfl⟩

theorem IsVoid.remark? {files : FileTree} {path : CodeText} {fault : Fault}
    (void : IsVoid files path fault) : fault.remark?.isSome = true := by
  cases void <;> rfl

theorem IsVoid.isInvalid {files : FileTree} {path : CodeText} {fault : Fault}
    (void : IsVoid files path fault) : fault.isInvalid = true := by
  cases void <;> rfl

theorem Stops.remark? {files : FileTree} {path : CodeText} {fault : Fault}
    (stops : Stops files path fault) : fault.remark? = none := by
  cases stops <;> rfl

structure MappingRead (files : FileTree) (path : CodeText) (loaded : Loaded)
    (given : List (Scalar × Value)) (entries : Entries) : Prop where
  lenient : ¬ HasUnshowable given → (load files false path).result = .ok entries
  stops : HasUnshowable given → (load files false path).result = .error .unwritableKey
  strict : ¬ HasOthers loaded given → (load files true path).result = .ok entries
  refused : HasOthers loaded given → ∃ fault, (load files true path).result = .error fault ∧
    (fault.isInvalid = true ∨ fault = .unwritableKey ∧ HasUnshowable given)

section Load

variable {files : FileTree} {path : CodeText}

theorem load_of_fault {strict : Bool} {fault : Fault}
    (read : (do let loaded ← readValue files path; return (loaded, ← entriesOf loaded)) =
      Except.error fault) :
    (load files strict path).result = (pass strict fault).map fun _ => [] := by
  simp only [load, read]
  cases pass strict fault <;> rfl

theorem load_of_stops {fault : Fault} (stops : Stops files path fault)
    (value : readValue files path = .error fault) (strict : Bool) :
    (load files strict path).result = .error fault := by
  rw [load_of_fault (by rw [value]; rfl), pass_of_no_remark stops.remark?]
  rfl

theorem load_of_isVoid {fault : Fault} (void : IsVoid files path fault)
    (read : (do let loaded ← readValue files path; return (loaded, ← entriesOf loaded)) =
      Except.error fault) :
    (load files false path).result = .ok [] ∧ (load files true path).result = .error fault := by
  obtain ⟨reports, passed⟩ := pass_of_remark void.remark?
  constructor
  · rw [load_of_fault read, passed]
    rfl
  · rw [load_of_fault read, pass_strict]
    rfl

theorem load_of_isMapping {given : List (Scalar × Value)}
    (value : readValue files path = .ok loaded) (mapping : entriesOf loaded = .ok given)
    (strict : Bool) : load files strict path = readEntries strict path loaded given := by
  simp [load, value, mapping, bind, Except.bind, pure, Except.pure]

/-- A settings file is read as its valid entries, an unusable one as none; a strict reading
refuses whatever it would have to pass over. -/
theorem load_cases (files : FileTree) (path : CodeText) :
    (∃ fault, Stops files path fault ∧
      ∀ strict, (load files strict path).result = .error fault) ∨
    (∃ fault, IsVoid files path fault ∧ fault.isInvalid = true ∧
      (load files false path).result = .ok [] ∧ (load files true path).result = .error fault) ∨
    ∃ loaded given entries, IsMapping files path loaded given ∧
      Selects loaded given entries ∧ MappingRead files path loaded given entries := by
  obtain ⟨fault, stops, value⟩ | ⟨fault, void, value⟩ | ⟨file, loaded, opened, loads, value⟩ :=
    readValue_cases files path
  · exact .inl ⟨fault, stops, load_of_stops stops value⟩
  · exact .inr (.inl ⟨fault, void, void.isInvalid, load_of_isVoid void (by rw [value]; rfl)⟩)
  · obtain ⟨given, found, mapping⟩ | ⟨fault, void, unusable⟩ := entriesOf_cases opened loads
    · obtain ⟨entries, selected⟩ := exists_selects loaded given
      refine .inr (.inr ⟨loaded, given, entries, found, selected, ?_, ?_, ?_, ?_⟩) <;>
        simp only [load_of_isMapping value mapping]
      · exact readEntries_lenient_eq selected
      · exact readEntries_lenient_stops
      · exact readEntries_strict_eq selected
      · exact readEntries_strict_refuses
    · refine .inr (.inl ⟨fault, void, void.isInvalid, load_of_isVoid void ?_⟩)
      rw [value]
      simp [bind, Except.bind, unusable]

/-- A directory is not passed over as an unreadable file. -/
theorem load_directory :
    (load { home := [], files := [], directories := [["d"]] } false "d").result =
      .error (.access ⟨.isDirectory, "d"⟩) :=
  rfl

end Load

end TypeCatalog.Settings
