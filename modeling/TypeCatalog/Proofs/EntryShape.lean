import Mathlib.Data.List.Nodup
import TypeCatalog.Proofs.BlockDrawing
import TypeCatalog.Proofs.CanonicalName
import TypeCatalog.Proofs.KeyClaims
import TypeCatalog.Proofs.TreeScanning

/-!
# Entries that can be read back

The keys of a block are a choice among fixed ones, in their order, and slots
that are claimed.  A slot ends with `$` or in a digit, and no fixed key does,
so all keys of a block are different.  That holds of everything a declaration
is to say, so what a text shows of it can be read wherever it breaks off.
-/

namespace TypeCatalog

open Document
open Text (CodeText)

namespace Document.Tree

mutual

/-- A tree with different keys and references to known anchors only, whether its scalars can be
written or not. -/
def Shaped (known : List CodeText) : Tree → Prop
  | scalar _ | emptyList => True
  | reference anchor => IsAnchor anchor ∧ anchor ∈ known
  | list items => ItemsShaped known items
  | record _ entries => (entries.map (·.1)).Nodup ∧ EntriesShaped known entries

def ItemsShaped (known : List CodeText) : List Tree → Prop
  | [] => True
  | tree :: rest => tree ≠ .emptyList ∧ tree.Shaped known ∧ ItemsShaped known rest

def EntriesShaped (known : List CodeText) : List Entry → Prop
  | [] => True
  | (_, tree) :: rest => tree.Shaped known ∧ EntriesShaped known rest

end

variable {known : List CodeText}

mutual

/-- What a text shows of a tree can be read. -/
theorem Begins.wellFormed {tree whole : Tree} (begins : tree.Begins whole)
    (shaped : whole.Shaped known) : tree.WellFormed known := by
  cases tree with
  | scalar value => exact begins.2
  | reference anchor =>
      cases begins
      exact shaped
  | emptyList => trivial
  | list items =>
      obtain ⟨all, rfl, inside⟩ := begins
      exact ItemsBegin.wellFormed inside shaped
  | record kind entries =>
      obtain ⟨all, rfl, inside⟩ := begins
      exact ⟨shaped.1.sublist inside.keys.sublist, EntriesBegin.wellFormed inside shaped.2⟩

theorem ItemsBegin.wellFormed {items whole : List Tree} (begins : ItemsBegin items whole)
    (shaped : ItemsShaped known whole) : ItemsWellFormed known items := by
  cases items with
  | nil => trivial
  | cons tree rest =>
      obtain ⟨first, others, rfl, same, later⟩ := begins
      obtain ⟨placed, first_shaped, others_shaped⟩ := shaped
      refine ⟨?_, same.wellFormed first_shaped, ItemsBegin.wellFormed later others_shaped⟩
      rintro rfl
      exact placed same

theorem EntriesBegin.wellFormed {entries whole : List Entry} (begins : EntriesBegin entries whole)
    (shaped : EntriesShaped known whole) : EntriesWellFormed known entries := by
  cases entries with
  | nil => trivial
  | cons entry rest =>
      obtain ⟨first, others, rfl, same, later⟩ := begins
      exact ⟨same.wellFormed shaped.1, EntriesBegin.wellFormed later shaped.2⟩

end

theorem itemsShaped_map {α : Type} {items : List α} {piece : α → Tree}
    (each : ∀ item ∈ items, piece item ≠ .emptyList ∧ (piece item).Shaped known) :
    ItemsShaped known (items.map piece) := by
  induction items with
  | nil => trivial
  | cons item rest ih =>
      obtain ⟨placed, proper⟩ := each item (by simp)
      exact ⟨placed, proper, ih fun other mem => each other (by simp [mem])⟩

theorem EntriesShaped.append {first second : List Entry}
    (early : EntriesShaped known first) (late : EntriesShaped known second) :
    EntriesShaped known (first ++ second) := by
  induction first with
  | nil => exact late
  | cons entry rest ih => exact ⟨early.1, ih early.2⟩

end Document.Tree

namespace Entries

/-! ## Fixed keys -/

structure Keyed (known : List CodeText) (keys : List String) (entries : List Entry) : Prop where
  sublist : (entries.map (·.1)).Sublist (keys.map CodeText.ofString)
  shaped : Tree.EntriesShaped known entries

namespace Keyed

variable {known : List CodeText} {keys others : List String} {entries more : List Entry}

theorem nil : Keyed known keys [] :=
  ⟨List.nil_sublist _, trivial⟩

theorem append (early : Keyed known keys entries) (late : Keyed known others more) :
    Keyed known (keys ++ others) (entries ++ more) where
  sublist := by
    rw [List.map_append, List.map_append]
    exact early.sublist.append late.sublist
  shaped := early.shaped.append late.shaped

theorem single {key : String} {tree : Tree} (shaped : tree.Shaped known) :
    Keyed known [key] [(.ofString key, tree)] :=
  ⟨List.Sublist.refl _, shaped, trivial⟩

theorem record (keyed : Keyed known keys entries) (kind : Kind)
    (different : (keys.map CodeText.ofString).Nodup) :
    (Tree.record kind entries).Shaped known :=
  ⟨different.sublist keyed.sublist, keyed.shaped⟩

end Keyed

variable {known : List CodeText}

theorem keyed_text (key : String) (value : CodeText) : Keyed known [key] [text key value] :=
  .single trivial

theorem keyed_number (key : String) (value : Int) : Keyed known [key] [number key value] :=
  .single trivial

theorem keyed_flag (key : String) (enabled : Bool) : Keyed known [key] (flag key enabled) := by
  cases enabled with
  | false => exact .nil
  | true => exact .single trivial

theorem keyed_properText (key : String) (value : Option CodeText) :
    Keyed known [key] (properText key value) := by
  unfold properText
  cases Text.proper? value with
  | none => exact .nil
  | some name => exact keyed_text key name

theorem keyed_ofLocation (location : Location) :
    Keyed known ["$srcFile", "$srcLine"] (ofLocation location) :=
  (keyed_text "$srcFile" location.file).append (keyed_number "$srcLine" location.line)

theorem keyed_ofTags (tags : TagList) : Keyed known ["tags"] (ofTags tags) := by
  unfold ofTags
  split
  · exact .nil
  · refine .single (Tree.itemsShaped_map fun values _ => ⟨by simp, ?_⟩)
    refine Tree.itemsShaped_map fun value _ => ?_
    cases value <;> exact ⟨by simp [ofTagValue], trivial⟩

/-! ## Functions -/

variable (names : List CodeText)

theorem shaped_ofParameter (parameter : Parameter) :
    (Tree.record .param (ofParameter names parameter)).Shaped known := by
  have keyed : Keyed known ["name", "type", "tags"] (ofParameter names parameter) :=
    (keyed_text "name" _).append ((keyed_text "type" _).append (keyed_ofTags _))
  exact keyed.record .param (by decide)

theorem keyed_ofParameters (parameters : List Parameter) :
    Keyed known ["args"] (ofParameters names parameters) := by
  unfold ofParameters
  split
  · exact .single trivial
  · refine .single (Tree.itemsShaped_map fun parameter _ => ?_)
    exact ⟨by simp, shaped_ofParameter names parameter⟩

def traitNames : List String :=
  (traits {}).map (·.1)

theorem keyed_traits (flags : FunctionTraits) :
    Keyed known traitNames ((traits flags).flatMap fun trait => flag trait.1 trait.2) := by
  have names_eq : (traits flags).map (·.1) = traitNames := rfl
  rw [← names_eq]
  induction traits flags with
  | nil => exact .nil
  | cons trait rest ih => exact (keyed_flag trait.1 trait.2).append ih

def qualifierNames : List String :=
  ["name", "asm"] ++ traitNames ++
    ["constructor", "explicit", "default", "copy", "move", "destructor"]

theorem keyed_ofQualifiers (declaration : Function) :
    Keyed known qualifierNames (ofQualifiers declaration) := by
  have named : Keyed known ["name", "asm"]
      ([text "name" (declaration.name.getD "")] ++ properText "asm" declaration.mangledName) :=
    (keyed_text "name" _).append (keyed_properText "asm" _)
  have general := named.append (keyed_traits declaration.flags)
  exact (((((general.append (keyed_flag "constructor" _)).append (keyed_flag "explicit" _)).append
    (keyed_flag "default" _)).append (keyed_flag "copy" _)).append (keyed_flag "move" _)).append
    (keyed_flag "destructor" _)

def functionNames : List String :=
  qualifierNames ++ ["args", "tags"]

theorem keyed_ofFunction (declaration : Function) (tags : TagList) :
    Keyed known functionNames (ofFunction names declaration tags) :=
  ((keyed_ofQualifiers declaration).append (keyed_ofParameters names _)).append
    (keyed_ofTags tags)

theorem shaped_ofMethod (method : Function) :
    (Tree.record .method (ofMethod names method)).Shaped known :=
  (keyed_ofFunction names method _).record .method (by decide +kernel)

theorem shaped_function (declaration : Function) (tags : TagList) :
    (Tree.record .function (ofLocation declaration.location ++
      ofFunction names declaration tags)).Shaped known := by
  have keyed : Keyed known (["$srcFile", "$srcLine"] ++ functionNames)
      (ofLocation declaration.location ++ ofFunction names declaration tags) :=
    (keyed_ofLocation _).append (keyed_ofFunction names declaration tags)
  exact keyed.record .function (by decide +kernel)

/-! ## Members of records -/

def Refers (known defined : List CodeText) (base : Base) : Prop :=
  ∀ name, Text.proper? base.type.name = some name → Identities.namedType name ∈ defined →
    Identities.namedType name ∈ known

theorem keyed_ofReference {defined : List CodeText} {base : Base}
    (refers : Refers known defined base) : Keyed known ["ref"] (ofReference defined base) := by
  unfold ofReference
  cases named : Text.proper? base.type.name with
  | none => exact .nil
  | some name =>
      dsimp only
      split
      · rename_i held
        exact .single ⟨isAnchor_namedType name,
          refers name named (List.contains_iff_mem.mp held)⟩
      · exact .nil

theorem keyed_ofAccess (access : Option Access) : Keyed known ["access"] [ofAccess access] := by
  rw [ofAccess_eq]
  exact keyed_text "access" _

theorem shaped_ofBase {defined : List CodeText} {base : Base}
    (refers : Refers known defined base) :
    (Tree.record .base (ofBase defined base)).Shaped known := by
  have keyed : Keyed known ["access", "virtual", "name", "ref"] (ofBase defined base) :=
    (((keyed_ofAccess _).append (keyed_flag "virtual" _)).append (keyed_text "name" _)).append
      (keyed_ofReference refers)
  exact keyed.record .base (by decide)

theorem keyed_ofWidth (width : Option Int) :
    Keyed known ["bitfield", "width"] (ofWidth width) := by
  cases width with
  | none => exact .nil
  | some n => exact (keyed_flag "bitfield" true).append (keyed_number "width" n)

theorem shaped_ofField (field : Field) :
    (Tree.record .field (ofField names field)).Shaped known := by
  have named : Keyed known ["name", "type"]
      (properText "name" field.name ++ properText "type" field.type.name) :=
    (keyed_properText "name" _).append (keyed_properText "type" _)
  have numbers : Keyed known ["size", "align", "offset", "boffset"]
      [knownNumber "size" field.type.size, knownNumber "align" field.type.align,
        knownNumber "offset" field.bitOffset,
        number "boffset" (bitInByte (field.bitOffset.getD (-1)))] :=
    (keyed_number "size" _).append ((keyed_number "align" _).append
      ((keyed_number "offset" _).append (keyed_number "boffset" _)))
  have keyed : Keyed known (["name", "type"] ++ ["size", "align", "offset", "boffset"] ++
      ["artificial"] ++ ["unknown"] ++ ["bitfield", "width"] ++ ["tags"]) (ofField names field) :=
    ((((named.append numbers).append (keyed_flag "artificial" _)).append
      (keyed_flag "unknown" _)).append (keyed_ofWidth _)).append (keyed_ofTags _)
  exact keyed.record .field (by decide +kernel)

/-! ## Slots -/

/-- The keys of a listing are slots that it has claimed, each of them new. -/
structure Listing.Claims (slots : UniqueKeys) (listing : Listing) : Prop where
  claimed : listing.slots.claimed = (listing.entries.map (·.1)).reverse ++ slots.claimed
  nodup : slots.claimed.Nodup → listing.slots.claimed.Nodup
  slot : ∀ entry ∈ listing.entries, UniqueKeys.IsSlotKey entry.1

theorem Listing.Claims.nil (slots : UniqueKeys) (ordinal : Nat) :
    Listing.Claims slots { entries := [], slots, ordinal } :=
  ⟨rfl, id, by simp⟩

theorem Listing.Claims.after {slots : UniqueKeys} {name : CodeText} {listing : Listing} {tree : Tree}
    (claims : Listing.Claims (slots.claim (name ++ "$")).2 listing) :
    Listing.Claims slots (listing.after ((slots.claim (name ++ "$")).1, tree)) where
  claimed := by
    change listing.slots.claimed = _
    rw [claims.claimed]
    simp [Listing.after, UniqueKeys.claim_claimed]
  nodup different := claims.nodup (UniqueKeys.nodup_claim different _)
  slot entry mem := by
    rcases List.mem_cons.mp mem with rfl | mem
    · exact slots.isSlotKey_claim name
    · exact claims.slot entry mem

theorem claims_listBases (defined : List CodeText) (slots : UniqueKeys) (index : Nat)
    (bases : List Base) : (listBases defined slots index bases).Claims slots := by
  induction bases generalizing slots index with
  | nil => exact .nil slots 0
  | cons base rest ih => exact .after (ih _ _)

theorem claims_listFields (names : List CodeText) (slots : UniqueKeys) (ordinal : Nat)
    (fields : List Field) : (listFields names slots ordinal fields).Claims slots := by
  induction fields generalizing slots ordinal with
  | nil => exact .nil slots ordinal
  | cons field rest ih => exact .after (ih _ _)

theorem claims_listMethods (names : List CodeText) (slots : UniqueKeys) (index : Nat)
    (methods : List Function) : (listMethods names slots index methods).Claims slots := by
  induction methods generalizing slots index with
  | nil => exact .nil slots 0
  | cons method rest ih => exact .after (ih _ _)

theorem entriesShaped_listBases {defined : List CodeText} (slots : UniqueKeys) (index : Nat)
    {bases : List Base} (refers : ∀ base ∈ bases, Refers known defined base) :
    Tree.EntriesShaped known (listBases defined slots index bases).entries := by
  induction bases generalizing slots index with
  | nil => trivial
  | cons base rest ih =>
      exact ⟨shaped_ofBase (refers base (by simp)),
        ih _ _ fun other mem => refers other (by simp [mem])⟩

theorem entriesShaped_listFields (slots : UniqueKeys) (ordinal : Nat) (fields : List Field) :
    Tree.EntriesShaped known (listFields names slots ordinal fields).entries := by
  induction fields generalizing slots ordinal with
  | nil => trivial
  | cons field rest ih => exact ⟨shaped_ofField names field, ih _ _⟩

theorem entriesShaped_listMethods (slots : UniqueKeys) (index : Nat) (methods : List Function) :
    Tree.EntriesShaped known (listMethods names slots index methods).entries := by
  induction methods generalizing slots index with
  | nil => trivial
  | cons method rest ih => exact ⟨shaped_ofMethod names method, ih _ _⟩

/-! ## Records -/

def headerNames : List String :=
  ["$srcFile", "$srcLine", "$sizeof", "$alignof", "tags"]

theorem not_isSlotKey_header {name : CodeText} (mem : name ∈ headerNames.map CodeText.ofString) :
    ¬UniqueKeys.IsSlotKey name := by
  rintro ⟨c, last, ending⟩
  simp only [headerNames, List.map_cons, List.map_nil, List.mem_cons, List.not_mem_nil,
    or_false] at mem
  rcases mem with rfl | rfl | rfl | rfl | rfl <;>
    simp [CodeText.ofString, CodeText.ofChars] at last <;> subst last <;> simp at ending

theorem keyed_ofHeader (declaration : Record) (tags : TagList) :
    Keyed known headerNames (ofHeader declaration tags) := by
  have numbers : Keyed known ["$sizeof", "$alignof"]
      [knownNumber "$sizeof" declaration.size, knownNumber "$alignof" declaration.align] :=
    (keyed_number "$sizeof" _).append (keyed_number "$alignof" _)
  exact ((keyed_ofLocation _).append numbers).append (keyed_ofTags tags)

/-- Listings that claim their slots one after the other have different keys. -/
theorem nodup_slots {bases fields methods : Listing} (first : bases.Claims {})
    (second : fields.Claims bases.slots) (third : methods.Claims fields.slots) :
    ((bases.entries ++ fields.entries ++ methods.entries).map (·.1)).Nodup := by
  have different := third.nodup (second.nodup (first.nodup List.nodup_nil))
  have claimed_eq : methods.slots.claimed =
      ((bases.entries ++ fields.entries ++ methods.entries).map (·.1)).reverse := by
    rw [third.claimed, second.claimed, first.claimed]
    simp
  rwa [claimed_eq, List.nodup_reverse] at different

def ofMembers (names defined : List CodeText) (ordinal : Nat) (declaration : Record) : List Entry :=
  let bases := listBases defined {} 0 declaration.bases.items
  let fields := listFields names bases.slots ordinal declaration.fields.items
  bases.entries ++ fields.entries ++
    (listMethods names fields.slots 0 (constructorsFirst declaration.methods.items)).entries

theorem ofRecord_eq (defined : List CodeText) (ordinal : Nat) (declaration : Record)
    (tags : TagList) :
    (ofRecord names defined ordinal declaration tags).1 =
      ofHeader declaration tags ++ ofMembers names defined ordinal declaration := by
  simp [ofRecord, ofMembers]

theorem slots_ofMembers (defined : List CodeText) (ordinal : Nat) (declaration : Record) :
    ((ofMembers names defined ordinal declaration).map (·.1)).Nodup ∧
      ∀ entry ∈ ofMembers names defined ordinal declaration, UniqueKeys.IsSlotKey entry.1 := by
  let bases := listBases defined {} 0 declaration.bases.items
  let fields := listFields names bases.slots ordinal declaration.fields.items
  let methods :=
    listMethods names fields.slots 0 (constructorsFirst declaration.methods.items)
  have first : bases.Claims {} := claims_listBases _ _ _ _
  have second : fields.Claims bases.slots := claims_listFields _ _ _ _
  have third : methods.Claims fields.slots := claims_listMethods _ _ _ _
  refine ⟨nodup_slots first second third, fun entry mem => ?_⟩
  rcases List.mem_append.mp mem with mem | mem
  · rcases List.mem_append.mp mem with mem | mem
    · exact first.slot entry mem
    · exact second.slot entry mem
  · exact third.slot entry mem

theorem shaped_ofRecord {defined : List CodeText} (ordinal : Nat) {declaration : Record}
    (tags : TagList) (refers : ∀ base ∈ declaration.bases.items, Refers known defined base) :
    (Tree.record .struct (ofRecord names defined ordinal declaration tags).1).Shaped known := by
  have header := @keyed_ofHeader known declaration tags
  obtain ⟨different, slots⟩ := slots_ofMembers names defined ordinal declaration
  rw [ofRecord_eq]
  refine ⟨?_, header.shaped.append ?_⟩
  · rw [List.map_append, List.nodup_append]
    have fixed : (headerNames.map CodeText.ofString).Nodup := by decide
    refine ⟨fixed.sublist header.sublist, different, ?_⟩
    rintro key header_mem _ slot_mem rfl
    obtain ⟨entry, mem, key_eq⟩ := List.mem_map.mp slot_mem
    refine not_isSlotKey_header (header.sublist.subset header_mem) ?_
    rw [← key_eq]
    exact slots entry mem
  · exact ((entriesShaped_listBases _ _ refers).append (entriesShaped_listFields names _ _ _)).append
      (entriesShaped_listMethods names _ _ _)

theorem shaped_ofStub (awaited : AwaitedRecord) :
    (Tree.record .struct (ofStub awaited)).Shaped known := by
  have keyed : Keyed known (["$srcFile", "$srcLine"] ++ ["incomplete"] ++ ["tags"])
      (ofStub awaited) :=
    ((keyed_ofLocation _).append (keyed_flag "incomplete" true)).append (keyed_ofTags _)
  exact keyed.record .struct (by decide)

end Entries

/-! ## Numbers -/

namespace Document.Tree

mutual

def numbers : Tree → List Int
  | scalar (.int n) => [n]
  | scalar _ | reference _ | emptyList => []
  | list items => itemNumbers items
  | record _ entries => entryNumbers entries

def itemNumbers : List Tree → List Int
  | [] => []
  | tree :: rest => tree.numbers ++ itemNumbers rest

def entryNumbers : List Entry → List Int
  | [] => []
  | (_, tree) :: rest => tree.numbers ++ entryNumbers rest

end

theorem itemNumbers_eq (items : List Tree) : itemNumbers items = items.flatMap numbers := by
  induction items with
  | nil => rfl
  | cons tree rest ih => rw [itemNumbers, List.flatMap_cons, ih]

theorem entryNumbers_eq (entries : List Entry) :
    entryNumbers entries = entries.flatMap (·.2.numbers) := by
  induction entries with
  | nil => rfl
  | cons entry rest ih =>
      obtain ⟨key, tree⟩ := entry
      rw [entryNumbers, List.flatMap_cons, ih]

end Document.Tree

def Tag.IsReadable (names : List CodeText) (attributes : List Attribute) : Prop :=
  ∃ tags : TagList, Tag.values names attributes = .ok tags

def Function.IsReadable (names : List CodeText) (declaration : Function) : Prop :=
  Tag.IsReadable names declaration.attributes ∧
    ∀ parameter ∈ declaration.parameters.items, Tag.IsReadable names parameter.attributes

def Record.IsReadable (names : List CodeText) (declaration : Record) : Prop :=
  Tag.IsReadable names declaration.attributes ∧
    (∀ field ∈ declaration.fields.items, Tag.IsReadable names field.type.attributes) ∧
    ∀ method ∈ declaration.methods.items, method.IsReadable names

def Declaration.IsReadable (names : List CodeText) : Declaration → Prop
  | record declaration => declaration.IsReadable names
  | function declaration => declaration.IsReadable names
  | _ => True

instance (names : List CodeText) (attributes : List Attribute) :
    Decidable (Tag.IsReadable names attributes) :=
  match reading : Tag.values names attributes with
  | .ok tags => isTrue ⟨tags, reading⟩
  | .error _ => isFalse fun ⟨_, read⟩ => nomatch reading.symm.trans read

instance (names : List CodeText) (declaration : Function) : Decidable (declaration.IsReadable names) :=
  inferInstanceAs (Decidable (_ ∧ _))

instance (names : List CodeText) (declaration : Record) : Decidable (declaration.IsReadable names) :=
  inferInstanceAs (Decidable (_ ∧ _ ∧ _))

instance (names : List CodeText) : (declaration : Declaration) →
    Decidable (declaration.IsReadable names)
  | .record declaration => inferInstanceAs (Decidable (declaration.IsReadable names))
  | .function declaration => inferInstanceAs (Decidable (declaration.IsReadable names))
  | .field _ | .parameter _ | .base _ => isTrue trivial

namespace Entries

def Fit (entries : List Entry) : Prop :=
  ∀ n ∈ Tree.entryNumbers entries, Text.Integer.isWritable n = true

instance (entries : List Entry) : Decidable (Fit entries) :=
  inferInstanceAs (Decidable (∀ n ∈ Tree.entryNumbers entries, Text.Integer.isWritable n = true))

theorem fit_append {first second : List Entry} :
    Fit (first ++ second) ↔ Fit first ∧ Fit second := by
  simp [Fit, Tree.entryNumbers_eq, or_imp, forall_and]

theorem Fit.number {key : String} {value : Int} (fit : Fit [number key value]) :
    Text.Integer.isWritable value = true :=
  fit value (by simp [Entries.number, Tree.entryNumbers, Tree.numbers])

theorem Fit.knownNumber {key : String} {value : Option Int} (fit : Fit [knownNumber key value]) :
    IsWritableNumber value := by
  rintro n rfl
  exact fit.number

theorem Fit.ofLocation {location : Location} (fit : Fit (ofLocation location)) :
    Text.Integer.isWritable location.line = true :=
  ((@fit_append [text "$srcFile" location.file] [Entries.number "$srcLine" location.line]).mp
    fit).2.number

theorem Fit.ofTags {tags : TagList} (fit : Fit (ofTags tags)) : tags.IsWritable := by
  intro values held n mem
  have visible : values ∈ shownTags tags :=
    List.mem_filter.mpr ⟨held, by simpa using List.ne_nil_of_mem mem⟩
  have shown : (shownTags tags).isEmpty = false := by
    simpa using List.ne_nil_of_mem visible
  refine fit n ?_
  simp only [Entries.ofTags, shown, Bool.false_eq_true, ↓reduceIte, Tree.entryNumbers,
    Tree.numbers, Tree.itemNumbers_eq, List.append_nil, List.mem_flatMap, List.mem_map]
  exact ⟨_, ⟨values, visible, rfl⟩, by
    simp only [Tree.numbers, Tree.itemNumbers_eq, List.mem_flatMap, List.mem_map]
    exact ⟨_, ⟨_, mem, rfl⟩, by simp [ofTagValue, Tree.numbers]⟩⟩

variable {names : List CodeText}

theorem Fit.ownTags {attributes : List Attribute} (readable : Tag.IsReadable names attributes)
    (fit : Fit (Entries.ofTags (Tag.read names attributes))) : Tag.IsClean names attributes := by
  obtain ⟨tags, reading⟩ := readable
  rw [Tag.read, reading] at fit
  exact ⟨tags, reading, fit.ofTags⟩

theorem Fit.ofParameters {parameters : List Parameter}
    (readable : ∀ parameter ∈ parameters, Tag.IsReadable names parameter.attributes)
    (fit : Fit (ofParameters names parameters)) :
    ∀ parameter ∈ parameters, parameter.IsClean names := by
  intro parameter mem
  have shown : parameters.isEmpty = false := by
    simpa using List.ne_nil_of_mem mem
  have inside : Fit (ofParameter names parameter) := by
    intro n held
    refine fit n ?_
    simp only [Entries.ofParameters, shown, Bool.false_eq_true, ↓reduceIte, Tree.entryNumbers,
      Tree.numbers, Tree.itemNumbers_eq, List.append_nil, List.mem_flatMap, List.mem_map]
    exact ⟨_, ⟨parameter, mem, rfl⟩, held⟩
  exact Fit.ownTags (readable parameter mem) (fit_append.mp inside).2

theorem Fit.ofFunction {declaration : Function} {tags : TagList}
    (readable : ∀ parameter ∈ declaration.parameters.items,
      Tag.IsReadable names parameter.attributes)
    (fit : Fit (ofFunction names declaration tags)) :
    (∀ parameter ∈ declaration.parameters.items, parameter.IsClean names) ∧
      Fit (Entries.ofTags tags) := by
  obtain ⟨early, late⟩ := fit_append.mp fit
  exact ⟨Fit.ofParameters readable (fit_append.mp early).2, late⟩

theorem Fit.ofMethod {method : Function} (readable : method.IsReadable names)
    (fit : Fit (ofMethod names method)) : method.IsClean names := by
  obtain ⟨parameters, tags⟩ := Fit.ofFunction readable.2 fit
  exact ⟨Fit.ownTags readable.1 tags, parameters⟩

theorem Fit.ofField {field : Field} (readable : Tag.IsReadable names field.type.attributes)
    (fit : Fit (ofField names field)) : field.IsClean names := by
  simp only [Entries.ofField, fit_append] at fit
  obtain ⟨⟨⟨⟨⟨-, numbers⟩, -⟩, -⟩, width⟩, tags⟩ := fit
  have split := (@fit_append [Entries.knownNumber "size" field.type.size] _).mp numbers
  have rest := (@fit_append [Entries.knownNumber "align" field.type.align] _).mp split.2
  have offset := (@fit_append [Entries.knownNumber "offset" field.bitOffset] _).mp rest.2
  refine ⟨split.1.knownNumber, rest.1.knownNumber, offset.1.knownNumber, ?_,
    Fit.ownTags readable tags⟩
  intro n width_eq
  rw [width_eq, ofWidth, fit_append] at width
  exact width.2.number

theorem Fit.listFields {slots : UniqueKeys} {ordinal : Nat} {fields : List Field}
    (readable : ∀ field ∈ fields, Tag.IsReadable names field.type.attributes)
    (fit : Fit (listFields names slots ordinal fields).entries) :
    ∀ field ∈ fields, field.IsClean names := by
  induction fields generalizing slots ordinal with
  | nil => simp
  | cons field rest ih =>
      obtain ⟨first, others⟩ := (@fit_append [_] _).mp fit
      intro other mem
      rcases List.mem_cons.mp mem with rfl | mem
      · refine Fit.ofField (readable other (by simp)) fun n held => first n ?_
        simpa [Tree.entryNumbers, Tree.numbers] using held
      · exact ih (fun next held => readable next (by simp [held])) others other mem

theorem Fit.listMethods {slots : UniqueKeys} {index : Nat} {methods : List Function}
    (readable : ∀ method ∈ methods, method.IsReadable names)
    (fit : Fit (listMethods names slots index methods).entries) :
    ∀ method ∈ methods, method.IsClean names := by
  induction methods generalizing slots index with
  | nil => simp
  | cons method rest ih =>
      obtain ⟨first, others⟩ := (@fit_append [_] _).mp fit
      intro other mem
      rcases List.mem_cons.mp mem with rfl | mem
      · refine Fit.ofMethod (readable other (by simp)) fun n held => first n ?_
        simpa [Tree.entryNumbers, Tree.numbers] using held
      · exact ih (fun next held => readable next (by simp [held])) others other mem

/-- If the numbers of the block of a record can be written, so can all of the record. -/
theorem Fit.ofRecord {defined : List CodeText} {ordinal : Nat} {declaration : Record}
    {carried own : TagList} (readable : declaration.IsReadable names)
    (reading : Tag.values names declaration.attributes = .ok own)
    (fit : Fit (ofRecord names defined ordinal declaration (carried ++ own)).1) :
    declaration.IsClean names ∧ TagList.IsWritable (carried ++ own) := by
  obtain ⟨-, fields_readable, methods_readable⟩ := readable
  simp only [Entries.ofRecord, ofHeader, fit_append] at fit
  obtain ⟨⟨⟨⟨⟨place, numbers⟩, tags⟩, -⟩, fields⟩, methods⟩ := fit
  have split := (@fit_append [Entries.knownNumber "$sizeof" declaration.size] _).mp numbers
  have own_writable : own.IsWritable :=
    fun values mem => tags.ofTags values (List.mem_append_right _ mem)
  refine ⟨⟨place.ofLocation, split.1.knownNumber, split.2.knownNumber, ⟨own, reading, own_writable⟩,
    Fit.listFields fields_readable fields, fun method mem => ?_⟩, tags.ofTags⟩
  exact Fit.listMethods (fun next held => methods_readable next (mem_constructorsFirst.mp held))
    methods method (mem_constructorsFirst.mpr mem)

theorem Fit.ofStub {awaited : AwaitedRecord} (fit : Fit (ofStub awaited)) :
    Text.Integer.isWritable awaited.declaration.location.line = true ∧ awaited.tags.IsWritable := by
  simp only [Entries.ofStub, fit_append] at fit
  exact ⟨fit.1.1.ofLocation, fit.2.ofTags⟩

end Entries

end TypeCatalog
