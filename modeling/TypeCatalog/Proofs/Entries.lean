import TypeCatalog.Proofs.DocumentTree
import TypeCatalog.Walk.Record

/-!
# The entries of declarations

What a document says about a declaration, as a function of the declaration
alone.  Three things come from the run: which canonical names have an anchor,
the slots that are taken in a block, and the last ordinal handed out.
-/

namespace TypeCatalog

open Document
open Text (CodeText)

namespace Entries

/-! ## Single entries -/

def text (key : String) (value : CodeText) : Entry :=
  (.ofString key, .scalar (.text value))

def number (key : String) (value : Int) : Entry :=
  (.ofString key, .scalar (.int value))

/-- A number that is not known is written as -1. -/
def knownNumber (key : String) (value : Option Int) : Entry :=
  number key (value.getD (-1))

def flag (key : String) (enabled : Bool) : List Entry :=
  if enabled then [(.ofString key, .scalar (.bool true))] else []

def properText (key : String) (value : Option CodeText) : List Entry :=
  ((Text.proper? value).map (text key)).toList

def ofLocation (location : Location) : List Entry :=
  [text "$srcFile" location.file, number "$srcLine" location.line]

def ofTagValue : TagValue → Tree
  | .text value => .scalar (.text value)
  | .integer value => .scalar (.int value)

def shownTags (tags : TagList) : TagList :=
  tags.filter fun values => !values.isEmpty

/-- One item for each instance that is not empty; no entry if there is none. -/
def ofTags (tags : TagList) : List Entry :=
  if (shownTags tags).isEmpty then []
  else [(.ofString "tags", .list ((shownTags tags).map fun values => .list (values.map ofTagValue)))]

end Entries

/-! ## Tags of attributes -/

/-- A string gives its text and an integer its number; another value of one of these kinds is
converted, and an argument of any other kind gives nothing. -/
def Literal.tagValue (literal : Literal) : Except LiteralFault (Option TagValue) :=
  if literal.kind = "string" then
    match literal.value with
    | .text value => .ok (some (.text value))
    | other => other.asText.map fun value => some (.text value)
  else if literal.kind = "integer" then
    match literal.value with
    | .integer value => .ok (some (.integer value))
    | other => other.asInteger.map fun value => some (.integer value)
  else .ok none

def Attribute.tagInstance (attached : Attribute) : Except LiteralFault TagInstance :=
  (attached.arguments.mapM Literal.tagValue).map List.reduceOption

def Tag.values (names : List CodeText) (attributes : List Attribute) :
    Except LiteralFault TagList :=
  (attributes.filter (names.contains ·.name)).mapM Attribute.tagInstance

theorem Tag.result_argument (literal : Literal) :
    (Tag.argument literal).result = literal.tagValue := by
  obtain ⟨kind, value⟩ := literal
  unfold Tag.argument Literal.tagValue
  by_cases string : kind = "string"
  · simp only [string, beq_self_eq_true, ↓reduceIte]
    cases value <;> rfl
  by_cases integer : kind = "integer"
  · have other : ("integer" : CodeText) ≠ "string" := by decide
    simp only [integer, beq_self_eq_true, beq_eq_false_iff_ne.mpr other, other, ↓reduceIte,
      Bool.false_eq_true]
    cases value <;> rfl
  simp [string, integer]

theorem Tag.result_tagInstance (literals : List Literal) :
    (Tag.tagInstance literals).result =
      (literals.mapM Literal.tagValue).map List.reduceOption := by
  induction literals with
  | nil => rfl
  | cons literal rest ih =>
      rw [List.mapM_cons, ← Tag.result_argument literal]
      rcases first : (Tag.argument literal).result with fault | value
      · simp only [Tag.tagInstance, first]
        rfl
      · simp only [Tag.tagInstance, first, ih]
        rcases rest.mapM Literal.tagValue with fault | values
        · rfl
        · cases value <;> rfl

theorem Tag.result_ofAttributes (names : List CodeText) (attributes : List Attribute) :
    (Tag.ofAttributes names attributes).result = Tag.values names attributes := by
  unfold Tag.values
  induction attributes with
  | nil => rfl
  | cons attached rest ih =>
      rw [Tag.ofAttributes, List.filter_cons]
      split
      · have single : (Tag.tagInstance attached.arguments).result = attached.tagInstance :=
          Tag.result_tagInstance attached.arguments
        rw [List.mapM_cons]
        rcases first : attached.tagInstance with fault | values <;> rw [first] at single
        · simp only [single]
          rfl
        · simp only [single, ih]
          rcases (rest.filter (names.contains ·.name)).mapM Attribute.tagInstance with
            fault | others <;> rfl
      · exact ih

def Tag.read (names : List CodeText) (attributes : List Attribute) : TagList :=
  match Tag.values names attributes with
  | .ok tags => tags
  | .error _ => []

theorem Tag.read_of_result {names : List CodeText} {attributes : List Attribute} {tags : TagList}
    (reading : (Tag.ofAttributes names attributes).result = .ok tags) :
    Tag.read names attributes = tags := by
  rw [Tag.read, ← Tag.result_ofAttributes, reading]

namespace Entries

/-! ## Functions -/

def ofParameter (names : List CodeText) (parameter : Parameter) : List Entry :=
  [text "name" (parameter.name.getD ""), text "type" (parameter.type.name.getD "")] ++
    ofTags (Tag.read names parameter.attributes)

def ofParameters (names : List CodeText) (parameters : List Parameter) : List Entry :=
  if parameters.isEmpty then [(.ofString "args", .emptyList)]
  else [(.ofString "args", .list (parameters.map fun p => .record .param (ofParameter names p)))]

/-- The traits with a key of their own, in the order of the document. -/
def traits (flags : FunctionTraits) : List (String × Bool) :=
  [("constexpr", flags.constexpr), ("deleted", flags.deleted), ("externc", flags.externC),
    ("noreturn", flags.noreturn), ("varargs", flags.variadic), ("implicit", flags.implicit),
    ("static", flags.static), ("const", flags.const), ("virtual", flags.virtual),
    ("nothrow", flags.nothrow), ("artificial", flags.artificial), ("operator", flags.operator),
    ("cast_operator", flags.conversion), ("thunk", flags.thunk)]

def ofQualifiers (declaration : Function) : List Entry :=
  let isConstructor := declaration.role == .constructor
  [text "name" (declaration.name.getD "")] ++ properText "asm" declaration.mangledName ++
    (traits declaration.flags).flatMap (fun trait => flag trait.1 trait.2) ++
    flag "constructor" isConstructor ++ flag "explicit" declaration.flags.explicit ++
    flag "default" (isConstructor && declaration.constructorKind == some .default) ++
    flag "copy" (isConstructor && declaration.constructorKind == some .copy) ++
    flag "move" (isConstructor && declaration.constructorKind == some .move) ++
    flag "destructor" (declaration.role == .destructor)

def ofFunction (names : List CodeText) (declaration : Function) (tags : TagList) : List Entry :=
  ofQualifiers declaration ++ ofParameters names declaration.parameters.items ++ ofTags tags

def ofMethod (names : List CodeText) (method : Function) : List Entry :=
  ofFunction names method (Tag.read names method.attributes)

/-! ## Members of records -/

def ofReference (defined : List CodeText) (base : Base) : List Entry :=
  match Text.proper? base.type.name with
  | none => []
  | some name =>
    if defined.contains (Identities.namedType name) then
      [(.ofString "ref", .reference (Identities.namedType name))]
    else []

/-- Access is public unless something else is declared. -/
def ofAccess : Option Access → Entry
  | some .prot => text "access" "protected"
  | some .priv => text "access" "private"
  | some .pub | none => text "access" "public"

def ofBase (defined : List CodeText) (base : Base) : List Entry :=
  [ofAccess base.access] ++ flag "virtual" base.virtual ++
    [text "name" (base.type.name.getD "")] ++ ofReference defined base

def bitInByte (offset : Int) : Int :=
  if offset = -1 then -1 else offset % 8

def ofWidth : Option Int → List Entry
  | some width => flag "bitfield" true ++ [number "width" width]
  | none => []

def ofField (names : List CodeText) (field : Field) : List Entry :=
  properText "name" field.name ++ properText "type" field.type.name ++
    [knownNumber "size" field.type.size, knownNumber "align" field.type.align,
      knownNumber "offset" field.bitOffset,
      number "boffset" (bitInByte (field.bitOffset.getD (-1)))] ++
    flag "artificial" field.artificial ++ flag "unknown" (Text.proper? field.name).isNone ++
    ofWidth field.bitWidth ++ ofTags (Tag.read names field.type.attributes)

/-- Entries in the order of a block, the slots claimed and the last ordinal after them. -/
structure Listing where
  entries : List Entry
  slots : UniqueKeys
  ordinal : Nat := 0

def Listing.after (listing : Listing) (first : Entry) : Listing :=
  { listing with entries := first :: listing.entries }

def listBases (defined : List CodeText) (slots : UniqueKeys) : Nat → List Base → Listing
  | _, [] => { entries := [], slots }
  | index, base :: rest =>
    let (key, slots) := slots.claim ("base_" ++ toString index ++ "$")
    (listBases defined slots (index + 1) rest).after (key, .record .base (ofBase defined base))

def slotName (ordinal : Nat) (field : Field) : CodeText × Nat :=
  match Text.proper? field.name with
  | some name => (name, ordinal)
  | none => ("anon_" ++ Nat.repr (ordinal + 1), ordinal + 1)

def listFields (names : List CodeText) (slots : UniqueKeys) (ordinal : Nat) :
    List Field → Listing
  | [] => { entries := [], slots, ordinal }
  | field :: rest =>
    let (slot, ordinal) := slotName ordinal field
    let (key, slots) := slots.claim (slot ++ "$")
    (listFields names slots ordinal rest).after (key, .record .field (ofField names field))

def listMethods (names : List CodeText) (slots : UniqueKeys) : Nat → List Function → Listing
  | _, [] => { entries := [], slots }
  | index, method :: rest =>
    let (key, slots) := slots.claim ("method_" ++ toString index ++ "$")
    (listMethods names slots (index + 1) rest).after (key, .record .method (ofMethod names method))

/-! ## Records -/

def ofHeader (declaration : Record) (tags : TagList) : List Entry :=
  ofLocation declaration.location ++
    [knownNumber "$sizeof" declaration.size, knownNumber "$alignof" declaration.align] ++
    ofTags tags

/-- Constructors come before the other methods, both in the order of declaration. -/
def constructorsFirst (methods : List Function) : List Function :=
  methods.filter (·.role == .constructor) ++ methods.filter (·.role != .constructor)

theorem mem_constructorsFirst {methods : List Function} {method : Function} :
    method ∈ constructorsFirst methods ↔ method ∈ methods := by
  simp only [constructorsFirst, List.mem_append, List.mem_filter]
  cases role : method.role == .constructor <;> simp [role, bne]

def ofRecord (names defined : List CodeText) (ordinal : Nat) (declaration : Record)
    (tags : TagList) : List Entry × Nat :=
  let bases := listBases defined {} 0 declaration.bases.items
  let fields := listFields names bases.slots ordinal declaration.fields.items
  let methods :=
    listMethods names fields.slots 0 (constructorsFirst declaration.methods.items)
  (ofHeader declaration tags ++ bases.entries ++ fields.entries ++ methods.entries,
    fields.ordinal)

def ofStub (awaited : AwaitedRecord) : List Entry :=
  ofLocation awaited.declaration.location ++ flag "incomplete" true ++ ofTags awaited.tags

/-! ## What a walk goes by -/

theorem visible_eq (tags : TagList) : Tag.visible tags = shownTags tags := rfl

theorem scalar_tagScalar (value : TagValue) : .scalar (Walk.tagScalar value) = ofTagValue value := by
  cases value <;> rfl

theorem unresolved_eq : Walk.unresolved = -1 := rfl

theorem traitKeys_eq (flags : FunctionTraits) : Walk.traitKeys flags = traits flags := rfl

theorem ofAccess_eq (access : Option Access) :
    ofAccess access = text "access" (.ofString (access.getD .pub).name) := by
  rcases access with _ | _ | _ | _ <;> rfl

theorem constructorsFirst_eq (methods : List Function) :
    Walk.constructorsFirst methods = constructorsFirst methods := rfl

end Entries

/-! ## Declarations without faults -/

def IsWritableNumber (value : Option Int) : Prop :=
  ∀ n, value = some n → Text.Integer.isWritable n = true

def TagList.IsWritable (tags : TagList) : Prop :=
  ∀ values ∈ tags, ∀ n, TagValue.integer n ∈ values → Text.Integer.isWritable n = true

def Tag.IsClean (names : List CodeText) (attributes : List Attribute) : Prop :=
  ∃ tags : TagList, Tag.values names attributes = .ok tags ∧ TagList.IsWritable tags

def Parameter.IsClean (names : List CodeText) (parameter : Parameter) : Prop :=
  Tag.IsClean names parameter.attributes

def Function.IsClean (names : List CodeText) (declaration : Function) : Prop :=
  Tag.IsClean names declaration.attributes ∧
    ∀ parameter ∈ declaration.parameters.items, parameter.IsClean names

def Field.IsClean (names : List CodeText) (field : Field) : Prop :=
  IsWritableNumber field.type.size ∧ IsWritableNumber field.type.align ∧
    IsWritableNumber field.bitOffset ∧ IsWritableNumber field.bitWidth ∧
    Tag.IsClean names field.type.attributes

def Record.IsClean (names : List CodeText) (declaration : Record) : Prop :=
  Text.Integer.isWritable declaration.location.line = true ∧
    IsWritableNumber declaration.size ∧ IsWritableNumber declaration.align ∧
    Tag.IsClean names declaration.attributes ∧
    (∀ field ∈ declaration.fields.items, field.IsClean names) ∧
    ∀ method ∈ declaration.methods.items, method.IsClean names

def Declaration.IsClean (names : List CodeText) : Declaration → Prop
  | record declaration => declaration.IsClean names
  | function declaration =>
    Text.Integer.isWritable declaration.location.line = true ∧ declaration.IsClean names
  | _ => True

def Record.IsCalm (declaration : Record) : Prop :=
  declaration.bases.fault = none ∧ declaration.fields.fault = none ∧
    declaration.methods.fault = none ∧
    ∀ method ∈ declaration.methods.items, method.parameters.fault = none

def Declaration.IsCalm : Declaration → Prop
  | record declaration => declaration.IsCalm
  | function declaration => declaration.parameters.fault = none
  | _ => True

instance (declaration : Record) : Decidable declaration.IsCalm :=
  inferInstanceAs (Decidable (_ ∧ _ ∧ _ ∧ _))

instance : (declaration : Declaration) → Decidable declaration.IsCalm
  | .record declaration => inferInstanceAs (Decidable declaration.IsCalm)
  | .function declaration => inferInstanceAs (Decidable (declaration.parameters.fault = none))
  | .field _ | .parameter _ | .base _ => isTrue trivial

end TypeCatalog
