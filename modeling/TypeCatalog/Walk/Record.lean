import TypeCatalog.Walk.Function

/-!
# Records in a walk

The first definition of a type that is eligible is documented, with an anchor
for its canonical name; later ones are duplicates.  Tags of forward
declarations wait for the definition.
-/

namespace TypeCatalog.Walk

open Document
open Text (CodeText)

def writeBase (base : Base) : Walk Unit := do
  scalar "access" (.ofString (base.access.getD .pub).name)
  flag "virtual" base.virtual
  scalar "name" (.text (base.type.name.getD ""))
  match Text.proper? base.type.name with
  | none => pure ()
  | some name =>
    match (← catalog).identities.reference? (Identities.namedType name) with
    | some anchor => line (·.reference "ref" anchor)
    | none => report .debug ("Base " ++ name ++ " not dumped yet; no reference")

def writeField (field : Field) (owner : CodeText) (slots : UniqueKeys) : Walk UniqueKeys := do
  let name := Text.proper? field.name
  let slot ← match name with
    | some name => pure name
    | none => identities Identities.anonymousMember
  let (key, slots) := slots.claim (slot ++ "$")
  mapping key "field" none do
    match name with
    | some name => scalar "name" (.text name)
    | none => pure ()
    match Text.proper? field.type.name with
    | some type => scalar "type" (.text type)
    | none => pure ()
    let what := owner ++ "." ++ slot
    scalar "size" (.int (← resolved field.type.size "size" what))
    scalar "align" (.int (← resolved field.type.align "alignment" what))
    let offset ← resolved field.bitOffset "offset" what
    scalar "offset" (.int offset)
    scalar "boffset" (.int (if offset == unresolved then unresolved else offset % 8))
    flag "artificial" field.artificial
    flag "unknown" name.isNone
    match field.bitWidth with
    | some width =>
      flag "bitfield" true
      scalar "width" (.int width)
    | none => pure ()
    writeTags (← tagsOf (.field field))
  return slots

def writeBases (slots : UniqueKeys) : Nat → List Base → Walk UniqueKeys
  | _, [] => return slots
  | index, base :: rest => do
    let (key, slots) := slots.claim ("base_" ++ toString index ++ "$")
    mapping key "base" none (writeBase base)
    writeBases slots (index + 1) rest

def writeFields (owner : CodeText) (slots : UniqueKeys) : List Field → Walk UniqueKeys
  | [] => return slots
  | field :: rest => do
    writeFields owner (← writeField field owner slots) rest

def writeMethods (slots : UniqueKeys) : Nat → List Function → Walk UniqueKeys
  | _, [] => return slots
  | index, method :: rest => do
    let (key, slots) := slots.claim ("method_" ++ toString index ++ "$")
    mapping key "method" none (writeMethod method)
    writeMethods slots (index + 1) rest

def faultOf {α : Type} (members : Members α) : Walk Unit :=
  match members.fault with
  | some message => throw (.host message)
  | none => pure ()

/-- Constructors come before the other methods, both in the order of declaration. -/
def constructorsFirst (methods : List Function) : List Function :=
  methods.filter (·.role == .constructor) ++ methods.filter (·.role != .constructor)

def writeRecord (key canonical : CodeText) (declaration : Record) (tags : TagList) : Walk Unit :=
  mapping key "struct" (some canonical) do
    let name := (Text.proper? declaration.name).getD canonical
    writeLocation declaration.location
    scalar "$sizeof" (.int (← resolved declaration.size "size" name))
    scalar "$alignof" (.int (← resolved declaration.align "alignment" name))
    writeTags tags
    let slots ← writeBases {} 0 declaration.bases.items
    faultOf declaration.bases
    let slots ← writeFields name slots declaration.fields.items
    faultOf declaration.fields
    let methods ← allMembers declaration.methods
    discard <| writeMethods slots 0 (constructorsFirst methods)

def awaited? (canonical : CodeText) : Walk (Option AwaitedRecord) :=
  return (← catalog).awaited.find? (·.canonical == canonical)

/-- A forward declaration of a named type: its tags are kept for the definition. -/
def awaitDefinition (declaration : Record) (canonical : CodeText) (tags : TagList) :
    Walk Unit := do
  if (← catalog).identities.knows canonical then return
  let awaited ← awaited? canonical
  let merged := (awaited.map (·.tags)).getD [] ++ tags
  if !Tag.isEligible merged (← catalog).dumpAll then
    modifyStats fun stats => { stats with skipped := stats.skipped + 1 }
    return
  modifyCatalog fun catalog =>
    { catalog with
      awaited :=
        if awaited.isNone then catalog.awaited ++ [⟨canonical, declaration, merged⟩]
        else catalog.awaited.map fun entry =>
          if entry.canonical == canonical then { entry with tags := merged } else entry }
  report .debug
    ("Forward declaration of " ++ (Declaration.record declaration).shown ++ " carried")

def documentRecord (declaration : Record) : Walk Bool := do
  let ownTags ← tagsOf (.record declaration)
  let canonical? := (Text.proper? declaration.name).map Identities.namedType
  if !declaration.complete then
    match canonical? with
    | some canonical => awaitDefinition declaration canonical ownTags
    | none => pure ()
    return false
  let awaited ← match canonical? with
    | some canonical => awaited? canonical
    | none => pure none
  let tags := (awaited.map (·.tags)).getD [] ++ ownTags
  if !Tag.isEligible tags (← catalog).dumpAll then
    modifyStats fun stats => { stats with skipped := stats.skipped + 1 }
    return false
  let canonical ← match canonical? with
    | some canonical =>
      modifyCatalog fun catalog =>
        { catalog with awaited := catalog.awaited.filter (·.canonical != canonical) }
      pure canonical
    | none => identities Identities.unknownType
  if !(← identities (·.introduce canonical)) then
    report .info ("Type " ++ (Declaration.record declaration).shown ++
      " already dumped, ignoring redeclaration")
    modifyStats fun stats => { stats with duplicates := stats.duplicates + 1 }
    return false
  report .debug ("Defined identity " ++ canonical) Channel.identity
  let (key, keys) := (← catalog).keys.claim ((Text.proper? declaration.name).getD canonical)
  modifyCatalog ({ · with keys })
  writeRecord key canonical declaration tags
  modifyStats fun stats => { stats with recordsEmitted := stats.recordsEmitted + 1 }
  return true

end TypeCatalog.Walk
