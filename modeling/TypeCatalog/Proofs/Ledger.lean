import TypeCatalog.Proofs.BlockDrawing

/-!
# The ledger of a walk

What a catalog decides by: the anchors defined, the keys claimed, the
signatures seen and the forward declarations carried.  Whether a declaration
gets a block, and how the ledger changes for it, depends on the ledger and the
declaration alone; what is left to the walk is the text of the block and how
much of it is written before a fault.
-/

namespace TypeCatalog

open Document
open Text (CodeText)

structure Ledger where
  dumpAll : Bool
  names : List CodeText
  defined : List CodeText
  ordinal : Nat
  keys : UniqueKeys
  signatures : List Signature
  awaited : List AwaitedRecord

def Catalog.ledger (catalog : Catalog) : Ledger where
  dumpAll := catalog.dumpAll
  names := catalog.tagNames
  defined := catalog.identities.defined
  ordinal := catalog.identities.ordinal
  keys := catalog.keys
  signatures := catalog.signatures
  awaited := catalog.awaited

def Record.canonical? (declaration : Record) : Option CodeText :=
  (Text.proper? declaration.name).map Identities.namedType

def Function.signature (declaration : Function) : Signature :=
  (declaration.name, declaration.parameters.items.map (·.type.name))

structure Header where
  key : CodeText
  canonical : CodeText
  tags : TagList

namespace Ledger

def carried? (ledger : Ledger) (declaration : Record) : Option AwaitedRecord :=
  declaration.canonical?.bind fun canonical =>
    ledger.awaited.find? (·.canonical == canonical)

/-- The tags of the forward declarations of a record, then its own. -/
def tagsFor (ledger : Ledger) (declaration : Record) (own : TagList) : TagList :=
  ((ledger.carried? declaration).map (·.tags)).getD [] ++ own

def carry (ledger : Ledger) (declaration : Record) (canonical : CodeText) (tags : TagList) :
    Ledger :=
  { ledger with
    awaited :=
      if (ledger.carried? declaration).isNone then
        ledger.awaited ++ [⟨canonical, declaration, tags⟩]
      else ledger.awaited.map fun entry =>
        if entry.canonical == canonical then { entry with tags } else entry }

def await (ledger : Ledger) (declaration : Record) (own : TagList) : Ledger :=
  match declaration.canonical? with
  | none => ledger
  | some canonical =>
    if ledger.defined.contains canonical then ledger
    else if !Tag.isEligible (ledger.tagsFor declaration own) ledger.dumpAll then ledger
    else ledger.carry declaration canonical (ledger.tagsFor declaration own)

def identify (ledger : Ledger) (declaration : Record) : CodeText × Ledger :=
  match declaration.canonical? with
  | some canonical =>
    (canonical, { ledger with awaited := ledger.awaited.filter (·.canonical != canonical) })
  | none =>
    (unknownName (ledger.ordinal + 1), { ledger with ordinal := ledger.ordinal + 1 })

def publish (ledger : Ledger) (declaration : Record) (canonical : CodeText) (tags : TagList) :
    Ledger × Header :=
  let (key, keys) := ledger.keys.claim ((Text.proper? declaration.name).getD canonical)
  ({ ledger with defined := canonical :: ledger.defined, keys }, { key, canonical, tags })

def define (ledger : Ledger) (declaration : Record) (own : TagList) : Ledger × Option Header :=
  let tags := ledger.tagsFor declaration own
  if !Tag.isEligible tags ledger.dumpAll then (ledger, none)
  else
    let (canonical, ledger) := ledger.identify declaration
    if ledger.defined.contains canonical then (ledger, none)
    else
      let (ledger, header) := ledger.publish declaration canonical tags
      (ledger, some header)

def functionName (ledger : Ledger) (declaration : Function) : CodeText × Nat :=
  match Text.proper? declaration.name with
  | some name => (name, ledger.ordinal)
  | none => (unknownName (ledger.ordinal + 1), ledger.ordinal + 1)

def enter (ledger : Ledger) (declaration : Function) : CodeText × Ledger :=
  let (name, ordinal) := ledger.functionName declaration
  let (key, keys) := ledger.keys.claim name
  (key,
    { ledger with ordinal, keys, signatures := declaration.signature :: ledger.signatures })

end Ledger

/-! ## What a definition does to the ledger -/

namespace Ledger

variable (ledger : Ledger) (declaration : Record) (own : TagList)

theorem identify_eq :
    (ledger.identify declaration).2 =
      { ledger with
        awaited := (ledger.identify declaration).2.awaited
        ordinal := (ledger.identify declaration).2.ordinal } := by
  unfold identify
  rcases declaration.canonical? with _ | canonical <;> rfl

@[simp] theorem identify_names : (ledger.identify declaration).2.names = ledger.names := by
  rw [identify_eq]

@[simp] theorem identify_dumpAll : (ledger.identify declaration).2.dumpAll = ledger.dumpAll := by
  rw [identify_eq]

@[simp] theorem identify_defined : (ledger.identify declaration).2.defined = ledger.defined := by
  rw [identify_eq]

@[simp] theorem identify_keys : (ledger.identify declaration).2.keys = ledger.keys := by
  rw [identify_eq]

@[simp] theorem identify_signatures :
    (ledger.identify declaration).2.signatures = ledger.signatures := by
  rw [identify_eq]

theorem await_eq :
    ledger.await declaration own =
      { ledger with awaited := (ledger.await declaration own).awaited } := by
  unfold await
  rcases declaration.canonical? with _ | canonical
  · rfl
  · dsimp only
    split
    · rfl
    · split <;> rfl

@[simp] theorem await_names : (ledger.await declaration own).names = ledger.names := by
  rw [await_eq]

@[simp] theorem await_dumpAll : (ledger.await declaration own).dumpAll = ledger.dumpAll := by
  rw [await_eq]

@[simp] theorem await_defined : (ledger.await declaration own).defined = ledger.defined := by
  rw [await_eq]

@[simp] theorem await_keys : (ledger.await declaration own).keys = ledger.keys := by
  rw [await_eq]

@[simp] theorem await_signatures :
    (ledger.await declaration own).signatures = ledger.signatures := by
  rw [await_eq]

variable {ledger declaration own}

theorem identify_named {canonical : CodeText} (named : declaration.canonical? = some canonical) :
    ledger.identify declaration =
      (canonical,
        { ledger with awaited := ledger.awaited.filter (·.canonical != canonical) }) := by
  simp only [identify, named]

theorem identify_unnamed (unnamed : declaration.canonical? = none) :
    ledger.identify declaration =
      (unknownName (ledger.ordinal + 1), { ledger with ordinal := ledger.ordinal + 1 }) := by
  simp only [identify, unnamed]

theorem mem_carry {canonical : CodeText} {tags : TagList}
    {awaited : AwaitedRecord} (mem : awaited ∈ (ledger.carry declaration canonical tags).awaited) :
    awaited = ⟨canonical, declaration, tags⟩ ∨
      awaited ∈ ledger.awaited ∨
      ∃ entry ∈ ledger.awaited, awaited = { entry with tags } := by
  unfold carry at mem
  dsimp only at mem
  split at mem
  · rcases List.mem_append.mp mem with mem | mem
    · exact .inr (.inl mem)
    · exact .inl (List.mem_singleton.mp mem)
  · obtain ⟨entry, held, rfl⟩ := List.mem_map.mp mem
    split
    · exact .inr (.inr ⟨entry, held, rfl⟩)
    · exact .inr (.inl held)

theorem canonicals_carry {canonical : CodeText} {tags : TagList}
    (named : declaration.canonical? = some canonical) :
    let waiting := ledger.awaited.map (·.canonical)
    (canonical ∉ waiting ∧
        (ledger.carry declaration canonical tags).awaited.map (·.canonical) = waiting ++ [canonical]) ∨
      canonical ∈ waiting ∧
        (ledger.carry declaration canonical tags).awaited.map (·.canonical) = waiting := by
  intro waiting
  have carried_eq : ledger.carried? declaration =
      ledger.awaited.find? (·.canonical == canonical) := by
    simp [carried?, named]
  rcases found : ledger.awaited.find? (·.canonical == canonical) with _ | entry <;>
    simp only [carry, carried_eq, found, Option.isNone_none, Option.isNone_some,
      Bool.false_eq_true, ↓reduceIte]
  · left
    rw [List.find?_eq_none] at found
    refine ⟨?_, by simp [waiting]⟩
    simpa [waiting] using found
  · right
    have mem := List.mem_of_find?_eq_some found
    have canonical_eq : entry.canonical = canonical := by simpa using List.find?_some found
    refine ⟨List.mem_map.mpr ⟨entry, mem, canonical_eq⟩, ?_⟩
    simp only [List.map_map, waiting]
    apply List.map_congr_left
    intro other _
    simp only [Function.comp_apply]
    split <;> rfl

theorem define_none {after : Ledger} (decided : ledger.define declaration own = (after, none)) :
    (Tag.isEligible (ledger.tagsFor declaration own) ledger.dumpAll = false ∧ after = ledger) ∨
      Tag.isEligible (ledger.tagsFor declaration own) ledger.dumpAll = true ∧
        (ledger.identify declaration).1 ∈ ledger.defined ∧
        after = (ledger.identify declaration).2 := by
  rcases eligible : Tag.isEligible (ledger.tagsFor declaration own) ledger.dumpAll with _ | _
  · simp only [define, eligible, Bool.not_false, ↓reduceIte, Prod.mk.injEq, and_true] at decided
    exact .inl ⟨rfl, decided.symm⟩
  · simp only [define, eligible, Bool.not_true, Bool.false_eq_true, ↓reduceIte,
      identify_defined] at decided
    split at decided
    · rename_i known
      exact .inr ⟨rfl, List.contains_iff_mem.mp known, (Prod.ext_iff.mp decided).1.symm⟩
    · cases decided

theorem define_some {next : Ledger} {header : Header}
    (decided : ledger.define declaration own = (next, some header)) :
    Tag.isEligible (ledger.tagsFor declaration own) ledger.dumpAll = true ∧
      (ledger.identify declaration).1 ∉ ledger.defined ∧
      (next, header) = (ledger.identify declaration).2.publish declaration
        (ledger.identify declaration).1 (ledger.tagsFor declaration own) := by
  rcases eligible : Tag.isEligible (ledger.tagsFor declaration own) ledger.dumpAll with _ | _
  · simp [define, eligible] at decided
  · simp only [define, eligible, Bool.not_true, Bool.false_eq_true, ↓reduceIte,
      identify_defined] at decided
    split at decided
    · cases decided
    · rename_i fresh
      refine ⟨rfl, fun mem => fresh (List.contains_iff_mem.mpr mem), ?_⟩
      cases decided
      rfl

end Ledger

/-! ## Documenting a declaration -/

/-- What a walk makes of a top-level declaration: the result, the ledger after it and the
blocks written for it, at most one.  A block may be cut off by a fault. -/
inductive Ledger.Documents (before : Ledger) :
    Declaration → Except WalkFault Bool → Ledger → List Block → Prop
  | ignored {declaration : Declaration} (notRecord : ∀ record, declaration ≠ .record record)
      (notFunction : ∀ function, declaration ≠ .function function) :
      Documents before declaration (.ok false) before []
  | unread {declaration : Declaration} {fault : LiteralFault}
      (documentable : (∃ record, declaration = .record record) ∨
        ∃ function, declaration = .function function)
      (reading : (Tag.ofDeclaration before.names declaration).result = .error fault) :
      Documents before declaration (.error (.literal fault)) before []
  | forward {record : Record} {own : TagList}
      (reading : (Tag.ofAttributes before.names record.attributes).result = .ok own)
      (incomplete : record.complete = false) :
      Documents before (.record record) (.ok false) (before.await record own) []
  | passed {record : Record} {own : TagList} {after : Ledger}
      (reading : (Tag.ofAttributes before.names record.attributes).result = .ok own)
      (complete : record.complete = true) (decided : before.define record own = (after, none)) :
      Documents before (.record record) (.ok false) after []
  | defined {record : Record} {own : TagList} {next : Ledger} {header : Header}
      {entries : List Entry} {ordinal : Nat} {result : Except WalkFault Bool}
      (reading : (Tag.ofAttributes before.names record.attributes).result = .ok own)
      (complete : record.complete = true)
      (decided : before.define record own = (next, some header))
      (handed : next.ordinal ≤ ordinal)
      (bases : entries.filterMap baseBlock? <+:
        record.bases.items.map (Entries.ofBase next.defined))
      (accepted : record.IsClean before.names → TagList.IsWritable header.tags →
        ∀ fault, result = .error fault → fault.IsHost)
      (exactly : record.IsClean before.names → TagList.IsWritable header.tags → record.IsCalm →
        (entries, ordinal) =
          Entries.ofRecord before.names next.defined next.ordinal record header.tags)
      (begins : Tree.EntriesBegin entries
        (Entries.ofRecord before.names next.defined next.ordinal record header.tags).1)
      (headed : (∀ fault, result = .error fault → fault.IsHost) →
        Entries.ofHeader record header.tags <+: entries) :
      Documents before (.record record) result { next with ordinal }
        [⟨header.key, .struct, some header.canonical, entries⟩]
  | ineligible {function : Function} {own : TagList}
      (reading : (Tag.ofAttributes before.names function.attributes).result = .ok own)
      (skipped : Tag.isEligible own before.dumpAll = false) :
      Documents before (.function function) (.ok false) before []
  | aborted {function : Function} {own : TagList} {message : CodeText}
      {result : Except WalkFault Bool}
      (reading : (Tag.ofAttributes before.names function.attributes).result = .ok own)
      (fault : function.parameters.fault = some message)
      (accepted : ∀ fault, result = .error fault → fault.IsHost) :
      Documents before (.function function) result before []
  | repeated {function : Function} {own : TagList}
      (reading : (Tag.ofAttributes before.names function.attributes).result = .ok own)
      (calm : function.parameters.fault = none)
      (seen : function.signature ∈ before.signatures) :
      Documents before (.function function) (.ok false) before []
  | entered {function : Function} {own : TagList} {entries : List Entry} {ordinal : Nat}
      {result : Except WalkFault Bool}
      (reading : (Tag.ofAttributes before.names function.attributes).result = .ok own)
      (eligible : Tag.isEligible own before.dumpAll = true)
      (calm : function.parameters.fault = none)
      (fresh : function.signature ∉ before.signatures)
      (handed : (before.enter function).2.ordinal ≤ ordinal)
      (bases : entries.filterMap baseBlock? = [])
      (accepted : Text.Integer.isWritable function.location.line = true →
        function.IsClean before.names → (∃ written, result = .ok written) ∧
          ordinal = (before.enter function).2.ordinal ∧
          entries = Entries.ofLocation function.location ++
            Entries.ofFunction before.names function own)
      (begins : Tree.EntriesBegin entries
        (Entries.ofLocation function.location ++ Entries.ofFunction before.names function own)) :
      Documents before (.function function) result { (before.enter function).2 with ordinal }
        [⟨(before.enter function).1, .function, none, entries⟩]

end TypeCatalog
