import TypeCatalog.Proofs.CleanRun
import TypeCatalog.Proofs.Loading

/-!
# Documents read back

What a document is to say about declarations can be computed from them, block
by block.  If everything in these blocks can be written, the run ends well,
writes exactly them, and reading the document gives them back.
-/

namespace TypeCatalog

open Document
open Text (CodeText)

/-! ## The blocks of declarations -/

namespace Ledger

def planRecord (ledger : Ledger) (record : Record) : Ledger × List Block :=
  let own := Tag.read ledger.names record.attributes
  if !record.complete then (ledger.await record own, [])
  else
    match ledger.define record own with
    | (after, none) => (after, [])
    | (next, some header) =>
      let (entries, ordinal) :=
        Entries.ofRecord ledger.names next.defined next.ordinal record header.tags
      ({ next with ordinal }, [⟨header.key, .struct, some header.canonical, entries⟩])

def planFunction (ledger : Ledger) (function : Function) : Ledger × List Block :=
  let own := Tag.read ledger.names function.attributes
  if !Tag.isEligible own ledger.dumpAll || ledger.signatures.contains function.signature then
    (ledger, [])
  else
    let (key, after) := ledger.enter function
    (after, [⟨key, .function, none,
      Entries.ofLocation function.location ++ Entries.ofFunction ledger.names function own⟩])

def plan (ledger : Ledger) : Declaration → Ledger × List Block
  | .record record => ledger.planRecord record
  | .function function => ledger.planFunction function
  | _ => (ledger, [])

def planAll (ledger : Ledger) : List Declaration → Ledger × List Block
  | [] => (ledger, [])
  | declaration :: rest =>
    let (middle, blocks) := ledger.plan declaration
    let (after, others) := middle.planAll rest
    (after, blocks ++ others)

end Ledger

def planStubs (keys : UniqueKeys) : List AwaitedRecord → List Block
  | [] => []
  | awaited :: rest =>
    let (key, keys) := awaited.claim keys
    ⟨key, .struct, none, Entries.ofStub awaited⟩ :: planStubs keys rest

/-- The blocks that the document of declarations consists of. -/
def planDocument (groups : List (List Declaration)) (dumpAll : Bool) (names : List CodeText) :
    List Block :=
  let (after, blocks) := (Ledger.fresh dumpAll names).planAll groups.flatten
  blocks ++ planStubs after.keys after.awaited

def Document.Block.Fits (block : Block) : Prop :=
  Entries.Fit block.entries

instance (block : Block) : Decidable block.Fits :=
  inferInstanceAs (Decidable (Entries.Fit block.entries))

/-! ## A run follows the plan -/

namespace Ledger

variable {before after : Ledger} {blocks : List Block}

theorem planRecord_defined {record : Record} {own : TagList} {next : Ledger} {header : Header}
    (reading : (Tag.ofAttributes before.names record.attributes).result = .ok own)
    (complete : record.complete = true)
    (decided : before.define record own = (next, some header)) :
    before.planRecord record =
      let (entries, ordinal) :=
        Entries.ofRecord before.names next.defined next.ordinal record header.tags
      ({ next with ordinal }, [⟨header.key, .struct, some header.canonical, entries⟩]) := by
  simp only [planRecord, Tag.read_of_result reading, complete, Bool.not_true, Bool.false_eq_true,
    ↓reduceIte, decided]

theorem Documents.plan {declaration : Declaration} {result : Except WalkFault Bool}
    (documented : before.Documents declaration result after blocks)
    (readable : declaration.IsReadable before.names) (calm : declaration.IsCalm)
    (fits : ∀ block ∈ (before.plan declaration).2, block.Fits) :
    (∀ fault, result = .error fault → fault.IsHost) ∧
      (after, blocks) = before.plan declaration := by
  cases documented with
  | ignored notRecord notFunction =>
      refine ⟨by simp, ?_⟩
      cases declaration with
      | record record => exact absurd rfl (notRecord record)
      | function function => exact absurd rfl (notFunction function)
      | _ => rfl
  | unread documentable reading =>
      have readable_own : Tag.IsReadable before.names declaration.attributes := by
        rcases documentable with ⟨record, rfl⟩ | ⟨function, rfl⟩
        · exact readable.1
        · exact readable.1
      obtain ⟨tags, tags_eq⟩ := readable_own
      rw [← Tag.result_ofAttributes, ← Tag.ofDeclaration, reading] at tags_eq
      cases tags_eq
  | forward reading incomplete =>
      refine ⟨by simp, ?_⟩
      simp [Ledger.plan, planRecord, Tag.read_of_result reading, incomplete]
  | passed reading complete decided =>
      refine ⟨by simp, ?_⟩
      simp [Ledger.plan, planRecord, Tag.read_of_result reading, complete, decided]
  | @defined record own next header entries ordinal result reading complete decided handed bases
      accepted exactly =>
      have planned := planRecord_defined reading complete decided
      -- the planned numbers can be written, so all that was to be written has been
      have tags_eq : header.tags = before.tagsFor record own := by
        obtain ⟨-, -, published⟩ := define_some decided
        cases published
        rfl
      have fit : Entries.Fit
          (Entries.ofRecord before.names next.defined next.ordinal record header.tags).1 := by
        refine fits ⟨header.key, .struct, some header.canonical, _⟩ ?_
        simp [Ledger.plan, planned]
      rw [tags_eq] at fit accepted exactly
      obtain ⟨clean, writable⟩ :=
        Entries.Fit.ofRecord readable (Tag.result_ofAttributes _ _ ▸ reading) fit
      refine ⟨accepted clean writable, ?_⟩
      rw [Ledger.plan, planned, tags_eq, ← exactly clean writable calm]
  | ineligible reading skipped =>
      refine ⟨by simp, ?_⟩
      simp [Ledger.plan, planFunction, Tag.read_of_result reading, skipped]
  | aborted reading fault => cases fault.symm.trans calm
  | repeated reading calm seen =>
      refine ⟨by simp, ?_⟩
      simp [Ledger.plan, planFunction, seen]
  | @entered function own entries ordinal result reading eligible calm fresh handed bases
      accepted =>
      have planned : before.planFunction function = ((before.enter function).2,
          [⟨(before.enter function).1, .function, none, Entries.ofLocation function.location ++
            Entries.ofFunction before.names function own⟩]) := by
        simp [planFunction, Tag.read_of_result reading, eligible, fresh]
      have fit : Entries.Fit (Entries.ofLocation function.location ++
          Entries.ofFunction before.names function own) := by
        refine fits ⟨(before.enter function).1, .function, none, _⟩ ?_
        simp [Ledger.plan, planned]
      obtain ⟨place, rest⟩ := Entries.fit_append.mp fit
      obtain ⟨parameters, tags⟩ := Entries.Fit.ofFunction readable.2 rest
      obtain ⟨⟨written, rfl⟩, rfl, rfl⟩ :=
        accepted place.ofLocation
          ⟨⟨own, Tag.result_ofAttributes _ _ ▸ reading, tags.ofTags⟩, parameters⟩
      exact ⟨by simp, by rw [Ledger.plan, planned]⟩

theorem Documents.names {declaration : Declaration} {result : Except WalkFault Bool}
    (documented : before.Documents declaration result after blocks) :
    after.names = before.names := by
  cases documented with
  | ignored | unread | ineligible | aborted | repeated | entered => rfl
  | forward => exact await_names _ _ _
  | @passed record own _ reading complete decided =>
      rcases define_none decided with ⟨-, rfl⟩ | ⟨-, -, rfl⟩
      · rfl
      · exact identify_names _ _
  | @defined record own next header entries ordinal result reading complete decided =>
      obtain ⟨-, -, published⟩ := define_some decided
      cases published
      exact identify_names _ _

theorem Runs.planAll {declarations : List Declaration} {result : Except WalkFault Unit}
    (runs : before.Runs declarations result after blocks)
    (readable : ∀ declaration ∈ declarations, declaration.IsReadable before.names)
    (calm : ∀ declaration ∈ declarations, declaration.IsCalm)
    (fits : ∀ block ∈ (before.planAll declarations).2, block.Fits) :
    result = .ok () ∧ (after, blocks) = before.planAll declarations := by
  induction runs with
  | done => exact ⟨rfl, rfl⟩
  | fails abroad documented =>
      have accepted := (documented.plan (readable _ (by simp)) (calm _ (by simp))
        fun block mem => fits block (by simp [Ledger.planAll, mem])).1
      exact absurd (accepted _ rfl) abroad
  | @step before middle after declaration rest written result blocks others documented later ih =>
      have planned := (documented.plan (readable _ (by simp)) (calm _ (by simp))
        fun block mem => fits block (by simp [Ledger.planAll, mem])).2
      have fits_later (block : Block) (mem : block ∈ (middle.planAll rest).2) : block.Fits := by
        refine fits block ?_
        rw [Ledger.planAll, ← planned]
        exact List.mem_append_right _ mem
      obtain ⟨done, planned_later⟩ := ih
        (fun other mem => documented.names ▸ readable other (by simp [mem]))
        (fun other mem => calm other (by simp [mem])) fits_later
      refine ⟨done, ?_⟩
      rw [Ledger.planAll, ← planned]
      dsimp only
      rw [← planned_later]

end Ledger

theorem Stubs.planStubs {keys after : UniqueKeys} {awaited : List AwaitedRecord}
    {result : Except WalkFault Unit} {blocks : List Block}
    (stubs : Stubs keys awaited result after blocks)
    (fits : ∀ block ∈ TypeCatalog.planStubs keys awaited, block.Fits) :
    result = .ok () ∧ blocks = TypeCatalog.planStubs keys awaited := by
  induction stubs with
  | done => exact ⟨rfl, rfl⟩
  | fails unclean =>
      have fit : Entries.Fit (Entries.ofStub _) := fits _ List.mem_cons_self
      exact absurd fit.ofStub unclean
  | step later begins ih =>
      obtain ⟨done, rfl⟩ := ih fun block mem => fits block (List.mem_cons_of_mem _ mem)
      exact ⟨done, rfl⟩

/-! ## Reading back -/

theorem kind_planAll (ledger : Ledger) (declarations : List Declaration) :
    ∀ block ∈ (ledger.planAll declarations).2, block.kind = .struct ∨ block.kind = .function := by
  have single (ledger : Ledger) (declaration : Declaration) :
      ∀ block ∈ (ledger.plan declaration).2, block.kind = .struct ∨ block.kind = .function := by
    cases declaration with
    | record record =>
        simp only [Ledger.plan, Ledger.planRecord]
        split
        · simp
        · split <;> simp
    | function function =>
        simp only [Ledger.plan, Ledger.planFunction]
        split <;> simp
    | _ => simp [Ledger.plan]
  induction declarations generalizing ledger with
  | nil => simp [Ledger.planAll]
  | cons declaration rest ih =>
      intro block mem
      rcases List.mem_append.mp mem with mem | mem
      · exact single ledger declaration block mem
      · exact ih _ block mem

theorem kind_planStubs (keys : UniqueKeys) (awaited : List AwaitedRecord) :
    ∀ block ∈ planStubs keys awaited, block.kind = .struct := by
  induction awaited generalizing keys with
  | nil => simp [planStubs]
  | cons first rest ih =>
      intro block mem
      rcases List.mem_cons.mp mem with rfl | mem
      · rfl
      · exact ih _ block mem

theorem Document.Block.ShownBy.keys {loaded : Yaml.Loaded} {targets : List (CodeText × Yaml.Value)}
    {read : List (Yaml.Scalar × Yaml.Value)} {blocks : List Block}
    (shown : Block.ShownBy loaded targets read blocks) :
    read.map (·.1) = blocks.map (.text ·.key) := by
  induction blocks generalizing targets read with
  | nil =>
      cases shown
      rfl
  | cons block rest ih =>
      obtain ⟨value, others, rfl, -, later⟩ := shown
      rw [List.map_cons, List.map_cons, ih later]

/-- If all that a document is to say can be written, with keys that can be read, and no record
names itself as a base, the run ends well and the document reads back as what it is to say: its
entries are the planned blocks in order, and every reference is the value of an earlier one. -/
theorem document_reads_back (groups : List (List Declaration)) (dumpAll : Bool)
    (tagNames : List CodeText)
    (calm : ∀ declaration ∈ groups.flatten, declaration.IsCalm)
    (readable : ∀ declaration ∈ groups.flatten, declaration.IsReadable tagNames)
    (fits : ∀ block ∈ planDocument groups dumpAll tagNames, block.Fits)
    (short : ∀ block ∈ planDocument groups dumpAll tagNames, ∀ key ∈ block.keys, IsShortKey key)
    (apart : ∀ declaration ∈ groups.flatten, ¬declaration.NamesItself) :
    let run := documentGroups groups dumpAll tagNames
    let blocks := planDocument groups dumpAll tagNames
    run.result = .ok () ∧ ∃ loaded read,
      load (.ofString (Event.document run.events)) = .ok loaded ∧
      loaded.objectOf? loaded.root = some (.mapping none read) ∧
      read.map (·.1) = blocks.map (.text ·.key) ∧
      (∀ block ∈ blocks, block.kind = .struct ∨ block.kind = .function) ∧
      Block.ShownBy loaded [] read blocks := by
  intro run planned
  obtain ⟨middle, walked, blocks, stubs, text_eq, runs, ending⟩ :=
    documentGroups_blocks groups dumpAll tagNames
  obtain ⟨rfl, walked_eq⟩ := runs.planAll readable calm fun block mem =>
    fits block (List.mem_append_left _ mem)
  have planned_eq : planDocument groups dumpAll tagNames =
      blocks ++ planStubs middle.keys middle.awaited := by
    rw [planDocument, ← walked_eq]
  obtain ⟨done, rfl⟩ := ending.planStubs fun block mem =>
    fits block (planned_eq ▸ List.mem_append_right _ mem)
  obtain ⟨loaded, read, loads, root, shown⟩ :=
    runs.loads ending text_eq apart fun block mem => short block (planned_eq ▸ mem)
  rw [← planned_eq] at shown
  refine ⟨done, loaded, read, loads, root, shown.keys, fun block mem => ?_, shown⟩
  rcases List.mem_append.mp mem with mem | mem
  · exact kind_planAll _ _ block mem
  · exact .inl (kind_planStubs _ _ block mem)

/-- A record with a flagged method in front of its constructor, an empty tag and a nameless
bit-field; a record of unknown size with bases that are and are not written; a type that is never
defined; two functions of one name.  Nothing is said about an untagged record and about a
definition and a function that are declared again. -/
def taggedShapes : List (List Declaration) :=
  let tag (arguments : List Literal) : Attribute := { name := "compex_tag", arguments }
  let place (line : Int) : Location := ⟨"shape.h", line⟩
  let base (name : CodeText) (access : Option Access) (virtual : Bool) : Base :=
    { type := { name := some name }, access, virtual }
  [[.record
      { name := some "Shape", location := place 3, size := some 8, align := some 4,
        fields :=
          { items :=
              [{ name := some "id", type := { name := some "long", size := some 8 },
                 bitOffset := some 0 },
               { name := none, bitOffset := some 19, bitWidth := some 3, artificial := true,
                 type := { name := some "int", size := some 4, align := some 4 } }] },
        methods :=
          { items :=
              [{ name := some "area", location := place 5, role := .method,
                 flags := { const := true, virtual := true, variadic := true } },
               { name := some "Shape", location := place 6, role := .constructor,
                 flags := { explicit := true }, constructorKind := some .copy,
                 parameters :=
                   { items :=
                       [{ name := some "other", type := { name := some "const Shape&" },
                          attributes := [tag [⟨"string", .text "from"⟩]] }] } }] },
        attributes := [tag [⟨"string", .text "drawn"⟩, ⟨"integer", .integer 2⟩], tag []] }],
    [.record { name := some "Canvas", location := place 9, complete := false,
               attributes := [tag [⟨"integer", .integer (-1)⟩]] },
      .record { name := some "Hidden", location := place 10, size := some 1 },
      .record { name := some "Shape", location := place 11, attributes := [tag []] },
      .record
        { name := some "Circle", location := place 12, attributes := [tag []],
          bases := { items := [base "Shape" none false, base "Canvas" (some .priv) true] } },
      .function { name := some "draw", location := place 15, attributes := [tag []],
                  mangledName := some "_Z4draw" },
      .function { name := some "draw", location := place 16, attributes := [tag []],
                  parameters := { items := [{ name := none, type := { name := some "int" } }] },
                  flags := { static := true, noreturn := true } },
      .function { name := some "draw", location := place 17, attributes := [tag []],
                  mangledName := some "_Z5again" }]]

/-- What a document says about the shapes: the constructor comes before the other method, the
empty tags are left out, and the stub of the undefined type is last. -/
def taggedShapesBlocks : List Block :=
  let text (key : String) (value : CodeText) : Entry := (.ofString key, .scalar (.text value))
  let number (key : String) (value : Int) : Entry := (.ofString key, .scalar (.int value))
  let flag (key : String) : Entry := (.ofString key, .scalar (.bool true))
  let noArguments : Entry := ("args", .emptyList)
  [⟨"Shape", .struct, some "s_Shape",
      [text "$srcFile" "shape.h", number "$srcLine" 3, number "$sizeof" 8, number "$alignof" 4,
       ("tags", .list [.list [.scalar (.text "drawn"), .scalar (.int 2)]]),
       ("id$", .record .field
         [text "name" "id", text "type" "long", number "size" 8, number "align" (-1),
          number "offset" 0, number "boffset" 0]),
       ("anon_1$", .record .field
         [text "type" "int", number "size" 4, number "align" 4, number "offset" 19,
          number "boffset" 3, flag "artificial", flag "unknown", flag "bitfield",
          number "width" 3]),
       ("method_0$", .record .method
         [text "name" "Shape", flag "constructor", flag "explicit", flag "copy",
          ("args", .list [.record .param
            [text "name" "other", text "type" "const Shape&",
             ("tags", .list [.list [.scalar (.text "from")]])]])]),
       ("method_1$", .record .method
         [text "name" "area", flag "varargs", flag "const", flag "virtual", noArguments])]⟩,
    ⟨"Circle", .struct, some "s_Circle",
      [text "$srcFile" "shape.h", number "$srcLine" 12, number "$sizeof" (-1),
       number "$alignof" (-1),
       ("base_0$", .record .base
         [text "access" "public", text "name" "Shape", ("ref", .reference "s_Shape")]),
       ("base_1$", .record .base
         [text "access" "private", flag "virtual", text "name" "Canvas"])]⟩,
    ⟨"draw", .function, none,
      [text "$srcFile" "shape.h", number "$srcLine" 15, text "name" "draw",
       text "asm" "_Z4draw", noArguments]⟩,
    ⟨"draw$1", .function, none,
      [text "$srcFile" "shape.h", number "$srcLine" 16, text "name" "draw", flag "noreturn",
       flag "static", ("args", .list [.record .param [text "name" "", text "type" "int"]])]⟩,
    ⟨"Canvas", .struct, none,
      [text "$srcFile" "shape.h", number "$srcLine" 9, flag "incomplete",
       ("tags", .list [.list [.scalar (.int (-1))]])]⟩]

theorem taggedShapes_read_back :
    let run := documentGroups taggedShapes false Tag.defaultNames
    run.result = .ok () ∧ ∃ loaded read,
      load (.ofString (Event.document run.events)) = .ok loaded ∧
      loaded.objectOf? loaded.root = some (.mapping none read) ∧
      read.map (·.1) =
        [.text "Shape", .text "Circle", .text "draw", .text "draw$1", .text "Canvas"] ∧
      Block.ShownBy loaded [] read taggedShapesBlocks := by
  intro run
  have planned : planDocument taggedShapes false Tag.defaultNames = taggedShapesBlocks := by
    rfl
  obtain ⟨done, loaded, read, loads, root, keys, -, shown⟩ :=
    document_reads_back taggedShapes false Tag.defaultNames (by decide +kernel) (by decide +kernel)
      (by decide +kernel) (by decide +kernel) (by decide +kernel)
  rw [planned] at keys shown
  exact ⟨done, loaded, read, loads, root, keys, shown⟩

end TypeCatalog
