import TypeCatalog.Document.LineWriter
import TypeCatalog.Document.Outlet

/-!
# Documents as trees

A document is a list of blocks.  Below the header of a block stand entries,
and what stands after the key of an entry is a tree: a scalar, a reference, a
list, or a record with entries of its own.  Only the header of a block can
carry an anchor.
-/

namespace TypeCatalog.Document

open Text

inductive Kind where
  | struct
  | function
  | base
  | field
  | method
  | param
  deriving DecidableEq, Repr

def Kind.name : Kind → String
  | struct => "struct"
  | function => "function"
  | base => "base"
  | field => "field"
  | method => "method"
  | param => "param"

inductive Tree where
  | scalar (value : Scalar)
  | reference (anchor : CodeText)
  | emptyList
  | list (items : List Tree)
  | record (kind : Kind) (entries : List (CodeText × Tree))

abbrev Entry := CodeText × Tree

def propertyText (kind : Kind) : Option CodeText → List Char
  | none => tagStart.toList ++ kind.name.toList
  | some anchor => '&' :: anchor.toChars ++ ' ' :: tagStart.toList ++ kind.name.toList

def indentation (depth : Nat) : List Char :=
  (List.replicate depth [' ', ' ']).flatten

def lineText (depth : Nat) (text : List Char) : List Char :=
  indentation depth ++ text ++ ['\n']

namespace Tree

def headText : Tree → List Char
  | scalar value => ' ' :: value.written?.getD []
  | reference anchor => ' ' :: '*' :: anchor.toChars
  | emptyList => " []".toList
  | list _ => []
  | record kind _ => ' ' :: propertyText kind none

mutual

def bodyText (depth : Nat) : Tree → List Char
  | list items => itemsText (depth + 1) items
  | record _ entries => entriesText (depth + 1) entries
  | _ => []

def itemsText (depth : Nat) : List Tree → List Char
  | [] => []
  | tree :: rest =>
    lineText depth ('-' :: tree.headText) ++ tree.bodyText depth ++ itemsText depth rest

def entriesText (depth : Nat) : List Entry → List Char
  | [] => []
  | (key, tree) :: rest =>
    lineText depth (Scalar.writtenText key ++ ':' :: tree.headText) ++ tree.bodyText depth ++
      entriesText depth rest

end

theorem itemsText_append (depth : Nat) (first second : List Tree) :
    itemsText depth (first ++ second) = itemsText depth first ++ itemsText depth second := by
  induction first with
  | nil => simp [itemsText]
  | cons tree rest ih => simp [itemsText, ih]

theorem entriesText_append (depth : Nat) (first second : List Entry) :
    entriesText depth (first ++ second) = entriesText depth first ++ entriesText depth second := by
  induction first with
  | nil => simp [entriesText]
  | cons entry rest ih => simp [entriesText, ih]

/-! ## Beginnings -/

mutual

/-- What a text shows of a tree if blocks in it may break off: scalars that are shown are
written in full. -/
def Begins : Tree → Tree → Prop
  | scalar value, whole => whole = .scalar value ∧ value.written?.isSome = true
  | reference anchor, whole => whole = .reference anchor
  | emptyList, whole => whole = .emptyList
  | list items, whole => ∃ all, whole = .list all ∧ ItemsBegin items all
  | record kind entries, whole => ∃ all, whole = .record kind all ∧ EntriesBegin entries all

def ItemsBegin : List Tree → List Tree → Prop
  | [], _ => True
  | tree :: rest, whole =>
    ∃ first others, whole = first :: others ∧ tree.Begins first ∧ ItemsBegin rest others

def EntriesBegin : List Entry → List Entry → Prop
  | [], _ => True
  | (key, tree) :: rest, whole =>
    ∃ first others, whole = (key, first) :: others ∧ tree.Begins first ∧ EntriesBegin rest others

end

theorem ItemsBegin.extend {items whole : List Tree} (begins : ItemsBegin items whole)
    (others : List Tree) : ItemsBegin items (whole ++ others) := by
  induction items generalizing whole with
  | nil => trivial
  | cons tree rest ih =>
      obtain ⟨first, more, rfl, same, later⟩ := begins
      exact ⟨first, _, rfl, same, ih later⟩

theorem EntriesBegin.extend {entries whole : List Entry} (begins : EntriesBegin entries whole)
    (others : List Entry) : EntriesBegin entries (whole ++ others) := by
  induction entries generalizing whole with
  | nil => trivial
  | cons entry rest ih =>
      obtain ⟨first, more, rfl, same, later⟩ := begins
      exact ⟨first, _, rfl, same, ih later⟩

theorem ItemsBegin.append {whole items others : List Tree} (early : ItemsBegin whole whole)
    (late : ItemsBegin items others) : ItemsBegin (whole ++ items) (whole ++ others) := by
  induction whole with
  | nil => exact late
  | cons tree rest ih =>
      obtain ⟨_, _, same_eq, same, later⟩ := early
      cases same_eq
      exact ⟨tree, _, rfl, same, ih later⟩

theorem EntriesBegin.append {whole entries others : List Entry} (early : EntriesBegin whole whole)
    (late : EntriesBegin entries others) : EntriesBegin (whole ++ entries) (whole ++ others) := by
  induction whole with
  | nil => exact late
  | cons entry rest ih =>
      obtain ⟨key, tree⟩ := entry
      obtain ⟨_, _, same_eq, same, later⟩ := early
      cases same_eq
      exact ⟨tree, _, rfl, same, ih later⟩

theorem begins_scalar {value : Scalar} (written : value.written?.isSome = true) :
    (scalar value).Begins (.scalar value) :=
  ⟨rfl, written⟩

theorem begins_list {items all : List Tree} (begins : ItemsBegin items all) :
    (list items).Begins (.list all) :=
  ⟨all, rfl, begins⟩

theorem begins_record (kind : Kind) {entries all : List Entry} (begins : EntriesBegin entries all) :
    (record kind entries).Begins (.record kind all) :=
  ⟨all, rfl, begins⟩

theorem Begins.item {tree whole : Tree} (begins : tree.Begins whole) :
    ItemsBegin [tree] [whole] :=
  ⟨whole, [], rfl, begins, trivial⟩

theorem Begins.entry {tree whole : Tree} (begins : tree.Begins whole) (key : CodeText) :
    EntriesBegin [(key, tree)] [(key, whole)] :=
  ⟨whole, [], rfl, begins, trivial⟩

theorem EntriesBegin.keys {entries whole : List Entry} (begins : EntriesBegin entries whole) :
    entries.map (·.1) <+: whole.map (·.1) := by
  induction entries generalizing whole with
  | nil => exact List.nil_prefix
  | cons entry rest ih =>
      obtain ⟨first, more, rfl, -, later⟩ := begins
      exact List.cons_prefix_cons.mpr ⟨rfl, ih later⟩

end Tree

structure Block where
  key : CodeText
  kind : Kind
  anchor : Option CodeText
  entries : List Entry

def Block.text (block : Block) : List Char :=
  lineText 0 (Scalar.writtenText block.key ++ ':' :: ' ' :: propertyText block.kind block.anchor) ++
    Tree.entriesText 1 block.entries

def anchorsOf (blocks : List Block) : List CodeText :=
  blocks.filterMap (·.anchor)

def baseBlock? : Entry → Option (List Entry)
  | (_, .record .base entries) => some entries
  | _ => none

def Block.bases (block : Block) : List (List Entry) :=
  block.entries.filterMap baseBlock?

/-! ## Names of anchors -/

def isAnchorChar (c : Char) : Bool :=
  c.isAlphanum || c == '_' || c == '-'

def IsAnchor (name : CodeText) : Prop :=
  ∃ chars : List Char, name = .ofChars chars ∧ chars ≠ [] ∧ ∀ c ∈ chars, isAnchorChar c = true

theorem chars?_ofChars (chars : List Char) : (CodeText.ofChars chars).chars? = some chars := by
  induction chars with
  | nil => rfl
  | cons c rest ih =>
      simp only [CodeText.ofChars, CodeText.chars?] at ih
      simp [CodeText.ofChars, CodeText.chars?, ih]

theorem toChars_ofChars (chars : List Char) : (CodeText.ofChars chars).toChars = chars := by
  simp [CodeText.ofChars, CodeText.toChars, Function.comp_def]

theorem isNameOf_of_all {allowed : Char → Bool} {name : List Char} (proper : name ≠ [])
    (all : ∀ c ∈ name, allowed c = true) (line : allowed '\n' = false) :
    isNameOf allowed name = true := by
  have last : name.getLast? ≠ some '\n' := by
    intro ends
    have := all '\n' (List.mem_of_getLast? ends)
    simp [line] at this
  simpa [isNameOf, last, proper] using all

theorem IsAnchor.anchorName_eq {name : CodeText} (anchor : IsAnchor name) :
    anchorName name = .ok name.toChars := by
  obtain ⟨chars, rfl, proper, all⟩ := anchor
  have accepted : isNameOf (fun c => c.isAlphanum || c == '_' || c == '-') chars = true :=
    isNameOf_of_all proper all rfl
  simp [anchorName, chars?_ofChars, toChars_ofChars, Option.filter, accepted]

theorem tagName_kind (kind : Kind) : tagName (.ofString kind.name) = .ok kind.name.toList := by
  cases kind <;> rfl

theorem nodeProperties_kind (kind : Kind) :
    nodeProperties (some (.ofString kind.name)) none = .ok (propertyText kind none) := by
  simp only [nodeProperties, tagName_kind]
  rfl

theorem nodeProperties_anchor (kind : Kind) {name : CodeText} (anchor : IsAnchor name) :
    nodeProperties (some (.ofString kind.name)) (some name) =
      .ok (propertyText kind (some name)) := by
  simp only [nodeProperties, tagName_kind, anchor.anchorName_eq]
  simp [bind, Except.bind, pure, Except.pure, joinWith, propertyText]

theorem mapping_eq (writer : LineWriter) (key : CodeText) (kind : Kind) {anchor : Option CodeText}
    (valid : ∀ name, anchor = some name → IsAnchor name) :
    writer.mapping key (some (.ofString kind.name)) anchor =
      .ok (String.ofList (lineText writer.depth
          (Scalar.writtenText key ++ ':' :: ' ' :: propertyText kind anchor)),
        ⟨writer.depth + 1, writer.lines + 1⟩) := by
  have properties : nodeProperties (some (.ofString kind.name)) anchor =
      .ok (propertyText kind anchor) := by
    cases anchor with
    | none => exact nodeProperties_kind kind
    | some name => exact nodeProperties_anchor kind (valid name rfl)
  have shown : propertyText kind anchor ≠ [] := by
    cases anchor <;> simp [propertyText, tagStart]
  simp [LineWriter.mapping, properties, shown, bind, Except.bind, pure, Except.pure,
    LineWriter.openBlock, LineWriter.line, LineWriter.enter, lineText, indentation]

theorem item_eq (writer : LineWriter) (kind : Kind) :
    writer.item (some (.ofString kind.name)) =
      .ok (String.ofList (lineText writer.depth ('-' :: ' ' :: propertyText kind none)),
        ⟨writer.depth + 1, writer.lines + 1⟩) := by
  have shown : propertyText kind none ≠ [] := by simp [propertyText, tagStart]
  simp [LineWriter.item, nodeProperties_kind, shown, bind, Except.bind, pure, Except.pure,
    LineWriter.openBlock, LineWriter.line, LineWriter.enter, lineText, indentation]

/-! ## Texts of events -/

namespace Event

def written (events : List Event) : List Char :=
  (events.filterMap text?).flatMap String.toList

@[simp] theorem written_append (first second : List Event) :
    written (first ++ second) = written first ++ written second := by
  simp [written, List.filterMap_append]

@[simp] theorem written_line (text : String) : written [.line text] = text.toList := by
  simp [written, text?]

@[simp] theorem written_report (diagnostic : Diagnostic) : written [.report diagnostic] = [] := rfl

@[simp] theorem written_flush : written [.flush] = [] := rfl

theorem document_toList (events : List Event) : (document events).toList = written events := by
  simp [document, written]

theorem document_eq {first second : List Event} (same : written first = written second) :
    document first = document second := by
  apply String.toList_injective
  rw [document_toList, document_toList, same]

end Event

end TypeCatalog.Document
