import TypeCatalog.Declaration
import TypeCatalog.Layout.DataModel
import TypeCatalog.Name

/-!
# The types known to a run

Records, synonyms and enumerations are known by their qualified names, and the
builtin types by those of a data model.
-/

namespace TypeCatalog

open Text (CodeText)

inductive EntryKind where
  | record
  | synonym
  | enumeration
  | other (name : CodeText)
  deriving DecidableEq, Repr, Inhabited

def EntryKind.name : EntryKind → CodeText
  | record => "record"
  | synonym => "alias"
  | enumeration => "enum"
  | other name => name

def EntryKind.ofName (text : CodeText) : EntryKind :=
  ([record, synonym, enumeration].find? (·.name == text)).getD (other text)

structure KnownType where
  name : CodeText
  kind : EntryKind
  layout : Layout
  attributes : List Attribute := []
  dynamic : Bool := false
  empty : Bool := false
  deriving DecidableEq, Repr, Inhabited

structure KnownTypes where
  model : DataModel
  /-- Entries by their normalized names, each name once. -/
  entries : List (CodeText × KnownType) := []
  deriving Repr, Inhabited

namespace KnownTypes

def find? (table : KnownTypes) (key : CodeText) : Option KnownType :=
  table.entries.lookup key

def insert (table : KnownTypes) (key : CodeText) (entry : KnownType) : KnownTypes :=
  { table with entries := (key, entry) :: table.entries.filter (·.1 != key) }

def keepsRecord (table : KnownTypes) (entry : KnownType) : Bool :=
  match table.find? (Name.normalize entry.name) with
  | some present => present.kind == .record && entry.kind != .record
  | none => false

/-- Enters a type under its name.  A record is not replaced by a synonym or enumeration. -/
def define (table : KnownTypes) (entry : KnownType) : KnownTypes :=
  if table.keepsRecord entry then table else table.insert (Name.normalize entry.name) entry

/-- The names under which a name may be known inside a scope, the innermost first. -/
def candidates (scope : List CodeText) (name : CodeText) : List CodeText :=
  (List.range (scope.length + 1)).reverse.map fun depth =>
    let outer := Text.joinWith Name.scopeSeparator (scope.take depth)
    if outer.isEmpty then name else outer ++ Name.scopeSeparator ++ name

/-- The entry of a name used inside a scope.  A leading `::` skips the scope. -/
def lookup (table : KnownTypes) (name : CodeText) (scope : List CodeText) : Option KnownType :=
  let spelled := Name.normalize name
  match spelled with
  | .scalar ':' :: .scalar ':' :: rest => table.find? rest
  | _ => (candidates scope spelled).findSome? table.find?

def builtin? (table : KnownTypes) (spelling : CodeText) : Option Layout :=
  table.model.builtin? (Builtin.canonical spelling)

def pointer (table : KnownTypes) : Layout :=
  table.model.pointer

def resolve (table : KnownTypes) (spelling : CodeText) (scope : List CodeText) :
    Layout × Option KnownType :=
  match table.lookup spelling scope with
  | some entry => (entry.layout, some entry)
  | none => ((table.builtin? spelling).getD .unresolved, none)

def isUnknown (table : KnownTypes) (spelling : CodeText) (scope : List CodeText) : Bool :=
  (table.lookup spelling scope).isNone && (table.builtin? spelling).isNone

def contains (table : KnownTypes) (name : CodeText) : Bool :=
  (table.find? (Name.normalize name)).isSome

def sorted (table : KnownTypes) : List (CodeText × KnownType) :=
  table.entries.mergeSort fun a b => a.1.precedes b.1

end KnownTypes

end TypeCatalog
