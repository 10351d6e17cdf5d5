import TypeCatalog.Walk.Record

/-!
# The walk over declarations

A catalog takes top-level declarations one after the other, decides which of
them are documented, and brings about the lines of their blocks as events.
At the end, eligible types that were declared but never defined get stubs.
-/

namespace TypeCatalog

open Document
open Text (CodeText)

namespace Walk

def kindName : Declaration → String
  | .record _ => "RecordDecl"
  | .function _ => "FunctionDecl"
  | .field _ => "FieldDecl"
  | .parameter _ => "ParameterDecl"
  | .base _ => "BaseRef"

/-- A top-level declaration: whether any text was written for it.  A fault of the front
end ends the declaration and is reported; other faults are passed on. -/
def documentDeclaration (declaration : Declaration) : Walk Bool := do
  let linesBefore := (← catalog).writer.lines
  let perform : Walk Bool :=
    match declaration with
    | .record d => documentRecord d
    | .function d => documentFunction d
    | other => do
      report .debug ("Skipping top-level " ++ kindName other)
      return false
  try perform catch
    | .host message =>
      modifyStats fun stats => { stats with aborted := stats.aborted + 1 }
      report .error ("Aborted dump of " ++ declaration.shown ++ ": " ++ message)
      return linesBefore < (← catalog).writer.lines
    | fault => throw fault

def documentAll : List Declaration → Walk Nat
  | [] => return 0
  | declaration :: rest => do
    let emitted ← documentDeclaration declaration
    let others ← documentAll rest
    return (if emitted then 1 else 0) + others

def documentGroup (declarations : List Declaration) : Walk Nat := do
  let emitted ← documentAll declarations
  event .flush
  return emitted

def writeStub (awaited : AwaitedRecord) : Walk Unit := do
  let declaration := awaited.declaration
  report .warning ("Type " ++ (Declaration.record declaration).shown ++
    " is declared but never defined; emitting header only")
  let (key, keys) := (← catalog).keys.claim (declaration.name.getD "")
  modifyCatalog ({ · with keys })
  mapping key "struct" none do
    writeLocation declaration.location
    flag "incomplete" true
    writeTags awaited.tags
  modifyStats fun stats => { stats with incomplete := stats.incomplete + 1 }

/-- Ends the document: every type that still waits for its definition gets a stub. -/
def finish : Walk Unit := do
  (← catalog).awaited.forM writeStub
  modifyCatalog ({ · with awaited := [] })
  event .flush

end Walk

namespace Catalog

structure Step (α : Type) where
  result : Except WalkFault α
  catalog : Catalog
  events : List Event

def perform {α : Type} (catalog : Catalog) (part : Walk α) : Step α :=
  let (result, progress) := part.run.run { catalog }
  ⟨result, progress.catalog, progress.events.toList⟩

def documentDeclaration (catalog : Catalog) (declaration : Declaration) : Step Bool :=
  catalog.perform (Walk.documentDeclaration declaration)

def documentGroup (catalog : Catalog) (declarations : List Declaration) : Step Nat :=
  catalog.perform (Walk.documentGroup declarations)

def finish (catalog : Catalog) : Step Unit :=
  catalog.perform Walk.finish

def depth (catalog : Catalog) : Nat :=
  catalog.writer.depth

end Catalog

/-! ## Whole documents -/

def Walk.document (groups : List (List Declaration)) : Walk Unit := do
  groups.forM fun group => discard (Walk.documentGroup group)
  Walk.finish

def documentGroups (groups : List (List Declaration)) (dumpAll : Bool)
    (tagNames : List CodeText) : Catalog.Step Unit :=
  ({ dumpAll, tagNames } : Catalog).perform (Walk.document groups)

end TypeCatalog
