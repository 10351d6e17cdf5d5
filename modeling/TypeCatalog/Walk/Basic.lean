import TypeCatalog.Document.LineWriter
import TypeCatalog.Document.Outlet
import TypeCatalog.Identities
import TypeCatalog.Tag

/-!
# Catalogs and the steps of a walk

A catalog keeps its state across declarations: the identities defined, the
keys claimed, the functions seen and the forward declarations that still wait
for a definition.  What it writes are events; it knows nothing of the
destination.

A fault in the middle of a declaration leaves everything done so far as it
is; only the depth is restored, block by block.
-/

namespace TypeCatalog

open Document
open Text (CodeText)

structure WalkCounts where
  recordsEmitted : Nat := 0
  functionsEmitted : Nat := 0
  skipped : Nat := 0
  duplicates : Nat := 0
  incomplete : Nat := 0
  aborted : Nat := 0
  unresolved : Nat := 0
  deriving DecidableEq, Repr, Inhabited

namespace WalkCounts

def entries (stats : WalkCounts) : List (String × Nat) :=
  [("records_emitted", stats.recordsEmitted), ("functions_emitted", stats.functionsEmitted),
    ("skipped", stats.skipped), ("duplicates", stats.duplicates),
    ("incomplete", stats.incomplete), ("aborted", stats.aborted),
    ("unresolved", stats.unresolved)]

def summary (stats : WalkCounts) : String :=
  "WalkStats(" ++
    String.intercalate ", " (stats.entries.map fun (key, n) => key ++ "=" ++ toString n) ++ ")"

end WalkCounts

structure AwaitedRecord where
  canonical : CodeText
  declaration : Record
  tags : TagList
  deriving DecidableEq, Repr, Inhabited

/-- What tells functions apart: the name and the names of the parameter types. -/
abbrev Signature := Option CodeText × List (Option CodeText)

structure Catalog where
  dumpAll : Bool := false
  tagNames : List CodeText := Tag.defaultNames
  writer : LineWriter := {}
  identities : Identities := {}
  keys : UniqueKeys := {}
  signatures : List Signature := []
  /-- Forward declarations waiting for a definition, in the order of their first one. -/
  awaited : List AwaitedRecord := []
  stats : WalkCounts := {}
  deriving Repr, Inhabited

inductive WalkFault where
  | host (message : CodeText)
  | literal (fault : LiteralFault)
  | line (fault : LineFault)
  deriving DecidableEq, Repr

def WalkFault.message : WalkFault → CodeText
  | host message => message
  | literal fault => fault.message
  | line fault => fault.message

structure WalkProgress where
  catalog : Catalog
  events : Array Event := #[]

/-- A part of a walk: it may fail, and what it did before stays. -/
abbrev Walk := ExceptT WalkFault (StateM WalkProgress)

namespace Walk

/-! ## Steps -/

def catalog : Walk Catalog :=
  return (← get).catalog

def modifyCatalog (change : Catalog → Catalog) : Walk Unit :=
  modify fun progress => { progress with catalog := change progress.catalog }

def modifyStats (change : WalkCounts → WalkCounts) : Walk Unit :=
  modifyCatalog fun catalog => { catalog with stats := change catalog.stats }

def event (event : Event) : Walk Unit :=
  modify fun progress => { progress with events := progress.events.push event }

def report (level : Level) (message : CodeText) (channel : CodeText := Channel.catalog) :
    Walk Unit :=
  event (.report { level, channel, message })

def identities {α : Type} (operation : Identities → α × Identities) : Walk α := do
  let (result, after) := operation (← catalog).identities
  modifyCatalog ({ · with identities := after })
  return result

def line (operation : LineWriter → Except LineFault (String × LineWriter)) : Walk Unit := do
  match operation (← catalog).writer with
  | .error fault => throw (.line fault)
  | .ok (text, after) =>
    modifyCatalog ({ · with writer := after })
    event (.line text)

/-- Writes the line of an operation that opens a block, performs the body in it, and
leaves the block however the body ends. -/
def block (operation : LineWriter → Except LineFault (String × LineWriter)) (body : Walk Unit) :
    Walk Unit := do
  let depth := (← catalog).writer.depth
  line operation
  let restore : Walk Unit :=
    modifyCatalog fun catalog => { catalog with writer := { catalog.writer with depth } }
  try body catch fault =>
    restore
    throw fault
  restore

def scalar (key : CodeText) (value : Scalar) : Walk Unit :=
  line (·.scalar key value)

def flag (key : CodeText) (enabled : Bool) : Walk Unit :=
  if enabled then scalar key (.bool true) else pure ()

def mapping (key tag : CodeText) (anchor : Option CodeText) (body : Walk Unit) :
    Walk Unit :=
  block (·.mapping key (some tag) anchor) body

def allMembers {α : Type} (members : Members α) : Walk (List α) :=
  match members.fault with
  | some message => throw (.host message)
  | none => pure members.items

/-! ## Tags, places and numbers -/

def tagsOf (declaration : Declaration) : Walk TagList := do
  let reading := Tag.ofDeclaration (← catalog).tagNames declaration
  reading.reports.forM fun diagnostic => event (.report diagnostic)
  match reading.result with
  | .ok tags => return tags
  | .error fault => throw (.literal fault)

def tagScalar : TagValue → Scalar
  | .text value => .text value
  | .integer value => .int value

def writeTags (tags : TagList) : Walk Unit := do
  let instances := Tag.visible tags
  if instances.isEmpty then return
  block (fun writer => .ok (writer.sequence "tags")) do
    instances.forM fun tagInstance =>
      block (·.item none) do
        tagInstance.forM fun value => line (·.scalarItem (tagScalar value))

def writeLocation (location : Location) : Walk Unit := do
  scalar "$srcFile" (.text location.file)
  scalar "$srcLine" (.int location.line)

/-- The number written for one that is not known. -/
def unresolved : Int := -1

def resolved (value : Option Int) (what : String) (subject : CodeText) : Walk Int := do
  match value with
  | some n => return n
  | none =>
    modifyStats fun stats => { stats with unresolved := stats.unresolved + 1 }
    report .warning
      ("Could not resolve " ++ what ++ " of " ++ subject ++ "; writing " ++ toString unresolved)
    return unresolved

end Walk

end TypeCatalog
