import TypeCatalog.Catalog
import TypeCatalog.Files.Source
import TypeCatalog.Files.Writing

/-!
# Dumps: many sources documented by one walk

All sources of a dump share one table of types and one catalog, so a type that
an earlier file defines is known in later ones and is documented once.  A
source that fails is reported; what it yielded before stays.

What a dump brings about is kept in segments, one for each source, so that it
is the same whatever happens to the destination.
-/

namespace TypeCatalog

open Document
open Text (CodeText)

/-! ## Options and counts -/

structure DumpOptions where
  dumpAll : Bool := false
  dataModel : CodeText := DataModel.defaultName
  macroNames : List CodeText := Expansion.defaultNames
  tagNames : List CodeText := Tag.defaultNames
  root : Option CodeText := none
  continueOnError : Bool := true
  /-- The file that the document is written to, if it is one of the files that are read. -/
  output : Option Place := none
  deriving DecidableEq, Repr, Inhabited

structure SourceCounts where
  filesProcessed : Nat := 0
  filesFailed : Nat := 0
  declarationsExtracted : Nat := 0
  parseErrors : Nat := 0
  deriving DecidableEq, Repr, Inhabited

namespace SourceCounts

def entries (stats : SourceCounts) : List (String × Nat) :=
  [("files_processed", stats.filesProcessed), ("files_failed", stats.filesFailed),
    ("declarations_extracted", stats.declarationsExtracted), ("parse_errors", stats.parseErrors)]

def summary (stats : SourceCounts) : String :=
  "ExtractionStats(processed=" ++ toString stats.filesProcessed ++ ", failed=" ++
    toString stats.filesFailed ++ ", declarations=" ++ toString stats.declarationsExtracted ++
    ", parse_errors=" ++ toString stats.parseErrors ++ ")"

def processed (stats : SourceCounts) (declarations errors : Nat) : SourceCounts :=
  { stats with
    filesProcessed := stats.filesProcessed + 1
    declarationsExtracted := stats.declarationsExtracted + declarations
    parseErrors := stats.parseErrors + errors }

def failed (stats : SourceCounts) : SourceCounts :=
  { stats with filesFailed := stats.filesFailed + 1 }

end SourceCounts

/-! ## Faults -/

inductive DumpFault where
  | unknownModel (name : CodeText)
  | file (fault : FileFault)
  | walk (fault : WalkFault)
  deriving DecidableEq, Repr

namespace DumpFault

def message : DumpFault → CodeText
  | unknownModel name => DataModel.unknownMessage name
  | file fault => fault.message
  | walk fault => fault.message

/-- What is reported about a source that failed; no text means that the fault ends the dump
without a report. -/
def report? (path : CodeText) : DumpFault → Option CodeText
  | unknownModel _ => none
  | file (.source (.notFound name)) =>
    some ("File not found: " ++ (SourceFault.notFound name).message)
  | file (.source (.notSource name)) =>
    some ("Invalid file: " ++ (SourceFault.notSource name).message)
  | file (.source (.access fault)) =>
    if fault.cause == .missing then some ("File not found: " ++ fault.message)
    else some ("Error reading " ++ path ++ ": " ++ fault.message)
  | file (.items (.container fault)) => some ("Invalid file: " ++ fault.message)
  | file (.items (.item kind place fault)) =>
    some ("Cannot read declarations of " ++ path ++ ": " ++
      (ItemFault.item kind place fault).message)
  | file (.items (.layout _)) => none
  | walk (.host message) => some ("Cannot read declarations of " ++ path ++ ": " ++ message)
  | walk (.literal fault) =>
    if fault.isRefusal then some ("Invalid file: " ++ fault.message) else none
  | walk fault => some ("Invalid file: " ++ fault.message)

end DumpFault

/-! ## Segments -/

structure Segment where
  source : CodeText
  events : List Event

def Document.Outlet.deliver (outlet : Outlet) : List Segment → Outlet × List Diagnostic
  | [] => (outlet, [])
  | segment :: rest =>
    let (next, reports) := outlet.acceptAll segment.events
    let (last, others) := next.deliver rest
    (last, reports.map (·.within segment.source) ++ others)

structure DumpState where
  catalog : Catalog
  types : KnownTypes
  stats : SourceCounts := {}
  events : Array Event := #[]
  segments : Array Segment := #[]

/-- A part of a dump: it may fail, and what it did before stays. -/
abbrev Dump := ExceptT DumpFault (StateM DumpState)

namespace Dump

def reports (diagnostics : List Diagnostic) : Dump Unit :=
  modify fun state =>
    { state with events := state.events ++ (diagnostics.map Event.report).toArray }

def report (level : Level) (message : CodeText) : Dump Unit :=
  reports [{ level, channel := Channel.extractor, message }]

def endSegment (source : CodeText) : Dump Unit :=
  modify fun state =>
    { state with segments := state.segments.push ⟨source, state.events.toList⟩, events := #[] }

def currentFiles (files : FileTree) (options : DumpOptions) : Dump FileTree := do
  match options.output with
  | none => return files
  | some place =>
    let state ← get
    let events := state.segments.toList.flatMap (·.events) ++ state.events.toList
    return files.put place (Text.Utf8.encode (Event.flushed events).toList)

/-! ## One source -/

def walk (group : Group) : Dump Unit := do
  let step := (← get).catalog.documentGroup group
  modify fun state =>
    { state with catalog := step.catalog, events := state.events ++ step.events.toArray }
  match step.result with
  | .ok _ => pure ()
  | .error fault => throw (.walk fault)

def item (display : CodeText) (item : Except ReadFault Item) : Dump Nat := do
  let (result, session) := Session.readItem { file := display, types := (← get).types } item
  modify fun state => { state with types := session.types }
  reports session.reports.toList
  match result with
  | .error fault => throw (.file (.items fault))
  | .ok group =>
    if !group.isEmpty then walk group
    return group.length

def items (display : CodeText) : List (Except ReadFault Item) → Dump Nat
  | [] => return 0
  | first :: rest => do
    let count ← item display first
    return count + (← items display rest)

def source (files : FileTree) (options : DumpOptions) (path : CodeText) : Dump (Nat × Nat) := do
  let display := shownPath files options.root path
  report .info ("Dumping tagged declarations from " ++ display)
  let files ← currentFiles files options
  let (opened, notes) := openSource files options.macroNames path
  reports notes
  match opened with
  | .error fault => throw (.file (.source fault))
  | .ok (tree, errors) =>
    reports [extractionStarted display]
    let count ← items display (Item.all [] false tree)
    reports [extractionEnded display count]
    return (count, errors)

/-! ## All sources -/

/-- Documents one source and counts it.  If it fails the dump ends there, unless it is to
continue. -/
def countedSource (files : FileTree) (options : DumpOptions) (path : CodeText) : Dump Unit := do
  match ← observing (source files options path) with
  | .ok (count, errors) =>
    modify fun state => { state with stats := state.stats.processed count errors }
    endSegment path
  | .error fault =>
    match fault.report? path with
    | none =>
      endSegment path
      throw fault
    | some message =>
      report .error message
      modify fun state => { state with stats := state.stats.failed }
      endSegment path
      if !options.continueOnError then throw fault
where
  observing {α : Type} (part : Dump α) : Dump (Except DumpFault α) :=
    ExceptT.mk (Except.ok <$> part.run)

def finish : Dump Unit := do
  let step := (← get).catalog.finish
  modify fun state =>
    { state with catalog := step.catalog, events := state.events ++ step.events.toArray }
  match step.result with
  | .ok _ => pure ()
  | .error fault => throw (.walk fault)

def sources (files : FileTree) (options : DumpOptions) (names : List CodeText) : Dump Unit := do
  let (paths, notes) := files.sourceFiles names
  reports notes
  if paths.isEmpty then
    report .warning ("No C++ files found in " ++ Text.joinWith ", " names)
  endSegment "-"
  paths.forM (countedSource files options)
  finish
  let state ← get
  report .info ("Dump complete: " ++ state.stats.summary ++ ", " ++ state.catalog.stats.summary)

end Dump

/-! ## Whole dumps -/

structure DumpOutcome where
  result : Except DumpFault (WalkCounts × SourceCounts)
  segments : List Segment := []

def catalogSources (files : FileTree) (options : DumpOptions) (names : List CodeText) :
    DumpOutcome :=
  match DataModel.ofName? options.dataModel with
  | none => { result := .error (.unknownModel options.dataModel) }
  | some model =>
    let start : DumpState :=
      { catalog := { dumpAll := options.dumpAll, tagNames := options.tagNames },
        types := { model } }
    let (result, last) := (do Dump.sources files options names; Dump.endSegment "-").run start
    match result with
    | .ok _ =>
      { result := .ok (last.catalog.stats, last.stats), segments := last.segments.toList }
    | .error fault =>
      { result := .error fault
        segments := (last.segments.push ⟨"-", last.events.toList⟩).toList }

end TypeCatalog
