import TypeCatalog.Files.Writing
import TypeCatalog.Json.Printer
import TypeCatalog.Log
import TypeCatalog.Settings.Build

/-!
# Reports about runs

A report sums up one run in JSON.  It is written to a file of its own that is
named after the run.
-/

namespace TypeCatalog

open Document
open Text (CodeText)

/-! ## Sections -/

abbrev Fields := List (CodeText × Json)

namespace Fields

def ofCounts (counts : List (String × Nat)) : Fields :=
  counts.map fun (key, n) => (key, .int n)

def ofSettings (settings : Settings) : Fields :=
  [("output", .ofOption .text settings.output), ("dump_all", .bool settings.dumpAll),
    ("data_model", .str settings.dataModel), ("tag_macros", .texts settings.tagMacros),
    ("tag_attributes", .texts settings.tagAttributes),
    ("repo_root", .ofOption .text settings.repoRoot),
    ("continue_on_error", .bool settings.continueOnError)]

def ofOutlet (outlet : Outlet) : Fields :=
  [("name", .text outlet.name), ("bytes_written", .int outlet.bytes),
    ("failed", .bool outlet.failed)]

end Fields

/-! ## Reports -/

structure RunReport where
  status : CodeText := "ok"
  walk : Fields := []
  extraction : Fields := []
  diagnostics : Fields := []
  settings : Fields := []
  outlet : Fields := []
  error : Option CodeText := none

namespace RunReport

def toJson (report : RunReport) : Json :=
  let sections : Fields :=
    [("status", .text report.status), ("walk", .object report.walk),
      ("extraction", .object report.extraction), ("diagnostics", .object report.diagnostics),
      ("config", .object report.settings), ("sink", .object report.outlet)]
  let error : Fields := match report.error with
    | some message => [("error", .text message)]
    | none => []
  .object (sections ++ error)

def defaultDirectory : CodeText := "output/run_reports"

end RunReport

/-! ## Files -/

structure WrittenReport where
  path : CodeText
  place : Place
  content : Json
  text : String

/-- Writes a report to the file of a run.  A run and a time that the report names itself
stay. -/
def FileTree.writeReport (files : FileTree) (directory runId : CodeText) (timestamp : String)
    (report : Json) : Except AccessFault (WrittenReport × FileTree) := do
  let files ← files.makeDirectories directory
  let path := Path.join directory (runId ++ ".json")
  let (place, files) ← files.create path
  let content :=
    (report.setDefault "run_id" (.text runId)).setDefault "timestamp_utc" (.str timestamp)
  let text := content.pretty
  return ({ path, place, content, text }, files.put place (Text.Utf8.encode text.toList))

end TypeCatalog
