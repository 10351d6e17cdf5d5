import TypeCatalog.CommandLine.Arguments
import TypeCatalog.RunReport

/-!
# Runs of the program

A run finds its settings, opens the destination of the document, documents
the sources and reports on all of it.  It succeeds only if the whole document
has reached its destination: a fault at any stage, or a destination that
refused a call, ends it with exit code 1.
-/

namespace TypeCatalog

open Document
open Text (CodeText)

/-! ## What a run starts from -/

structure RunContext where
  files : FileTree
  environment : Settings.Environment := {}
  runId : CodeText
  timestamp : String := ""
  standardOutput : FailurePlan := {}
  outputFile : FailurePlan := {}

inductive RunFault where
  | settings (fault : Settings.Fault)
  | output (fault : AccessFault)
  | dump (fault : DumpFault)
  deriving DecidableEq, Repr

namespace RunFault

def message : RunFault → CodeText
  | settings fault => fault.message
  | output fault =>
    if fault.cause.isOfPath then fault.message
    else "Could not open output file: " ++ fault.path ++ ": " ++ fault.message
  | dump fault => fault.message

/-- Whether a run reports a fault.  Any other one ends it at once. -/
def isReported : RunFault → Bool
  | settings (.noValue fault) => fault.isRefusal
  | dump (.file (.items (.layout _))) => false
  | dump (.walk (.literal fault)) => fault.isRefusal
  | _ => true

def report (fault : RunFault) : Diagnostic :=
  let stage := match fault with
    | settings fault => if fault.isInvalid then "Configuration error: " else "Dump failed: "
    | output fault => if fault.cause.isOfPath then "Dump failed: " else "Output error: "
    | dump _ => "Dump failed: "
  { level := .error, channel := Channel.command, message := stage ++ fault.message }

end RunFault

/-! ## Destinations -/

structure Destination where
  outlet : Outlet
  place : Option Place := none
  files : FileTree

/-- Opens the destination of a document.  No name, or a dash, is the standard output. -/
def RunContext.openDestination (context : RunContext) (name : Option CodeText) :
    Except AccessFault (Destination × List Diagnostic) :=
  match name.filter (· != ("-" : CodeText)) with
  | none =>
    .ok ({ outlet := { stream := { plan := context.standardOutput }, name := "<stdout>" },
           files := context.files }, [])
  | some path =>
    match context.files.create path with
    | .error fault => .error fault
    | .ok (place, files) =>
      .ok ({ outlet := { stream := { plan := context.outputFile }, name := path, owned := true },
             place, files },
        [{ level := .info, channel := Channel.outlet,
           message := "Writing type information to " ++ path }])

namespace Destination

def standardOutput (destination : Destination) : String :=
  if destination.place.isNone then destination.outlet.stream.content else ""

def finalFiles (destination : Destination) : FileTree :=
  match destination.place with
  | some place =>
    destination.files.put place (Text.Utf8.encode destination.outlet.stream.content.toList)
  | none => destination.files

end Destination

/-! ## Attempts -/

structure Attempt where
  settings : Option Settings := none
  destination : Option Destination := none
  result : Except RunFault (WalkCounts × SourceCounts)
  reports : List Diagnostic := []

def Destination.attempt (destination : Destination) (settings : Settings)
    (sources : List CodeText) : Attempt :=
  let options := { settings.options with output := destination.place }
  let outcome := catalogSources destination.files options sources
  let (written, reports) := destination.outlet.deliver outcome.segments
  let (outlet, closing) := written.close
  { settings, destination := some { destination with outlet }
    result := outcome.result.mapError .dump, reports := reports ++ closing }

def RunContext.attempt (context : RunContext) (arguments : Arguments) : Attempt :=
  let (built, notes) := Settings.build context.files context.environment arguments.request
  match built with
  | .error fault => { result := .error (.settings fault), reports := notes }
  | .ok settings =>
    match context.openDestination settings.output with
    | .error fault => { settings, result := .error (.output fault), reports := notes }
    | .ok (destination, opening) =>
      let attempt := destination.attempt settings arguments.sources
      { attempt with reports := notes ++ opening ++ attempt.reports }

namespace Attempt

def failure? (attempt : Attempt) : Option Diagnostic :=
  match attempt.result, attempt.destination with
  | .error fault, _ => if fault.isReported then some fault.report else none
  | .ok _, some destination =>
    if destination.outlet.failed then
      some { level := .error, channel := Channel.command,
             message := "Output " ++ destination.outlet.name ++ " was not written completely" }
    else none
  | .ok _, none => none

def escaped? (attempt : Attempt) : Option RunFault :=
  match attempt.result with
  | .error fault => if fault.isReported then none else some fault
  | .ok _ => none

def summary (attempt : Attempt) : RunReport :=
  let known : RunReport :=
    { status := if attempt.failure?.isSome then "failed" else "success"
      settings := (attempt.settings.map Fields.ofSettings).getD [] }
  match attempt.result with
  | .error fault => { known with error := some fault.message }
  | .ok (walked, extracted) =>
    { known with
      walk := .ofCounts walked.entries
      extraction := .ofCounts extracted.entries
      outlet := (attempt.destination.map (.ofOutlet ·.outlet)).getD [] }

end Attempt

/-! ## Runs -/

structure RunOutcome where
  exitCode : Nat
  output : String := ""
  log : List CodeText := []
  files : FileTree
  /-- The fault that ended the run without being reported, if there is one. -/
  escaped : Option RunFault := none
  report : Option (Except AccessFault WrittenReport) := none

def RunContext.log (context : RunContext) (arguments : Arguments) : Log :=
  ((({} : Log).configure arguments.logLevel.rank).startTally).identify context.runId

def information (message : CodeText) : Diagnostic :=
  { level := .info, channel := Channel.command, message }

def RunOutcome.withReport (outcome : RunOutcome) (context : RunContext) (arguments : Arguments)
    (log : Log) (summary : RunReport) : RunOutcome :=
  match arguments.reportDir.filter (!·.isEmpty) with
  | none => outcome
  | some directory =>
    let report := { summary with diagnostics := Fields.ofCounts (log.tally.getD {}).entries }
    match outcome.files.writeReport directory context.runId context.timestamp report.toJson with
    | .error fault => { outcome with exitCode := 1, report := some (.error fault) }
    | .ok (written, files) =>
      let (_, closing) := log.acceptAll [information ("Run report written: " ++ written.path)]
      { outcome with log := outcome.log ++ closing, files, report := some (.ok written) }

def RunContext.run (context : RunContext) (arguments : Arguments) : RunOutcome :=
  let start := information ("compex run " ++ context.runId ++ " over " ++
    toString arguments.sources.length ++ " source(s)")
  let attempt := context.attempt arguments
  let (log, lines) := (context.log arguments).acceptAll
    ([start] ++ attempt.reports ++ attempt.failure?.toList)
  let outcome : RunOutcome :=
    { exitCode := if attempt.failure?.isSome then 1 else 0
      output := (attempt.destination.map (·.standardOutput)).getD ""
      log := lines
      files := (attempt.destination.map (·.finalFiles)).getD context.files }
  match attempt.escaped? with
  | some fault => { outcome with exitCode := 1, escaped := some fault }
  | none => outcome.withReport context arguments log attempt.summary

end TypeCatalog
