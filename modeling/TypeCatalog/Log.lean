import TypeCatalog.Diagnostic

/-!
# The log of a run

A log passes on the diagnostics that reach its threshold.  It prints them,
each with the run and the source it belongs to, and counts the warnings and
errors among them, if it was set up to do so.
-/

namespace TypeCatalog

open Text (CodeText)

/-! ## Counts -/

structure Tally where
  warnings : Nat := 0
  errors : Nat := 0
  deriving DecidableEq, Repr, Inhabited

namespace Tally

def count (tally : Tally) : Level → Tally
  | .warning => { tally with warnings := tally.warnings + 1 }
  | .error | .critical => { tally with errors := tally.errors + 1 }
  | .debug | .info => tally

def entries (tally : Tally) : List (String × Nat) :=
  [("warnings", tally.warnings), ("errors", tally.errors)]

end Tally

/-! ## Logs -/

structure Log where
  threshold : Nat := Level.warning.rank
  printing : Bool := false
  tally : Option Tally := none
  runId : CodeText := "-"
  /-- The sources being processed, the innermost first. -/
  sources : List CodeText := []
  deriving DecidableEq, Repr, Inhabited

namespace Log

def source (log : Log) : CodeText :=
  log.sources.headD "-"

/-- Sets the threshold.  A log that neither prints nor counts starts to print. -/
def configure (log : Log) (threshold : Nat := Level.info.rank) : Log :=
  { log with threshold, printing := log.printing || log.tally.isNone }

def startTally (log : Log) : Log :=
  { log with tally := some {} }

def identify (log : Log) (fresh : CodeText) (given : Option CodeText := none) : Log :=
  { log with runId := (Text.proper? given).getD fresh }

def enter (log : Log) (source : CodeText) : Log :=
  { log with sources := source :: log.sources }

def leave (log : Log) : Log :=
  { log with sources := log.sources.drop 1 }

/-- The line that shows a diagnostic.  The channel without a name is called `root`. -/
def line (log : Log) (diagnostic : Diagnostic) : CodeText :=
  let channel := (Text.proper? diagnostic.channel).getD "root"
  diagnostic.level.name ++ " | run_id=" ++ log.runId ++ " | source=" ++ diagnostic.source ++
    " | " ++ channel ++ " | " ++ diagnostic.message

def accept (log : Log) (diagnostic : Diagnostic) : Log × Option CodeText :=
  if diagnostic.passes log.threshold then
    ({ log with tally := log.tally.map (·.count diagnostic.level) },
      if log.printing then some (log.line diagnostic) else none)
  else (log, none)

def acceptAll (log : Log) : List Diagnostic → Log × List CodeText
  | [] => (log, [])
  | diagnostic :: rest =>
    let (next, line) := log.accept diagnostic
    let (last, lines) := next.acceptAll rest
    (last, line.toList ++ lines)

end Log

end TypeCatalog
