import TypeCatalog.Files.Snapshot
import TypeCatalog.Json.Reader
import TypeCatalog.Run

/-!
# The program

Its arguments are those of a run.  The standard input is one line of JSON
from the front end: the files that the run can see, with their syntax trees,
the working directory (`home`), a name for the run (`run_id`) and the time
(`timestamp`).  The document goes to the standard output or to a file, and the
log to the standard error.
-/

open TypeCatalog
open Text (CodeText)

def usage : String :=
  "usage: compex [-h] [-o OUTPUT] [--dump-all] [--config CONFIG] [--data-model MODEL]\n" ++
  "              [--tag-macro NAME] [--repo-root DIR] [--report-dir DIR] [--fail-fast]\n" ++
  "              [--strict-config] [--log-level LEVEL]\n" ++
  "              SOURCE [SOURCE ...]"

def contextOf (environment : Settings.Environment) (input : Json) : RunContext :=
  let text (key default : String) : String :=
    ((input.get? key).bind Json.string?).getD default
  { files := FileTree.ofJson (text "home" "/") input
    environment
    runId := text "run_id" "-"
    timestamp := text "timestamp" "" }

def absolutePath (place : Place) : String :=
  "/" ++ (Path.joined place).toString

def madeDirectories (before after : FileTree) : List String :=
  (after.directories.filter (!before.hasDirectory ·)).map absolutePath

def writtenFiles (before after : FileTree) : List (String × List UInt8) :=
  (after.files.filter fun (place, entry) =>
      (before.file? place).map (·.bytes) != some entry.bytes).map
    fun (place, entry) => (absolutePath place, entry.bytes)

/-- A text as it is printed: a surrogate is shown as its escape. -/
def printed (text : CodeText) : String :=
  String.ofList (text.flatMap fun
    | .scalar c => [c]
    | .surrogate offset => Text.escapedCode (Text.CodePoint.surrogate offset).value)

def main (texts : List String) : IO UInt32 := do
  match CommandLine.read (texts.map .ofString) with
  | .error .help =>
    IO.println usage
    return 0
  | .error .usage =>
    IO.eprintln usage
    return 2
  | .error .noValue =>
    IO.eprintln CommandLine.Fault.noValue.message
    return 1
  | .ok arguments =>
    let line ← (← IO.getStdin).getLine
    let variableOf (name : String) : IO (Option CodeText) :=
      return (← IO.getEnv name).map .ofString
    let environment : Settings.Environment :=
      { dumpAll := ← variableOf "COMPEX_DUMP_ALL", strict := ← variableOf "COMPEX_STRICT_CONFIG" }
    let context := contextOf environment ((Json.read? line).getD (.object []))
    let outcome := context.run arguments
    IO.print outcome.output
    for entry in outcome.log do
      IO.eprintln (printed entry)
    for path in madeDirectories context.files outcome.files do
      IO.FS.createDirAll path
    for (path, bytes) in writtenFiles context.files outcome.files do
      IO.FS.writeBinFile path ⟨bytes.toArray⟩
    match outcome.escaped, outcome.report with
    | some fault, _ => IO.eprintln (printed fault.message)
    | none, some (.error fault) => IO.eprintln fault.message
    | _, _ => pure ()
    return outcome.exitCode.toUInt32
