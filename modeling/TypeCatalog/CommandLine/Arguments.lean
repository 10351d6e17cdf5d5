import TypeCatalog.CommandLine.Word
import TypeCatalog.Settings.Build

/-!
# The arguments of a run, as a command line gives them

The sources are the first plain words that stand together; plain words
further on are a fault.  Words are read from left to right, so the help is
given although there are faults after it.
-/

namespace TypeCatalog

open Text (CodeText)

structure Arguments where
  sources : List CodeText := []
  outputs : List CodeText := []
  dumpAll : Bool := false
  config : Option CodeText := none
  dataModel : Option CodeText := none
  tagMacros : List CodeText := []
  repoRoot : Option CodeText := none
  reportDir : Option CodeText := none
  failFast : Bool := false
  strictConfig : Bool := false
  logLevel : Level := .warning
  deriving DecidableEq, Repr, Inhabited

def Arguments.request (arguments : Arguments) : Settings.Request :=
  { outputs := arguments.outputs, dumpAll := arguments.dumpAll, file := arguments.config,
    dataModel := arguments.dataModel, tagMacros := arguments.tagMacros,
    repoRoot := arguments.repoRoot, failFast := arguments.failFast,
    strict := if arguments.strictConfig then some true else none }

namespace CommandLine

def levels : List Level :=
  [.debug, .info, .warning, .error]

def use (arguments : Arguments) (switch : Switch) (value : CodeText) : Except Fault Arguments :=
  if switch.takesValue && value == "--" then .error .noValue
  else match switch with
  | .help => .error .help
  | .output => .ok { arguments with outputs := arguments.outputs ++ [value] }
  | .dumpAll => .ok { arguments with dumpAll := true }
  | .config => .ok { arguments with config := some value }
  | .dataModel =>
    if DataModel.names.any (· == value) then .ok { arguments with dataModel := some value }
    else .error .usage
  | .tagMacro => .ok { arguments with tagMacros := arguments.tagMacros ++ [value] }
  | .repoRoot => .ok { arguments with repoRoot := some value }
  | .reportDir => .ok { arguments with reportDir := some value }
  | .failFast => .ok { arguments with failFast := true }
  | .strictConfig => .ok { arguments with strictConfig := true }
  | .logLevel =>
    match levels.find? (·.name == value) with
    | some logLevel => .ok { arguments with logLevel }
    | none => .error .usage

def useAll (arguments : Arguments) : List Use → Except Fault Arguments
  | [] => .ok arguments
  | ⟨switch, value⟩ :: rest => do
    useAll (← use arguments switch (value.getD "")) rest

inductive Stage where
  | before
  | among
  | after
  deriving DecidableEq, Repr

structure Progress where
  arguments : Arguments := {}
  stage : Stage := .before
  surplus : Bool := false
  deriving DecidableEq, Repr, Inhabited

namespace Progress

def plain (progress : Progress) (text : CodeText) : Progress :=
  if progress.stage == .after then { progress with surplus := true }
  else
    { progress with
      stage := .among
      arguments := { progress.arguments with sources := progress.arguments.sources ++ [text] } }

def mark (progress : Progress) : Progress :=
  if progress.stage == .after then { progress with surplus := true }
  else { progress with stage := .among }

/-- Carries out the options of a word; sources do not go on after them. -/
def options (progress : Progress) (uses : List Use) : Except Fault Progress := do
  let arguments ← useAll progress.arguments uses
  return { progress with
    arguments, stage := if progress.stage == .among then .after else progress.stage }

def finish (progress : Progress) : Except Fault Arguments :=
  if progress.surplus || progress.arguments.sources.isEmpty then .error .usage
  else .ok progress.arguments

end Progress

def needsValue (uses : List Use) : Bool :=
  match uses.getLast? with
  | some last => last.switch.takesValue && last.value.isNone
  | none => false

def giveValue (uses : List Use) (value : CodeText) : List Use :=
  match uses with
  | [] => []
  | [last] => [{ last with value := some value }]
  | first :: rest => first :: giveValue rest value

def readWords (progress : Progress) : List Word → Except Fault Progress
  | [] => .ok progress
  | .plain text :: rest => readWords (progress.plain text) rest
  | .mark :: rest => readWords progress.mark rest
  | .unknown :: rest =>
    readWords { progress with
      surplus := true, stage := if progress.stage == .among then .after else progress.stage } rest
  | .malformed :: _ => .error .usage
  | .options uses :: rest =>
    if needsValue uses then
      match rest with
      | .plain value :: others => do
        readWords (← progress.options (giveValue uses value)) others
      | _ => .error .usage
    else do
      readWords (← progress.options uses) rest

def read (texts : List CodeText) : Except Fault Arguments := do
  let progress ← readWords {} (← words texts)
  progress.finish

end CommandLine

end TypeCatalog
