import TypeCatalog.Dump
import TypeCatalog.Settings.File
import TypeCatalog.Text.LowerCase

/-!
# The settings of a run

They come from a settings file, from the environment and from the command
line; a later one of these wins.  The destination of the document is the
exception: it may be given only once.
-/

namespace TypeCatalog

open Text

structure Settings where
  /-- The destination of the document; none is the standard output. -/
  output : Option CodeText := none
  dumpAll : Bool := false
  dataModel : String := DataModel.defaultName
  tagMacros : List CodeText := Expansion.defaultNames
  tagAttributes : List CodeText := Tag.defaultNames
  repoRoot : Option CodeText := none
  continueOnError : Bool := true
  deriving DecidableEq, Repr, Inhabited

namespace Settings

def options (settings : Settings) : DumpOptions :=
  { dumpAll := settings.dumpAll, dataModel := settings.dataModel,
    macroNames := settings.tagMacros, tagNames := settings.tagAttributes,
    root := settings.repoRoot, continueOnError := settings.continueOnError }

def display (settings : Settings) : String :=
  let text (value : Option CodeText) : String := (value.map quoted).getD "None"
  let flag (value : Bool) : String := if value then "True" else "False"
  "\x7b'output': " ++ text settings.output ++ ", 'dump_all': " ++ flag settings.dumpAll ++
    ", 'data_model': " ++ quoted settings.dataModel ++ ", 'tag_macros': " ++
    quotedList settings.tagMacros ++ ", 'tag_attributes': " ++
    quotedList settings.tagAttributes ++ ", 'repo_root': " ++ text settings.repoRoot ++
    ", 'continue_on_error': " ++ flag settings.continueOnError ++ "\x7d"

/-! ## Environment -/

structure Environment where
  dumpAll : Option CodeText := none
  strict : Option CodeText := none
  deriving DecidableEq, Repr, Inhabited

/-- Whether a variable is switched on; an absent one has a default. -/
def isOn (default : Bool) : Option CodeText → Bool
  | none => default
  | some text => (["1", "true", "yes", "on"] : List CodeText).contains (lowerText (trim text))

def isStrict (environment : Environment) (default : Bool) : Bool :=
  isOn default environment.strict

/-! ## Settings from all sources -/

structure Request where
  outputs : List CodeText := []
  dumpAll : Bool := false
  file : Option CodeText := none
  dataModel : Option CodeText := none
  tagMacros : List CodeText := []
  repoRoot : Option CodeText := none
  failFast : Bool := false
  strict : Option Bool := none
  deriving DecidableEq, Repr, Inhabited

def destination (requested : List CodeText) (fromFile : Option CodeText) :
    Except Fault (Option CodeText) :=
  match requested ++ fromFile.toList with
  | [] => .ok none
  | [single] => .ok (some single)
  | several => .error (.severalOutputs several)

def modelName (request : Request) (entries : Entries) : Except Fault String :=
  let given := (proper? request.dataModel).or (proper? (entries.text? .dataModel))
  let name := lowerText (given.getD DataModel.defaultName)
  match name.string?.filter DataModel.names.contains with
  | some known => .ok known
  | none => .error (.unknownModel name)

def combine (request : Request) (environment : Environment) (entries : Entries) :
    Except Fault Settings := do
  let output ← destination request.outputs (entries.text? .output)
  let dataModel ← modelName request entries
  let macros := (entries.names? .tagMacros).getD Expansion.defaultNames
  let attributes := (entries.names? .tagAttributes).getD []
  return {
    output, dataModel
    dumpAll := request.dumpAll || isOn false environment.dumpAll ||
      (entries.flag? .dumpAll).getD false
    tagMacros := macros ++ request.tagMacros.filter (!macros.contains ·)
    tagAttributes := if attributes.isEmpty then Tag.defaultNames else attributes
    repoRoot := (proper? request.repoRoot).or (entries.text? .repoRoot)
    continueOnError := !request.failFast && (entries.flag? .continueOnError).getD true }

def build (files : FileTree) (environment : Environment) (request : Request) :
    Except Fault Settings × List Diagnostic :=
  let strict := request.strict.getD (isStrict environment false)
  let file : Outcome := match Text.proper? request.file with
    | some path => load files strict path
    | none => { result := .ok [] }
  match file.result.bind (combine request environment) with
  | .ok settings =>
    (.ok settings, file.reports ++
      [{ level := .debug, channel := Channel.settings,
         message := "Dump configuration: " ++ settings.display }])
  | .error fault => (.error fault, file.reports)

end Settings

end TypeCatalog
