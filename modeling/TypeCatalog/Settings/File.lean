import TypeCatalog.Files.Tree
import TypeCatalog.Layout.DataModel
import TypeCatalog.Settings.Text
import TypeCatalog.Yaml.Scalar
import TypeCatalog.Yaml.Value

/-!
# Settings files

A settings file is a mapping with known keys.  A file that cannot be read, and
entries that are not valid, are faults if the file is read strictly;
otherwise they are reported and passed over.
-/

namespace TypeCatalog.Settings

open Text Yaml

/-! ## Keys and values -/

inductive Key where
  | output
  | dumpAll
  | dataModel
  | tagMacros
  | tagAttributes
  | repoRoot
  | continueOnError
  deriving DecidableEq, Repr

inductive Kind where
  | text
  | flag
  | names
  deriving DecidableEq, Repr

def Kind.name : Kind → String
  | text => "str"
  | flag => "bool"
  | names => "list"

namespace Key

def all : List Key :=
  [output, dumpAll, dataModel, tagMacros, tagAttributes, repoRoot, continueOnError]

def name : Key → String
  | output => "output"
  | dumpAll => "dump_all"
  | dataModel => "data_model"
  | tagMacros => "tag_macros"
  | tagAttributes => "tag_attributes"
  | repoRoot => "repo_root"
  | continueOnError => "continue_on_error"

def kind : Key → Kind
  | output | dataModel | repoRoot => .text
  | dumpAll | continueOnError => .flag
  | tagMacros | tagAttributes => .names

def ofScalar? : Scalar → Option Key
  | .text value => all.find? (CodeText.ofString ·.name == value)
  | _ => none

end Key

inductive Setting where
  | text (value : CodeText)
  | flag (value : Bool)
  | names (values : List CodeText)
  deriving DecidableEq, Repr

def texts? : List Value → Option (List CodeText)
  | [] => some []
  | .scalar (.text value) :: rest => (texts? rest).map (value :: ·)
  | _ => none

/-- A value of a settings file, if it is of a kind.  A list of pairs is a list of texts only if
it is empty. -/
def settingOf? (loaded : Loaded) (kind : Kind) (value : Value) : Option Setting :=
  match kind, value, loaded.objectOf? value with
  | .text, .scalar (.text value), _ => some (.text value)
  | .flag, .scalar (.bool value), _ => some (.flag value)
  | .names, _, some (.list items) => (texts? items).map .names
  | .names, _, some (.pairs []) => some (.names [])
  | _, _, _ => none

abbrev Entries := List (Key × Setting)

namespace Entries

def text? (entries : Entries) (key : Key) : Option CodeText :=
  match entries.lookup key with
  | some (.text value) => some value
  | _ => none

def flag? (entries : Entries) (key : Key) : Option Bool :=
  match entries.lookup key with
  | some (.flag value) => some value
  | _ => none

def names? (entries : Entries) (key : Key) : Option (List CodeText) :=
  match entries.lookup key with
  | some (.names values) => some values
  | _ => none

end Entries

/-! ## Faults -/

inductive Fault where
  | notFound (path : CodeText)
  | malformed (path : CodeText)
  | notMapping (typeName : String)
  | unknownKey (key path : CodeText)
  | wrongKind (key : Key) (path : CodeText)
  | unknownModel (name : CodeText)
  | severalOutputs (destinations : List CodeText)
  | access (fault : AccessFault)
  | notUtf8 (fault : Utf8.Fault)
  | noValue (fault : ScalarFault)
  | unwritableKey
  deriving DecidableEq, Repr

def undecodable (fault : Utf8.Fault) : String :=
  match fault.bytes with
  | [byte] =>
    "byte 0x" ++ String.ofList (hexDigits 2 byte.toNat) ++ " in position " ++
      toString fault.position
  | bytes =>
    "bytes in position " ++ toString fault.position ++ "-" ++
      toString (fault.position + bytes.length - 1)

def Fault.message : Fault → CodeText
  | notFound path => "Config file not found: " ++ path
  | malformed path => "Failed to parse config YAML at " ++ path ++ ": <yaml error>"
  | notMapping typeName => "Unexpected config payload type: " ++ typeName
  | unknownKey key path => "Unknown config key '" ++ key ++ "' in " ++ path
  | wrongKind key path =>
    "Config key '" ++ key.name ++ "' in " ++ path ++ " must be " ++ key.kind.name
  | unknownModel name => DataModel.unknownMessage name
  | severalOutputs destinations =>
    "Output destination configured more than once: " ++ joinWith ", " destinations
  | access fault => fault.message
  | notUtf8 fault =>
    "'utf-8' codec can't decode " ++ undecodable fault ++ ": " ++ fault.reason.message
  | noValue fault => fault.message
  | unwritableKey => Integer.unwritableMessage

/-- Whether a fault is in the settings themselves, and not in the access to their file or in a
value. -/
def Fault.isInvalid : Fault → Bool
  | access _ | notUtf8 _ | noValue _ | unwritableKey => false
  | _ => true

/-- What is reported about a fault that is passed over, if it may be: a file that is passed
over is as good as empty. -/
def Fault.remark? : Fault → Option CodeText
  | notFound path => some ((notFound path).message ++ "; continuing with defaults")
  | malformed path => some ((malformed path).message ++ "; continuing with defaults")
  | notMapping typeName => some ((notMapping typeName).message ++ "; continuing with defaults")
  | unknownKey key path => some ((unknownKey key path).message ++ "; ignoring")
  | wrongKind key path => some ((wrongKind key path).message ++ "; ignoring")
  | _ => none

def pass (strict : Bool) (fault : Fault) : Except Fault (List Diagnostic) :=
  match strict, fault.remark? with
  | false, some message => .ok [{ level := .warning, channel := Channel.settings, message }]
  | _, _ => .error fault

/-! ## Reading -/

def readValue (files : FileTree) (path : CodeText) : Except Fault Loaded :=
  match files.read path with
  | .error fault => .error (if fault.cause == .missing then .notFound path else .access fault)
  | .ok file =>
    let text := FileText.ofBytes file.bytes
    match Yaml.load none text.source, text.undecoded with
    | .ok loaded, _ => .ok loaded
    | .error (.noValue fault), _ => .error (.noValue fault)
    | .error .unreadable, some fault => .error (.notUtf8 fault)
    | .error _, _ => .error (.malformed path)

/-- The entries of the mapping that a value has to be; null is an empty one. -/
def entriesOf (loaded : Loaded) : Except Fault (List (Scalar × Value)) :=
  match loaded.root, loaded.objectOf? loaded.root with
  | .scalar .null, _ => .ok []
  | _, some (.mapping _ entries) => .ok entries
  | root, _ => .error (.notMapping (loaded.typeName root))

def readEntry (path : CodeText) (loaded : Loaded) (key : Scalar) (value : Value) :
    Except Fault (Key × Setting) :=
  match Key.ofScalar? key with
  | none =>
    match key.display? with
    | some text => .error (.unknownKey text path)
    | none => .error .unwritableKey
  | some known =>
    match settingOf? loaded known.kind value with
    | some setting => .ok (known, setting)
    | none => .error (.wrongKind known path)

structure Outcome where
  result : Except Fault Entries
  reports : List Diagnostic := []

def readEntries (strict : Bool) (path : CodeText) (loaded : Loaded) :
    List (Scalar × Value) → Outcome
  | [] => { result := .ok [] }
  | (key, value) :: rest =>
    match readEntry path loaded key value with
    | .ok entry =>
      let others := readEntries strict path loaded rest
      { others with result := others.result.map (entry :: ·) }
    | .error fault =>
      match pass strict fault with
      | .error fault => { result := .error fault }
      | .ok reports =>
        let others := readEntries strict path loaded rest
        { others with reports := reports ++ others.reports }

def load (files : FileTree) (strict : Bool) (path : CodeText) : Outcome :=
  let read : Except Fault (Loaded × List (Scalar × Value)) := do
    let loaded ← readValue files path
    return (loaded, ← entriesOf loaded)
  match read with
  | .ok (loaded, entries) => readEntries strict path loaded entries
  | .error fault =>
    match pass strict fault with
    | .ok reports => { result := .ok [], reports }
    | .error fault => { result := .error fault }

end TypeCatalog.Settings
