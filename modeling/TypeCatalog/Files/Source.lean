import TypeCatalog.Files.Discovery

/-!
# Source files: opening, parsing and reading them
-/

namespace TypeCatalog

open Text (CodeText)

/-! ## Parsing -/

structure ParsedFile where
  tree : SyntaxNode
  size : Nat

def openFile (files : FileTree) (macroNames : List CodeText) (path : CodeText) :
    Except AccessFault ParsedFile × List Diagnostic :=
  let note (level : Level) (message : CodeText) : Diagnostic :=
    { level, channel := Channel.parser, message }
  match files.readSource path with
  | .error fault =>
    let notes :=
      if fault.cause == .missing then [note .error ("File not found: " ++ path)]
      else if fault.cause.isOfPath then []
      else [note .error ("Error reading file " ++ path ++ ": " ++ fault.message)]
    (.error fault, notes)
  | .ok entry =>
    let parsed := parseText entry.grammar macroNames entry.bytes
    let faulty :=
      if parsed.tree.hasError then
        [note .warning ("File " ++ path ++ " contains syntax errors")]
      else []
    (.ok ⟨parsed.tree, entry.bytes.length⟩,
      parsed.reports ++ faulty ++ [note .info ("Successfully parsed file: " ++ path)])

/-! ## Checked opening -/

inductive SourceFault where
  | notFound (path : CodeText)
  | notSource (path : CodeText)
  | access (fault : AccessFault)
  deriving DecidableEq, Repr

def SourceFault.message : SourceFault → CodeText
  | notFound path => "File not found: " ++ path
  | notSource path =>
    "File " ++ path ++ " is not a C++ source file. Expected one of: " ++
      Text.quotedList (sourceExtensions.map CodeText.ofString)
  | access fault => fault.message

def checkSource (files : FileTree) (path : CodeText) : Except SourceFault Unit :=
  if !files.isFile path then .error (.notFound path)
  else if !isSourceName path then .error (.notSource path)
  else .ok ()

def openSource (files : FileTree) (macroNames : List CodeText) (path : CodeText) :
    Except SourceFault (SyntaxNode × Nat) × List Diagnostic :=
  match checkSource files path with
  | .error fault => (.error fault, [])
  | .ok _ =>
    match openFile files macroNames path with
    | (.error fault, reports) => (.error (.access fault), reports)
    | (.ok parsed, reports) =>
      let errors := parsed.tree.errorCount
      let warning : Diagnostic :=
        { level := .warning, channel := Channel.extractor,
          message := "File " ++ path ++ " contains syntax errors (" ++ toString errors ++
            " error nodes)" }
      (.ok (parsed.tree, errors), reports ++ (if errors == 0 then [] else [warning]))

/-- The path of a source as documents show it: as given, or relative to a root. -/
def shownPath (files : FileTree) (root : Option CodeText) (path : CodeText) : CodeText :=
  match root with
  | none => path
  | some root =>
    Path.relative (Path.absolute files.home root) (Path.absolute files.home path)

/-! ## Declarations of a file -/

inductive FileFault where
  | source (fault : SourceFault)
  | items (fault : ItemFault)
  deriving DecidableEq, Repr

def FileFault.message : FileFault → CodeText
  | source fault => fault.message
  | items fault => fault.message

structure FileGroups where
  groups : List Group := []
  fault : Option FileFault := none
  types : KnownTypes
  reports : List Diagnostic := []

def fileGroups (files : FileTree) (types : KnownTypes) (root : Option CodeText)
    (macroNames : List CodeText) (path : CodeText) : FileGroups :=
  match openSource files macroNames path with
  | (.error fault, reports) => { fault := some (.source fault), types, reports }
  | (.ok (tree, _), reports) =>
    let extraction := extract (shownPath files root path) types tree
    { groups := extraction.groups, fault := extraction.fault.map .items,
      types := extraction.types, reports := reports ++ extraction.reports }

end TypeCatalog
