import TypeCatalog.Files.Tree

/-!
# The source files below a directory
-/

namespace TypeCatalog

open Text (CodeText)

def sourceExtensions : List String :=
  [".c", ".cc", ".cpp", ".cxx", ".h", ".hpp", ".hxx"]

def productDirectories : List String :=
  ["build", "cmake-build-debug", "cmake-build-release", "node_modules", "venv", "__pycache__",
    "dist", "out"]

def isSourceName (path : CodeText) : Bool :=
  (Path.extension path).string?.any sourceExtensions.contains

def isSearched (name : CodeText) : Bool :=
  name.head? != some Path.dot && !name.string?.any productDirectories.contains

def discoveryNote (message : CodeText) : Diagnostic :=
  { level := .info, channel := Channel.extractor, message }

namespace FileTree

def below? (directory place : Place) : Option (List CodeText) :=
  if directory.isPrefixOf place && place != directory then some (place.drop directory.length)
  else none

def sourcesBelow (tree : FileTree) (directory : CodeText) : List CodeText :=
  let ways := tree.files.filterMap fun (place, _) => below? (Path.parts directory) place
  let found := ways.filter fun way =>
    way.dropLast.all isSearched && way.getLast?.any isSourceName
  (found.map fun way => Path.join directory (Path.joined way)).mergeSort CodeText.precedes

/-- The source files below a directory, by their absolute paths.  Whatever is no directory
has none, but what no path can be is refused. -/
def discover (tree : FileTree) (directory : CodeText) :
    Except AccessFault (List CodeText × List Diagnostic) :=
  let absolute := Path.absolute tree.home directory
  match known absolute with
  | .error cause => .error ⟨cause, absolute⟩
  | .ok _ =>
    let found := tree.sourcesBelow absolute
    .ok (found, [discoveryNote ("Discovering C++ files in " ++ absolute),
      discoveryNote ("Found " ++ toString found.length ++ " C++ files")])

def sourceFiles (tree : FileTree) : List CodeText → List CodeText × List Diagnostic
  | [] => ([], [])
  | source :: rest =>
    let (others, later) := tree.sourceFiles rest
    match tree.isDirectory source, tree.discover source with
    | true, .ok (found, notes) => (found ++ others, notes ++ later)
    | _, _ => (source :: others, later)

end FileTree

end TypeCatalog
