import TypeCatalog.Files.Tree

/-!
# Writing into a tree of files
-/

namespace TypeCatalog.FileTree

open Text (CodeText)

structure NamedPlace where
  directory : Place
  name : CodeText
  slashes : Bool

/-- The last part of a path in the directory that the parts before it lead to.  A path of
slashes alone has no such part. -/
def lastPart (tree : FileTree) (path : CodeText) : Except AccessCause (Option NamedPlace) := do
  let (start, parts) ← tree.way path
  let named := (parts.reverse.dropWhile List.isEmpty).reverse
  match named.getLast? with
  | none => return none
  | some name =>
    match ← tree.follow start named.dropLast with
    | .file _ => throw .throughFile
    | .directory directory => return some ⟨directory, name, named.length != parts.length⟩

def isDots (name : CodeText) : Bool :=
  name == [Path.dot] || name == Path.outward

def NamedPlace.place (named : NamedPlace) : Except AccessCause Place :=
  if partLimit < Path.byteCount named.name then .error .tooLong
  else .ok (named.directory ++ [named.name])

/-- The place of the file that is written when a path is opened for writing.  The
directories of the path must be there; the file need not be.  A name with slashes after it is
that of a directory, whether it can be one or not. -/
def writingPlace (tree : FileTree) (path : CodeText) : Except AccessCause Place := do
  match ← tree.lastPart path with
  | none => throw .isDirectory
  | some last =>
    if isDots last.name || last.slashes then throw .isDirectory
    let place ← last.place
    if tree.hasDirectory place then throw .isDirectory
    return place

def put (tree : FileTree) (place : Place) (bytes : List UInt8) : FileTree :=
  if (tree.file? place).isSome then
    { tree with
      files := tree.files.map fun (known, entry) =>
        (known, if known == place && !entry.isNull then { entry with bytes } else entry) }
  else { tree with files := tree.files ++ [(place, { bytes })] }

def create (tree : FileTree) (path : CodeText) : Except AccessFault (Place × FileTree) :=
  match tree.writingPlace path with
  | .ok place => .ok (place, tree.put place [])
  | .error cause => .error ⟨cause, path⟩

def makeDirectory (tree : FileTree) (path : CodeText) : Except AccessCause FileTree := do
  match ← tree.lastPart path with
  | none => throw .alreadyThere
  | some last =>
    if isDots last.name then throw .alreadyThere
    let place ← last.place
    if tree.hasDirectory place || (tree.file? place).isSome then throw .alreadyThere
    return { tree with directories := tree.directories ++ [place] }

def leadsSomewhere (tree : FileTree) (path : CodeText) : Bool :=
  (tree.find path).isOk

def ensureDirectory (tree : FileTree) (path : CodeText) : FileTree × Option AccessFault :=
  match tree.makeDirectory path with
  | .ok made => (made, none)
  | .error cause => (tree, if tree.isDirectory path then none else some ⟨cause, path⟩)

/-- Makes a directory, and those around it, unless they are there.  What is made before a fault
stays, and a file in the way is found again by the next step.  The number is greater than the
length of the path. -/
def makeWithin : Nat → FileTree → CodeText → FileTree × Option AccessFault
  | 0, tree, _ => (tree, none)
  | fuel + 1, tree, path =>
    let (outer, name) := Path.outerAndName path
    if outer.isEmpty || name.isEmpty || tree.leadsSomewhere outer then tree.ensureDirectory path
    else
      match makeWithin fuel tree outer with
      | (tree, fault) =>
        if fault.any (·.cause != .alreadyThere) then (tree, fault)
        else if name == [Path.dot] then (tree, none)
        else tree.ensureDirectory path

def makeDirectories (tree : FileTree) (path : CodeText) : Except AccessFault FileTree :=
  match makeWithin (path.length + 1) tree path with
  | (tree, none) => .ok tree
  | (_, some fault) => .error fault

end TypeCatalog.FileTree
