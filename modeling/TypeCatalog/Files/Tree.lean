import TypeCatalog.Files.Path
import TypeCatalog.Syntax.Source

/-!
# The files that a run can see

A tree of files is known by the places of its files and of directories that
need not hold any.  A place is the list of the parts of an absolute path.
-/

namespace TypeCatalog

open Text (CodeText)

abbrev Place := List CodeText

structure FileEntry where
  bytes : List UInt8
  readable : Bool := true
  /-- Whether it is the null device: no regular file, and nothing written to it stays. -/
  isNull : Bool := false
  grammar : Grammar := fun _ => .mk { kind := "translation_unit", named := true } []

structure FileTree where
  home : CodeText
  files : List (Place × FileEntry) := []
  directories : List Place := []

inductive AccessCause where
  | missing
  | denied
  | alreadyThere
  | throughFile
  | isDirectory
  | tooLong
  | nulCharacter
  | surrogates (fault : Text.EncodingFault)
  deriving DecidableEq, Repr

namespace AccessCause

def isOfPath : AccessCause → Bool
  | nulCharacter | surrogates _ => true
  | _ => false

def message (path : CodeText) : AccessCause → String
  | missing => numbered 2 "No such file or directory"
  | denied => numbered 13 "Permission denied"
  | alreadyThere => numbered 17 "File exists"
  | throughFile => numbered 20 "Not a directory"
  | isDirectory => numbered 21 "Is a directory"
  | tooLong => numbered 36 "File name too long"
  | nulCharacter => "embedded null byte"
  | surrogates fault => fault.message
where
  numbered (number : Nat) (text : String) : String :=
    "[Errno " ++ toString number ++ "] " ++ text ++ ": " ++ Text.quoted path

end AccessCause

structure AccessFault where
  cause : AccessCause
  path : CodeText
  deriving DecidableEq, Repr

/-- The message names the path, unless the path itself is at fault. -/
def AccessFault.message (fault : AccessFault) : String :=
  fault.cause.message fault.path

def partLimit : Nat := 255

def pathLimit : Nat := 4095

inductive Found where
  | file (entry : FileEntry)
  | directory (place : Place)

namespace FileTree

def hasDirectory (tree : FileTree) (place : Place) : Bool :=
  place.isPrefixOf (Path.parts tree.home) || tree.directories.any place.isPrefixOf ||
    tree.files.any fun (file, _) => place.isPrefixOf file && place != file

def file? (tree : FileTree) (place : Place) : Option FileEntry :=
  tree.files.lookup place

def follow (tree : FileTree) (place : Place) : List CodeText → Except AccessCause Found
  | [] => .ok (.directory place)
  | part :: rest =>
    if part.isEmpty || part == [Path.dot] then tree.follow place rest
    else if part == Path.outward then tree.follow place.dropLast rest
    else if partLimit < Path.byteCount part then .error .tooLong
    else
      let next := place ++ [part]
      match tree.file? next with
      | some entry => if rest.isEmpty then .ok (.file entry) else .error .throughFile
      | none => if tree.hasDirectory next then tree.follow next rest else .error .missing

def known (path : CodeText) : Except AccessCause CodeText :=
  match Path.canonical? path with
  | none => .error (.surrogates (Path.encodingFault path))
  | some path => if path.contains (.scalar '\x00') then .error .nulCharacter else .ok path

/-- The place that a path starts from and the parts between its slashes, empty ones included.
The empty path leads nowhere. -/
def way (tree : FileTree) (path : CodeText) : Except AccessCause (Place × List CodeText) := do
  let path ← known path
  if path.isEmpty then throw .missing
  if pathLimit < Path.byteCount path then throw .tooLong
  return (if Path.isAbsolute path then [] else Path.parts tree.home,
    Text.splitOn Path.slash path)

def find (tree : FileTree) (path : CodeText) : Except AccessCause Found := do
  let (start, parts) ← tree.way path
  tree.follow start parts

def isFile (tree : FileTree) (path : CodeText) : Bool :=
  match tree.find path with
  | .ok (.file entry) => !entry.isNull
  | _ => false

def isDirectory (tree : FileTree) (path : CodeText) : Bool :=
  match tree.find path with
  | .ok (.directory _) => true
  | _ => false

def read (tree : FileTree) (path : CodeText) : Except AccessFault FileEntry :=
  match tree.find path with
  | .ok (.file entry) => .ok entry
  | .ok (.directory _) => .error ⟨.isDirectory, path⟩
  | .error cause => .error ⟨cause, path⟩

def readSource (tree : FileTree) (path : CodeText) : Except AccessFault FileEntry := do
  let entry ← tree.read path
  if entry.readable then .ok entry else .error ⟨.denied, path⟩

end FileTree

end TypeCatalog
