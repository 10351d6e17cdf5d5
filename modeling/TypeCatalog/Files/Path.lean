import TypeCatalog.Text.Blank
import TypeCatalog.Text.CodePoint
import TypeCatalog.Text.Utf8

/-!
# Paths

Parts are separated by slashes.  The operations on texts never look at files,
so `..` takes away the part before it whatever that part is.  Files are known
by the bytes of their paths.  A byte that does not belong to UTF-8 is the
surrogate `0xdc00 + byte` in the text of a path, so there is a text for all
bytes.  A text with any other surrogate is no path.
-/

namespace TypeCatalog.Path

open Text

def slash : CodePoint := .scalar '/'

def dot : CodePoint := .scalar '.'

def outward : CodeText := [dot, dot]

def parts (path : CodeText) : List CodeText :=
  (splitOn slash path).filter (!·.isEmpty)

def joined (parts : List CodeText) : CodeText :=
  joinWith [slash] parts

def isAbsolute (path : CodeText) : Bool :=
  path.head? == some slash

/-- A path below another one; an absolute path stays. -/
def join (outer path : CodeText) : CodeText :=
  if isAbsolute path then path
  else if outer.isEmpty || outer.getLast? == some slash then outer ++ path
  else outer ++ slash :: path

/-- The slashes that an absolute path keeps: exactly two stay two, any other number is
one. -/
def rootMark (path : CodeText) : CodeText :=
  match (path.takeWhile (· == slash)).length with
  | 0 => []
  | 2 => [slash, slash]
  | _ => [slash]

/-- Adds a part to a path that is read from its start; `kept` holds the parts so far, the
last one first. -/
def addPart (rooted : Bool) (kept : List CodeText) (part : CodeText) : List CodeText :=
  if part == [dot] then kept
  else if part == outward then
    match kept with
    | [] => if rooted then [] else [outward]
    | last :: outer => if last == outward then outward :: kept else outer
  else part :: kept

def normalize (path : CodeText) : CodeText :=
  let kept := ((parts path).foldl (addPart (isAbsolute path)) []).reverse
  let text := rootMark path ++ joined kept
  if text.isEmpty then [dot] else text

def absolute (directory path : CodeText) : CodeText :=
  normalize (join directory path)

def dropCommon : List CodeText → List CodeText → List CodeText × List CodeText
  | a :: as, b :: bs => if a == b then dropCommon as bs else (a :: as, b :: bs)
  | as, bs => (as, bs)

def relative (start target : CodeText) : CodeText :=
  let (up, down) := dropCommon (parts start) (parts target)
  let way := up.map (fun _ => outward) ++ down
  if way.isEmpty then [dot] else joined way

/-- The path before the last slash, without slashes at its end unless it has nothing else,
and the part after that slash. -/
def split (path : CodeText) : CodeText × CodeText :=
  let name := (path.reverse.takeWhile (· != slash)).reverse
  let outer := path.take (path.length - name.length)
  (if outer.all (· == slash) then outer else (outer.reverse.dropWhile (· == slash)).reverse, name)

/-- The path around the last part of a path, and that part; slashes at the end do not
count. -/
def outerAndName (path : CodeText) : CodeText × CodeText :=
  let (outer, name) := split path
  if name.isEmpty then split outer else (outer, name)

def fileName (path : CodeText) : CodeText :=
  (split path).2

/-- The file name from its last dot on, unless only dots come before it. -/
def extension (path : CodeText) : CodeText :=
  let reversed := (fileName path).reverse
  let after := (reversed.takeWhile (· != dot)).reverse
  let before := (reversed.dropWhile (· != dot)).drop 1
  if before.all (· == dot) then [] else dot :: after

/-! ## Paths as bytes -/

def pointBytes? : CodePoint → Option (List UInt8)
  | .scalar c => some (Utf8.encodeChar c)
  | .surrogate offset =>
    if 0x480 ≤ offset.val && offset.val < 0x500 then some [(offset.val - 0x400).toUInt8] else none

def bytes? (path : CodeText) : Option (List UInt8) :=
  (path.mapM pointBytes?).map List.flatten

def byteCount (path : CodeText) : Nat :=
  ((bytes? path).getD []).length

def strayByte (byte : UInt8) : CodePoint :=
  .surrogate ⟨0x400 + byte.toNat, by have := byte.toNat_lt; omega⟩

/-- Reads the text of a path after skipping bytes that belong to the character before. -/
def ofBytesFrom : Nat → List UInt8 → CodeText
  | _, [] => []
  | skip + 1, _ :: rest => ofBytesFrom skip rest
  | 0, first :: rest =>
    match Utf8.head first rest with
    | .char c extra => .scalar c :: ofBytesFrom extra rest
    | .fault _ _ => strayByte first :: ofBytesFrom 0 rest

def ofBytes (bytes : List UInt8) : CodeText :=
  ofBytesFrom 0 bytes

def canonical? (path : CodeText) : Option CodeText :=
  if path.any CodePoint.isSurrogate then (bytes? path).map ofBytes else some path

/-- The first surrogate that stands for no byte, with all surrogates right after it. -/
def encodingFault (path : CodeText) : EncodingFault :=
  .of (pointBytes? · |>.isSome) path

end TypeCatalog.Path
