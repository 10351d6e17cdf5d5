import TypeCatalog.Files.Tree
import TypeCatalog.Syntax.Exchange

/-!
# Trees of files in JSON

A front end hands over the files together with their syntax trees: an object
with `files` and `dirs`.  A file has a path, its text (`source`) or its bytes
in hexadecimal (`hex`), and the syntax tree of its expanded text (`tree`); an
`unreadable` one cannot be opened as a source.  Of two files with one path the
later one counts.  Beside them there are the null device and the directory for
temporary files.
-/

namespace TypeCatalog

open Text (CodeText)

def bytesOfPairs : List Char → List UInt8
  | high :: low :: rest => ((Text.hexNumber? [high, low]).getD 0).toUInt8 :: bytesOfPairs rest
  | _ => []

def bytesOfHex (text : List Char) : List UInt8 :=
  bytesOfPairs (text.filter (!Text.isBlank ·))

def FileEntry.ofJson (json : Json) : FileEntry :=
  let text (key : String) : Option (List Char) :=
    ((json.get? key).bind Json.string?).map String.toList
  { bytes := ((text "hex").map bytesOfHex).getD (Text.Utf8.encode ((text "source").getD []))
    readable := ((json.get? "unreadable").bind Json.bool?) != some true
    grammar := fun source => SyntaxNode.ofJson source ((json.get? "tree").getD .null) }

namespace FileTree

def placeIn (home path : CodeText) : Place :=
  Path.parts (Path.absolute home path)

def nullDevice : Place × FileEntry :=
  (["dev", "null"], { bytes := [], isNull := true })

def temporaryDirectory : Place :=
  ["tmp"]

def ofJson (home : CodeText) (json : Json) : FileTree :=
  let items (key : String) : List Json := ((json.get? key).map Json.items).getD []
  { home
    files := (items "files").foldl
      (fun files file =>
        let place := placeIn home (((file.get? "path").bind Json.text?).getD [])
        files.filter (·.1 != place) ++ [(place, .ofJson file)]) [nullDevice]
    directories := temporaryDirectory :: ((items "dirs").filterMap Json.text?).map (placeIn home) }

end FileTree

end TypeCatalog
