import TypeCatalog.Expansion
import TypeCatalog.Syntax.Item

/-!
# Source texts

Tag macros are expanded before a text is parsed, so a tree refers to the
expanded text.  The grammar itself is not decided here: it is whatever finds
the tree of a text.
-/

namespace TypeCatalog

open Text

abbrev Grammar := Array UInt8 → SyntaxNode

structure Parsed where
  tree : SyntaxNode
  reports : List Diagnostic

def notBytesMessage (typeName : String) : String :=
  "Source must be bytes, got " ++ typeName

/-- Expands the macros with the given names, and parses what comes out.  Bytes that are not
UTF-8 are replaced. -/
def parseText (grammar : Grammar) (macroNames : List CodeText) (source : List UInt8) : Parsed :=
  let (expanded, reports) := Expansion.expand macroNames (.ofChars (Utf8.decodeLossy source))
  let tree := grammar (Utf8.encode expanded.toChars).toArray
  let faulty : Diagnostic :=
    { level := .warning, channel := Channel.parser,
      message := "Parsed tree contains syntax errors" }
  let parsed : Diagnostic :=
    { level := .debug, channel := Channel.parser,
      message := "Parsed " ++ toString source.length ++ " bytes of C++ code" }
  { tree, reports := reports ++ (if tree.hasError then [faulty] else []) ++ [parsed] }

def extractionStarted (file : CodeText) : Diagnostic :=
  { level := .info, channel := Channel.traversal,
    message := "Extracting declarations from " ++ file }

def extractionEnded (file : CodeText) (count : Nat) : Diagnostic :=
  { level := .info, channel := Channel.traversal,
    message := "Extracted " ++ toString count ++ " declarations from " ++ file }

structure Extraction where
  groups : List Group
  fault : Option ItemFault
  types : KnownTypes
  reports : List Diagnostic

def extract (file : CodeText) (types : KnownTypes) (tree : SyntaxNode) : Extraction :=
  let (groups, fault, session) :=
    Session.readItems { file, types } (Item.all [] false tree)
  let count := groups.flatten.length
  { groups, fault, types := session.types
    reports := extractionStarted file :: session.reports.toList ++
      (if fault.isNone then [extractionEnded file count] else []) }

end TypeCatalog
