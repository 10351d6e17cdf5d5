import TypeCatalog.Document.Scalar
import TypeCatalog.Text.Quoted

/-!
# Lines of a document

A document is a sequence of lines, each indented by two spaces for every
block that is open.  The writer keeps the number of open blocks and counts
the lines; every operation yields the line it writes.  An operation that is
refused yields no line and opens nothing.
-/

namespace TypeCatalog.Document

open Text

structure LineWriter where
  depth : Nat := 0
  lines : Nat := 0
  deriving DecidableEq, Repr, Inhabited

inductive LineFault where
  | invalidAnchor (name : CodeText)
  | invalidTag (name : CodeText)
  | unwritable
  deriving DecidableEq, Repr

def LineFault.message : LineFault → String
  | invalidAnchor name => "Invalid anchor name: " ++ quoted name
  | invalidTag name => "Invalid tag name: " ++ quoted name
  | unwritable => Text.Integer.unwritableMessage

def tagStart : String := "!compex/"

/-- A name made of allowed characters; a final line feed is tolerated. -/
def isNameOf (allowed : Char → Bool) (name : List Char) : Bool :=
  let body := if name.getLast? == some '\n' then name.dropLast else name
  !body.isEmpty && body.all allowed

def anchorName (name : CodeText) : Except LineFault (List Char) :=
  match name.chars?.filter (isNameOf fun c => c.isAlphanum || c == '_' || c == '-') with
  | some chars => .ok chars
  | none => .error (.invalidAnchor name)

def tagName (name : CodeText) : Except LineFault (List Char) :=
  match name.chars?.filter (isNameOf fun c => c.isAlphanum || c == '_') with
  | some chars => .ok chars
  | none => .error (.invalidTag name)

def nodeProperties (tag anchor : Option CodeText) : Except LineFault (List Char) := do
  let anchorPart ← match anchor with
    | none => pure []
    | some name => pure ['&' :: (← anchorName name)]
  let tagPart ← match tag with
    | none => pure []
    | some name => pure [tagStart.toList ++ (← tagName name)]
  return joinWith [' '] (anchorPart ++ tagPart)

def scalarText (value : Scalar) : Except LineFault (List Char) :=
  match value.written? with
  | some text => .ok text
  | none => .error .unwritable

namespace LineWriter

def line (writer : LineWriter) (text : List Char) : String × LineWriter :=
  (String.ofList ((List.replicate writer.depth [' ', ' ']).flatten ++ text ++ ['\n']),
    { writer with lines := writer.lines + 1 })

def enter (writer : LineWriter) : LineWriter :=
  { writer with depth := writer.depth + 1 }

def openBlock (writer : LineWriter) (text : List Char) : String × LineWriter :=
  let (written, after) := writer.line text
  (written, after.enter)

def scalar (writer : LineWriter) (key : CodeText) (value : Scalar) :
    Except LineFault (String × LineWriter) := do
  return writer.line (Scalar.writtenText key ++ [':', ' '] ++ (← scalarText value))

/-- `key: *anchor` -/
def reference (writer : LineWriter) (key anchor : CodeText) :
    Except LineFault (String × LineWriter) := do
  return writer.line (Scalar.writtenText key ++ [':', ' ', '*'] ++ (← anchorName anchor))

def emptyList (writer : LineWriter) (key : CodeText) : String × LineWriter :=
  writer.line (Scalar.writtenText key ++ ": []".toList)

def scalarItem (writer : LineWriter) (value : Scalar) : Except LineFault (String × LineWriter) := do
  return writer.line (['-', ' '] ++ (← scalarText value))

/-- `key: [&anchor] [!compex/tag]`, with the body in a block below. -/
def mapping (writer : LineWriter) (key : CodeText) (tag anchor : Option CodeText) :
    Except LineFault (String × LineWriter) := do
  let properties ← nodeProperties tag anchor
  let header := Scalar.writtenText key ++ [':']
  return writer.openBlock (if properties.isEmpty then header else header ++ ' ' :: properties)

def sequence (writer : LineWriter) (key : CodeText) : String × LineWriter :=
  writer.openBlock (Scalar.writtenText key ++ [':'])

/-- `-` or `- !compex/tag`, with the body in a block below. -/
def item (writer : LineWriter) (tag : Option CodeText) :
    Except LineFault (String × LineWriter) := do
  let properties ← nodeProperties tag none
  return writer.openBlock (if properties.isEmpty then ['-'] else '-' :: ' ' :: properties)

end LineWriter

end TypeCatalog.Document
