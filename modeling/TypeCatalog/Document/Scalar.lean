import TypeCatalog.Text.Blank
import TypeCatalog.Text.CodePoint
import TypeCatalog.Text.Digit
import TypeCatalog.Text.Integer
import TypeCatalog.Text.Quoted

/-!
# Scalars of a document and the way they are written

A text is written plain when it can be read back as the same text, and
between quotation marks with escapes otherwise.  Either way a written scalar
is on one line.
-/

namespace TypeCatalog.Document

open Text

inductive Scalar where
  | null
  | bool (value : Bool)
  | int (value : Int)
  | text (value : CodeText)
  deriving DecidableEq, Repr, Inhabited

namespace Scalar

def ofString (text : String) : Scalar :=
  .text (.ofString text)

def isPlainStart (c : Char) : Bool :=
  c.isAlpha || c == '_' || c == '$' || c == '~' || c == '/'

def isPlainUnsafe (c : Char) : Bool :=
  ['#', '\'', '"', '`', '\\', '\t', '\r', '\n'].contains c

/-- Texts that read as something else than themselves, in any case. -/
def reservedWords : List String :=
  ["true", "false", "yes", "no", "on", "off", "y", "n", "null", "~"]

def isPlain (text : List Char) : Bool :=
  match text with
  | [] => false
  | first :: _ =>
    isPlainStart first && !(reservedWords.map (·.toList)).contains (text.map Char.toLower) &&
      !text.getLast?.any isBlank && text.getLast? != some ':' && !hasInfix [':', ' '] text &&
      !hasInfix [' ', '#'] text && !text.any isPlainUnsafe && text.all isPrintable

def isQuotedLiteral (n : Nat) : Bool :=
  (0x20 ≤ n && n ≤ 0x7e) || (0xa0 ≤ n && n ≤ 0x2027) || (0x202a ≤ n && n ≤ 0xd7ff) ||
    (0xe000 ≤ n && n ≤ 0xfffd) || (0x10000 ≤ n && n ≤ 0x10ffff)

def unicodeEscape (n : Nat) : List Char :=
  '\\' :: 'u' :: hexDigits 4 n

def quotedPoint : CodePoint → List Char
  | .surrogate offset => unicodeEscape (CodePoint.surrogate offset).value
  | .scalar c =>
    if c == '"' || c == '\\' then ['\\', c]
    else if c == '\n' then ['\\', 'n']
    else if c == '\r' then ['\\', 'r']
    else if c == '\t' then ['\\', 't']
    else if c.toNat == 0x0c then ['\\', 'f']
    else if c.toNat == 0x08 then ['\\', 'b']
    else if isQuotedLiteral c.toNat then [c]
    else unicodeEscape c.toNat

def quoted (text : CodeText) : List Char :=
  '"' :: text.flatMap quotedPoint ++ ['"']

def writtenText (text : CodeText) : List Char :=
  match text.chars? with
  | some chars => if isPlain chars then chars else quoted text
  | none => quoted text

/-- A scalar as it is written; an integer with too many digits cannot be. -/
def written? : Scalar → Option (List Char)
  | null => some "null".toList
  | bool value => some (if value then "true" else "false").toList
  | int value =>
    if Text.Integer.isWritable value then some (Text.Integer.numeral value).toList else none
  | text value => some (writtenText value)

end Scalar

end TypeCatalog.Document
