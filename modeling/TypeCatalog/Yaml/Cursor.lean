import TypeCatalog.Yaml.Fault

/-!
# Positions in a text

Lines end at a line feed, a carriage return, both together, a next-line
character, or one of the separators of Unicode.

A text need not be known to its end.  Then it is followed by a fault, which is
met as soon as the character after the known text is looked at.
-/

namespace TypeCatalog.Yaml

/-! ## Classes of characters -/

def isAllowed (c : Char) : Bool :=
  let n := c.toNat
  n == 0x09 || n == 0x0a || n == 0x0d || (0x20 ≤ n && n ≤ 0x7e) || n == 0x85 ||
    (0xa0 ≤ n && n ≤ 0xfffd) || 0x10000 ≤ n

def isBreak (c : Char) : Bool :=
  c == '\n' || c == '\r' || c == '\u0085' || c == '\u2028' || c == '\u2029'

/-- Whether a line ends before what may be a character. -/
def endsLine (c : Option Char) : Bool :=
  c.all isBreak

def endsWord (c : Option Char) : Bool :=
  c.all fun c => c == ' ' || c == '\t' || isBreak c

def isNameChar (c : Char) : Bool :=
  c.isAlphanum || c == '-' || c == '_'

/-! ## Sources -/

structure Source where
  text : List Char
  fault : Option Fault := none
  deriving Repr

def Source.ofText (text : List Char) : Source :=
  if text.all isAllowed then { text } else { text := [], fault := some (.malformed .unprintable) }

/-! ## Cursors -/

structure Cursor where
  rest : List Char
  /-- What is met after the rest, if the text does not end there. -/
  beyond : Option Fault := none
  index : Nat := 0
  line : Nat := 0
  column : Nat := 0
  deriving Repr, Inhabited

namespace Cursor

def peek (cursor : Cursor) : Option Char :=
  cursor.rest.head?

/-- Goes past one character.  A byte order mark takes no column. -/
def next (cursor : Cursor) : Cursor :=
  match cursor.rest with
  | [] => cursor
  | c :: rest =>
    if isBreak c && !(c == '\r' && rest.head? == some '\n') then
      { cursor with rest, index := cursor.index + 1, line := cursor.line + 1, column := 0 }
    else
      { cursor with
        rest, index := cursor.index + 1
        column := if c == '\ufeff' then cursor.column else cursor.column + 1 }

def met? (cursor : Cursor) : Option Fault :=
  if cursor.rest.isEmpty then cursor.beyond else none

def fail {α : Type} (cursor : Cursor) (fault : Fault) : Except Fault α :=
  .error (cursor.met?.getD fault)

def refuse {α : Type} (cursor : Cursor) (flaw : Flaw) : Except Fault α :=
  cursor.fail (.malformed flaw)

def forward : Nat → Cursor → Cursor
  | 0, cursor => cursor
  | n + 1, cursor => forward n cursor.next

def skipWhile (p : Char → Bool) (cursor : Cursor) : Cursor :=
  cursor.forward (cursor.rest.takeWhile p).length

def lineBreak? (cursor : Cursor) : Option (Char × Cursor) :=
  match cursor.rest with
  | '\r' :: '\n' :: _ => some ('\n', cursor.forward 2)
  | c :: _ =>
    if c == '\u2028' || c == '\u2029' then some (c, cursor.next)
    else if isBreak c then some ('\n', cursor.next)
    else none
  | [] => none

def isMark (mark : Char) (cursor : Cursor) : Bool :=
  [mark, mark, mark].isPrefixOf cursor.rest && endsWord cursor.rest[3]?

def isDocumentMark (cursor : Cursor) : Bool :=
  cursor.isMark '-' || cursor.isMark '.'

end Cursor

/-- What a line break and the breaks of the empty lines after it stand for inside a scalar:
a line feed is a space unless empty lines follow it. -/
def folded (first : Char) (others : List Char) : List Char :=
  if first != '\n' then first :: others
  else if others.isEmpty then [' ']
  else others

end TypeCatalog.Yaml
