import TypeCatalog.Text.CodePoint
import TypeCatalog.Text.Digit
import TypeCatalog.Text.Utf8
import TypeCatalog.Yaml.Cursor

/-!
# The pieces of a text that carry content

The pieces are names, tags, quoted and plain scalars.  Each reader starts at
the first character of its piece and gives the position after the last.
Readers that go on over several lines count down a number that is at least the
length of the text.
-/

namespace TypeCatalog.Yaml

open Text

/-! ## Names and tags -/

def endsName (c : Option Char) : Bool :=
  endsWord c || c.any fun c => ['?', ':', ',', ']', '}', '%', '@', '`'].contains c

def readName (cursor : Cursor) : Except Fault (String × Cursor) :=
  let name := cursor.next.rest.takeWhile isNameChar
  let after := cursor.next.forward name.length
  if name.isEmpty || !endsName after.peek then after.refuse .badName
  else .ok (String.ofList name, after)

def isTagChar (c : Char) : Bool :=
  c.isAlphanum || "-;/?:@&=+$,_.!~*'()[]%".toList.contains c

def escapedBytes : List Char → Option (List UInt8 × List Char)
  | '%' :: a :: b :: rest => do
    let code ← hexNumber? [a, b]
    let (bytes, after) ← escapedBytes rest
    return (code.toUInt8 :: bytes, after)
  | '%' :: _ => none
  | rest => some ([], rest)

/-- The characters of a tag with its escapes resolved.  The number bounds the length. -/
def tagText : Nat → List Char → Option (List Char)
  | 0, _ => some []
  | _, [] => some []
  | fuel + 1, c :: rest =>
    if c == '%' then do
      let (bytes, after) ← escapedBytes (c :: rest)
      let text ← (Utf8.decode bytes).toOption
      return text ++ (← tagText fuel after)
    else (tagText fuel rest).map (c :: ·)

def readTagText (cursor : Cursor) : Except Fault (String × Cursor) :=
  let raw := cursor.rest.takeWhile isTagChar
  match tagText raw.length raw with
  | some text =>
    if raw.isEmpty then cursor.refuse .badTag
    else .ok (String.ofList text, cursor.forward raw.length)
  | none => (cursor.forward raw.length).refuse .badTag

/-- The handle at the start of a tag, such as `!` or `!e!`.  A lone mark is a handle only
before a space. -/
def readHandle (cursor : Cursor) : Except Fault (String × Cursor) :=
  match cursor.rest with
  | '!' :: ' ' :: _ => .ok ("!", cursor.next)
  | '!' :: rest =>
    let name := rest.takeWhile isNameChar
    if rest[name.length]? == some '!' then
      .ok ("!" ++ String.ofList name ++ "!", cursor.forward (name.length + 2))
    else (cursor.forward (name.length + 1)).refuse .badTag
  | _ => cursor.refuse .badTag

/-- A tag as it is written: with a handle that stands for the start of its name, or in
full. -/
structure WrittenTag where
  handle : Option String
  suffix : String
  deriving DecidableEq, Repr

/-- A tag before the check of what follows.  The tag `!` alone asks for no particular type. -/
def readTagBody (cursor : Cursor) : Except Fault (WrittenTag × Cursor) :=
  match cursor.rest with
  | '!' :: '<' :: _ => do
    let (suffix, after) ← readTagText (cursor.forward 2)
    if after.peek == some '>' then .ok (⟨none, suffix⟩, after.next) else after.refuse .badTag
  | _ =>
    if endsWord cursor.next.peek then .ok (⟨none, "!"⟩, cursor.next)
    else do
      let hasHandle := (cursor.next.rest.takeWhile fun c => c != ' ' && !isBreak c).contains '!'
      let (handle, after) ← if hasHandle then readHandle cursor else .ok ("!", cursor.next)
      let (suffix, last) ← readTagText after
      .ok (⟨some handle, suffix⟩, last)

def endsPart (c : Option Char) : Bool :=
  c.all fun c => c == ' ' || isBreak c

def readTag (cursor : Cursor) : Except Fault (WrittenTag × Cursor) := do
  let (tag, after) ← readTagBody cursor
  if endsPart after.peek then .ok (tag, after) else after.refuse .badTag

/-! ## Quoted scalars -/

/-- The breaks of empty lines inside quotes, and the position after them and the blanks of
the next line. -/
def quotedBreaks : Nat → Cursor → Except Fault (List Char × Cursor)
  | 0, cursor => .ok ([], cursor)
  | fuel + 1, cursor =>
    if cursor.isDocumentMark then (cursor.forward 3).refuse .strayMark
    else
      let cursor := cursor.skipWhile fun c => c == ' ' || c == '\t'
      match cursor.lineBreak? with
      | none => .ok ([], cursor)
      | some (first, after) => do
        let (others, last) ← quotedBreaks fuel after
        .ok (first :: others, last)

/-- Blanks and line breaks inside quotes: blanks around a break do not count. -/
def quotedGap (fuel : Nat) (cursor : Cursor) : Except Fault (List Char × Cursor) :=
  let blanks := cursor.rest.takeWhile fun c => c == ' ' || c == '\t'
  let after := cursor.forward blanks.length
  match after.lineBreak? with
  | none => .ok (blanks, after)
  | some (first, next) => do
    let (others, last) ← quotedBreaks fuel next
    .ok (folded first others, last)

def replacements : List (Char × Nat) :=
  [('0', 0x00), ('a', 0x07), ('b', 0x08), ('t', 0x09), ('\t', 0x09), ('n', 0x0a), ('v', 0x0b),
    ('f', 0x0c), ('r', 0x0d), ('e', 0x1b), (' ', 0x20), ('"', 0x22), ('\\', 0x5c), ('/', 0x2f),
    ('N', 0x85), ('_', 0xa0), ('L', 0x2028), ('P', 0x2029)]

def escapeWidth? (c : Char) : Option Nat :=
  if c == 'x' then some 2 else if c == 'u' then some 4 else if c == 'U' then some 8 else none

def quotedEscape (fuel : Nat) (cursor : Cursor) : Except Fault (CodeText × Cursor) :=
  match cursor.peek with
  | none => cursor.refuse .badEscape
  | some c =>
    match replacements.lookup c, escapeWidth? c, cursor.lineBreak? with
    | some code, _, _ => .ok ((CodePoint.ofNat? code).toList, cursor.next)
    | none, some width, _ =>
      let digits := cursor.next.rest.take width
      match hexNumber? digits with
      | none => cursor.refuse .badEscape
      | some code =>
        if digits.length < width then (cursor.forward (digits.length + 1)).refuse .badEscape
        else
          match CodePoint.ofNat? code with
          | some point => .ok ([point], cursor.forward (width + 1))
          | none => noValue (.noSuchCodePoint code)
    | none, none, some (_, after) => do
      let (breaks, last) ← quotedBreaks fuel after
      .ok (.ofChars breaks, last)
    | none, none, none => cursor.refuse .badEscape

/-- The rest of a quoted scalar.  Only double quotes know escapes; between single quotes a
quote is written twice. -/
def quotedFrom (double : Bool) : Nat → Cursor → Except Fault (CodeText × Cursor)
  | 0, cursor => cursor.refuse .unclosedQuote
  | fuel + 1, cursor =>
    let continued (text : CodeText) (after : Cursor) : Except Fault (CodeText × Cursor) := do
      let (others, last) ← quotedFrom double fuel after
      .ok (text ++ others, last)
    match cursor.rest with
    | [] => cursor.refuse .unclosedQuote
    | c :: rest =>
      if c == '\'' && !double then
        if rest.head? == some '\'' then continued [.scalar '\''] (cursor.forward 2)
        else .ok ([], cursor.next)
      else if c == '"' && double then .ok ([], cursor.next)
      else if c == '\\' && double then do
        let (text, after) ← quotedEscape fuel cursor.next
        continued text after
      else if c == ' ' || c == '\t' || isBreak c then do
        let (text, after) ← quotedGap fuel cursor
        continued (.ofChars text) after
      else continued [.scalar c] cursor.next

def readQuoted (double : Bool) (cursor : Cursor) : Except Fault (CodeText × Cursor) :=
  quotedFrom double cursor.rest.length cursor.next

/-! ## Plain scalars -/

def isFlowMark (c : Char) : Bool :=
  [',', '[', ']', '\x7b', '\x7d'].contains c

/-- Whether a plain scalar ends before a character, given the one after it. -/
def endsPlain (flow : Bool) (c : Char) (after : Option Char) : Bool :=
  endsWord (some c) || (flow && (isFlowMark c || c == '?')) ||
    (c == ':' && (endsWord after || (flow && after.any isFlowMark)))

def plainRun (flow : Bool) : List Char → List Char
  | [] => []
  | c :: rest => if endsPlain flow c rest.head? then [] else c :: plainRun flow rest

structure PlainGap where
  text : List Char
  cursor : Cursor
  newLine : Bool

/-- The breaks of empty lines before the next run; none at a mark between documents. -/
def plainBreaks : Nat → Cursor → Option (List Char) × Cursor
  | 0, cursor => (some [], cursor)
  | fuel + 1, cursor =>
    if cursor.isDocumentMark then (none, cursor)
    else
      let cursor := cursor.skipWhile (· == ' ')
      match cursor.lineBreak? with
      | none => (some [], cursor)
      | some (first, after) =>
        let (others, last) := plainBreaks fuel after
        (others.map (first :: ·), last)

def plainGap (fuel : Nat) (cursor : Cursor) : PlainGap :=
  let blanks := cursor.rest.takeWhile (· == ' ')
  let after := cursor.forward blanks.length
  match after.lineBreak? with
  | none => ⟨blanks, after, false⟩
  | some (first, next) =>
    match plainBreaks fuel next with
    | (none, last) => ⟨[], last, true⟩
    | (some others, last) => ⟨folded first others, last, true⟩

/-- The rest of a plain scalar: its text, the position after it, and whether a line ended
right before that position.  `limit` is the least column of a continued line. -/
def plainFrom (flow : Bool) (limit : Nat) : Nat → PlainGap → List Char × Cursor × Bool
  | 0, gap => ([], gap.cursor, gap.newLine)
  | fuel + 1, gap =>
    let run := plainRun flow gap.cursor.rest
    if run.isEmpty || gap.cursor.peek == some '#' then ([], gap.cursor, gap.newLine)
    else
      let next := plainGap fuel (gap.cursor.forward run.length)
      if next.text.isEmpty || (!flow && next.cursor.column < limit) then
        (gap.text ++ run, next.cursor, next.newLine)
      else
        let (others, last) := plainFrom flow limit fuel next
        (gap.text ++ run ++ others, last)

def readPlain (flow : Bool) (limit : Nat) (cursor : Cursor) : List Char × Cursor × Bool :=
  plainFrom flow limit cursor.rest.length ⟨[], cursor, false⟩

def startsPlain (flow : Bool) (c : Char) (after : Option Char) : Bool :=
  if c == '-' then !endsWord after
  else if c == '?' || c == ':' then !flow && !endsWord after
  else
    !(endsWord (some c) || isFlowMark c ||
      ['#', '&', '*', '!', '|', '>', '\'', '"', '%', '@', '`'].contains c)

end TypeCatalog.Yaml
