import TypeCatalog.Yaml.BlockScalar

/-!
# Tokens

The structure of a text lies in its indentation and in its marks; tokens make
both explicit.  A simple key has no mark of its own: only the colon after it
shows that it is one, so the tokens that open its entry are put in front of
it when the colon is met.  A simple key lies on one line and within
`keyReach` characters.

A text that is not well formed has tokens as well: those that are certain
before the fault is met.
-/

namespace TypeCatalog.Yaml

open Text (CodeText)

inductive Token where
  | directive (directive : Directive)
  | documentStart
  | documentEnd
  | blockSequenceStart
  | blockMappingStart
  | blockEnd
  | flowSequenceStart
  | flowSequenceEnd
  | flowMappingStart
  | flowMappingEnd
  | blockEntry
  | flowEntry
  | key
  | value
  | reference (name : String)
  | anchor (name : String)
  | tag (tag : WrittenTag)
  | scalar (text : CodeText) (plain : Bool)
  deriving DecidableEq, Repr

/-- The greatest distance between the start of a simple key and its colon. -/
def keyReach : Nat := 1024

/-- A token that a colon would turn into a simple key. -/
structure PossibleKey where
  /-- The number of tokens before it. -/
  position : Nat
  /-- Whether the text is not well formed unless it is a key. -/
  required : Bool
  index : Nat
  line : Nat
  column : Nat
  deriving DecidableEq, Repr

structure Scan where
  cursor : Cursor
  /-- The tokens so far, the last one first. -/
  tokens : List Token := []
  count : Nat := 0
  /-- The columns of the open block collections, the innermost first. -/
  indents : List Nat := []
  allowKey : Bool := true
  /-- The possible key of the block level and of each open flow collection, the innermost
  first. -/
  keys : List (Option PossibleKey) := [none]
  deriving Repr

namespace Scan

def isFlow (scan : Scan) : Bool :=
  2 ≤ scan.keys.length

def emit (scan : Scan) (token : Token) : Scan :=
  { scan with tokens := token :: scan.tokens, count := scan.count + 1 }

def forward (scan : Scan) (n : Nat) : Scan :=
  { scan with cursor := scan.cursor.forward n }

/-! ## Indentation -/

def isDeeper (scan : Scan) (column : Nat) : Bool :=
  scan.indents.head?.all (· < column)

def openBlock (scan : Scan) (column : Nat) (start : Token) : Scan :=
  if scan.isDeeper column then { scan.emit start with indents := column :: scan.indents } else scan

def closeBlocks (scan : Scan) (closes : Nat → Bool) : Scan :=
  if scan.isFlow then scan
  else
    let closed := (scan.indents.takeWhile closes).length
    { scan with
      indents := scan.indents.drop closed
      tokens := List.replicate closed .blockEnd ++ scan.tokens
      count := scan.count + closed }

/-! ## Simple keys -/

def dropKey (scan : Scan) : Except Fault Scan :=
  match scan.keys with
  | some key :: others =>
    if key.required then flaw .missingColon else .ok { scan with keys := none :: others }
  | _ => .ok scan

def saveKey (scan : Scan) : Except Fault Scan :=
  if scan.allowKey then do
    let scan ← scan.dropKey
    let cursor := scan.cursor
    let key : PossibleKey :=
      { position := scan.count
        required := !scan.isFlow && scan.indents.head? == some cursor.column
        index := cursor.index, line := cursor.line, column := cursor.column }
    .ok { scan with keys := some key :: scan.keys.tail }
  else .ok scan

def isStale (cursor : Cursor) (key : PossibleKey) : Bool :=
  key.line != cursor.line || keyReach < cursor.index - key.index

def dropStale (scan : Scan) : Except Fault Scan := do
  let keys ← scan.keys.mapM fun
    | some key =>
      if isStale scan.cursor key then
        if key.required then flaw .missingColon else .ok none
      else .ok (some key)
    | none => .ok none
  .ok { scan with keys }

def insertAt (scan : Scan) (key : PossibleKey) (inserted : List Token) : Scan :=
  let since := scan.count - key.position
  { scan with
    tokens := scan.tokens.take since ++ inserted ++ scan.tokens.drop since
    count := scan.count + inserted.length }

/-! ## The way to the next token -/

/-- Goes past spaces, comments and line breaks.  After a break in block context a key may
start. -/
def skipBlanks : Nat → Scan → Scan
  | 0, scan => scan
  | fuel + 1, scan =>
    let cursor := scan.cursor.skipWhile (· == ' ')
    let cursor :=
      if cursor.peek == some '#' then cursor.skipWhile (!isBreak ·) else cursor
    match cursor.lineBreak? with
    | none => { scan with cursor }
    | some (_, after) =>
      skipBlanks fuel { scan with cursor := after, allowKey := scan.allowKey || !scan.isFlow }

def settled (scan : Scan) : Except Fault Scan :=
  match scan.cursor.met? with
  | some fault => .error fault
  | none => .ok scan

def prepare (scan : Scan) : Except Fault Scan := do
  let scan ← (skipBlanks (scan.cursor.rest.length + 1) scan).settled
  let scan ← scan.dropStale
  .ok (scan.closeBlocks (scan.cursor.column < ·))

/-! ## Single tokens -/

def outer (scan : Scan) (read : Cursor → Except Fault (Token × Cursor)) : Except Fault Scan := do
  let scan ← (scan.closeBlocks fun _ => true).dropKey
  let (token, after) ← read scan.cursor
  .ok { scan.emit token with cursor := after, allowKey := false }

def documentMark (scan : Scan) (token : Token) : Except Fault Scan :=
  scan.outer fun cursor => .ok (token, cursor.forward 3)

def directive (scan : Scan) : Except Fault Scan :=
  scan.outer fun cursor => do
    let (directive, after) ← readDirective cursor
    .ok (.directive directive, after)

def flowStart (scan : Scan) (token : Token) : Except Fault Scan := do
  let scan ← scan.saveKey
  .ok (({ scan with keys := none :: scan.keys, allowKey := true }.forward 1).emit token)

def flowEnd (scan : Scan) (token : Token) : Except Fault Scan := do
  if !scan.isFlow then flaw .strayToken
  let scan ← scan.dropKey
  .ok (({ scan with keys := scan.keys.tail, allowKey := false }.forward 1).emit token)

def flowEntry (scan : Scan) : Except Fault Scan := do
  let scan ← scan.dropKey
  .ok (({ scan with allowKey := true }.forward 1).emit .flowEntry)

def blockEntry (scan : Scan) : Except Fault Scan := do
  if !scan.isFlow && !scan.allowKey then flaw .misplacedEntry
  let scan :=
    if scan.isFlow then scan else scan.openBlock scan.cursor.column .blockSequenceStart
  let scan ← scan.dropKey
  .ok (({ scan with allowKey := true }.forward 1).emit .blockEntry)

def markedKey (scan : Scan) : Except Fault Scan := do
  if !scan.isFlow && !scan.allowKey then flaw .misplacedKey
  let scan :=
    if scan.isFlow then scan else scan.openBlock scan.cursor.column .blockMappingStart
  let scan ← scan.dropKey
  .ok (({ scan with allowKey := !scan.isFlow }.forward 1).emit .key)

def simpleValue (scan : Scan) (key : PossibleKey) : Scan :=
  let scan := { scan with keys := none :: scan.keys.tail, allowKey := false }
  let scan :=
    if !scan.isFlow && scan.isDeeper key.column then
      { scan.insertAt key [.key, .blockMappingStart] with indents := key.column :: scan.indents }
    else scan.insertAt key [.key]
  (scan.forward 1).emit .value

def markedValue (scan : Scan) : Except Fault Scan := do
  if !scan.isFlow && !scan.allowKey then flaw .misplacedValue
  let scan :=
    if scan.isFlow then scan else scan.openBlock scan.cursor.column .blockMappingStart
  .ok (({ scan with allowKey := !scan.isFlow }.forward 1).emit .value)

def value (scan : Scan) : Except Fault Scan :=
  match scan.keys with
  | some key :: _ => .ok (scan.simpleValue key)
  | _ => scan.markedValue

/-- A token that carries content and may be a simple key.  Reading it gives the token, the
position after it and whether a line has just ended. -/
def content (scan : Scan) (read : Cursor → Except Fault (Token × Cursor × Bool)) :
    Except Fault Scan := do
  let scan ← scan.saveKey
  let (token, after, newLine) ← read scan.cursor
  .ok { scan.emit token with cursor := after, allowKey := newLine }

/-- The column after that of the innermost block. -/
def blockBase (scan : Scan) : Nat :=
  match scan.indents with
  | [] => 0
  | indent :: _ => indent + 1

def plain (scan : Scan) : Except Fault Scan :=
  scan.content fun cursor =>
    let (text, after, newLine) := readPlain scan.isFlow scan.blockBase cursor
    .ok (.scalar (.ofChars text) true, after, newLine)

def quoted (scan : Scan) (double : Bool) : Except Fault Scan :=
  scan.content fun cursor => do
    let (text, after) ← readQuoted double cursor
    .ok (.scalar text false, after, false)

def reference (scan : Scan) : Except Fault Scan :=
  scan.content fun cursor => do
    let (name, after) ← readName cursor
    .ok (.reference name, after, false)

def anchor (scan : Scan) : Except Fault Scan :=
  scan.content fun cursor => do
    let (name, after) ← readName cursor
    .ok (.anchor name, after, false)

def tag (scan : Scan) : Except Fault Scan :=
  scan.content fun cursor => do
    let (tag, after) ← readTag cursor
    .ok (.tag tag, after, false)

/-- A block scalar is no simple key. -/
def blockScalar (scan : Scan) (folded : Bool) : Except Fault Scan := do
  let scan ← scan.dropKey
  let (text, after) ← readBlockScalar folded scan.blockBase scan.cursor
  .ok { scan.emit (.scalar (.ofChars text) false) with cursor := after, allowKey := true }

/-! ## Any token -/

def fetch (scan : Scan) (c : Char) (after : Option Char) : Except Fault Scan :=
  let cursor := scan.cursor
  let marks := scan.isFlow || endsWord after
  if c == '%' && cursor.column == 0 then scan.directive
  else if cursor.column == 0 && cursor.isMark '-' then scan.documentMark .documentStart
  else if cursor.column == 0 && cursor.isMark '.' then scan.documentMark .documentEnd
  else if c == '[' then scan.flowStart .flowSequenceStart
  else if c == '\x7b' then scan.flowStart .flowMappingStart
  else if c == ']' then scan.flowEnd .flowSequenceEnd
  else if c == '\x7d' then scan.flowEnd .flowMappingEnd
  else if c == ',' then scan.flowEntry
  else if c == '-' && endsWord after then scan.blockEntry
  else if c == '?' && marks then scan.markedKey
  else if c == ':' && marks then scan.value
  else if c == '*' then scan.reference
  else if c == '&' then scan.anchor
  else if c == '!' then scan.tag
  else if (c == '|' || c == '>') && !scan.isFlow then scan.blockScalar (c == '>')
  else if c == '\'' || c == '"' then scan.quoted (c == '"')
  else if startsPlain scan.isFlow c after then scan.plain
  else flaw (.strayCharacter c)

def finish (scan : Scan) : Except Fault Scan :=
  (scan.closeBlocks fun _ => true).dropKey

def step (scan : Scan) : Except Fault (Scan × Bool) := do
  let scan ← scan.prepare
  match scan.cursor.rest with
  | [] => .ok (← scan.finish, false)
  | c :: rest => .ok (← (← (← scan.fetch c rest.head?).settled).dropStale, true)

/-- The tokens that are certain: those before the first one that may become a key. -/
def certain (scan : Scan) : List Token :=
  let first := scan.keys.foldl (fun least key =>
    match key with
    | some key => min least key.position
    | none => least) scan.count
  scan.tokens.reverse.take first

end Scan

structure TokenStream where
  tokens : List Token
  fault : Option Fault := none
  deriving Repr

/-- Reads tokens up to the end or a fault.  The number is greater than the length of the text
left. -/
def Scan.run : Nat → Scan → TokenStream
  | 0, scan => ⟨scan.certain, some (.malformed .strayToken)⟩
  | fuel + 1, scan =>
    match scan.step with
    | .error fault => ⟨scan.certain, some fault⟩
    | .ok (next, true) => run fuel next
    | .ok (next, false) => ⟨next.tokens.reverse, none⟩

/-- The start of a text, after the byte order mark it may have. -/
def startCursor (source : Source) : Cursor :=
  let cursor : Cursor := { rest := source.text, beyond := source.fault }
  if cursor.peek == some '\ufeff' then cursor.next else cursor

def tokens (source : Source) : TokenStream :=
  Scan.run (source.text.length + 1) { cursor := startCursor source }

end TypeCatalog.Yaml
