import TypeCatalog.Yaml.Directive

/-!
# Block scalars

The lines of a block scalar are those that are indented at least as far as its
first line, or as far as its header says.  In a folded scalar the end of a line
between two lines that start with no blank is a space.  The header also says
what becomes of the breaks at the end.
-/

namespace TypeCatalog.Yaml

inductive Chomping where
  | clip
  | keep
  | strip
  deriving DecidableEq, Repr

structure BlockHeader where
  chomping : Chomping := .clip
  /-- The indentation beyond that of the surrounding block, if it is given. -/
  increment : Option Nat := none
  deriving DecidableEq, Repr

def chomping? : Option Char → Option Chomping
  | some '+' => some .keep
  | some '-' => some .strip
  | _ => none

def readIncrement (cursor : Cursor) : Except Fault (Option Nat × Cursor) :=
  match cursor.peek with
  | some c =>
    if !c.isDigit then .ok (none, cursor)
    else if c == '0' then cursor.refuse .badBlockScalar
    else .ok (some (c.toNat - '0'.toNat), cursor.next)
  | none => .ok (none, cursor)

def readBlockHeader (cursor : Cursor) : Except Fault (BlockHeader × Cursor) := do
  let (header, after) : BlockHeader × Cursor ← match chomping? cursor.peek with
    | some chomping => do
      let (increment, after) ← readIncrement cursor.next
      pure ({ chomping, increment }, after)
    | none => do
      let (increment, after) ← readIncrement cursor
      match increment, chomping? after.peek with
      | some _, some chomping => pure ({ chomping, increment }, after.next)
      | _, _ => pure ({ increment }, after)
  if endsPart after.peek then .ok (header, after) else after.refuse .badBlockScalar

def indentTo (limit : Nat) (cursor : Cursor) : Cursor :=
  cursor.forward (min (limit - cursor.column) (cursor.rest.takeWhile (· == ' ')).length)

/-- The breaks of empty lines, and the position after them and the indentation of the next
line. -/
def blockBreaks (limit : Nat) : Nat → Cursor → List Char × Cursor
  | 0, cursor => ([], cursor)
  | fuel + 1, cursor =>
    let cursor := indentTo limit cursor
    match cursor.lineBreak? with
    | none => ([], cursor)
    | some (first, after) =>
      let (others, last) := blockBreaks limit fuel after
      (first :: others, last)

/-- The breaks of empty lines before the first line, the greatest column among their spaces
and those of the first line, and the position after them. -/
def firstIndentation : Nat → Nat → Cursor → List Char × Nat × Cursor
  | 0, widest, cursor => ([], widest, cursor)
  | fuel + 1, widest, cursor =>
    let after := skipSpaces cursor
    let widest := if cursor.peek == some ' ' then max widest after.column else widest
    match after.lineBreak? with
    | none => ([], widest, after)
    | some (first, next) =>
      let (others, widest, last) := firstIndentation fuel widest next
      (first :: others, widest, last)

def startsBlank (cursor : Cursor) : Bool :=
  cursor.peek.any fun c => c == ' ' || c == '\t'

structure BlockText where
  text : List Char
  lastBreak : List Char := []
  breaks : List Char
  cursor : Cursor

def isBlockLine (limit : Nat) (cursor : Cursor) : Bool :=
  cursor.column == limit && cursor.peek.isSome

def blockLines (folded : Bool) (limit : Nat) : Nat → List Char → Cursor → BlockText
  | 0, breaks, cursor => { text := [], breaks, cursor }
  | fuel + 1, breaks, cursor =>
    if !isBlockLine limit cursor then { text := [], breaks, cursor }
    else
      let line := cursor.rest.takeWhile (!isBreak ·)
      let (lastBreak, after) := match (cursor.forward line.length).lineBreak? with
        | some (first, after) => ([first], after)
        | none => ([], cursor.forward line.length)
      let (later, next) := blockBreaks limit fuel after
      if isBlockLine limit next then
        let joint :=
          if folded && lastBreak == ['\n'] && !startsBlank cursor && !startsBlank next then
            if later.isEmpty then [' '] else []
          else lastBreak
        let others := blockLines folded limit fuel later next
        { others with text := breaks ++ line ++ joint ++ others.text }
      else { text := breaks ++ line, lastBreak, breaks := later, cursor := next }

/-- A block scalar.  `base` is the column after that of the surrounding block. -/
def readBlockScalar (folded : Bool) (base : Nat) (cursor : Cursor) :
    Except Fault (List Char × Cursor) := do
  let (header, after) ← readBlockHeader cursor.next
  let start ← endLine .badBlockScalar after
  let fuel := start.rest.length + 1
  let least := max 1 base
  let (limit, breaks, first) := match header.increment with
    | some increment =>
      let limit := least + increment - 1
      (limit, blockBreaks limit fuel start)
    | none =>
      let (breaks, widest, first) := firstIndentation fuel 0 start
      (max least widest, breaks, first)
  let read := blockLines folded limit fuel breaks first
  let ending := match header.chomping with
    | .clip => read.lastBreak
    | .keep => read.lastBreak ++ read.breaks
    | .strip => []
  .ok (read.text ++ ending, read.cursor)

end TypeCatalog.Yaml
