import TypeCatalog.Yaml.Lexeme

/-!
# Directives

A directive is a line before a document.  It states the version of the
language, or gives a handle for tags; every other one is passed over.
-/

namespace TypeCatalog.Yaml

open Text

inductive Directive where
  | version (major minor : Nat)
  | handle (name start : String)
  | other
  deriving DecidableEq, Repr

def skipSpaces (cursor : Cursor) : Cursor :=
  cursor.skipWhile (· == ' ')

def readVersionPart (cursor : Cursor) : Except Fault (Nat × Cursor) :=
  let digits := cursor.rest.takeWhile Char.isDigit
  let after := cursor.forward digits.length
  if digits.isEmpty then cursor.refuse .badDirective
  else if Integer.digitLimit < digits.length then
    after.fail (.noValue (.tooManyDigits digits.length))
  else .ok (Integer.ofDigits 10 (digits.map fun c => c.toNat - '0'.toNat), after)

def readVersion (cursor : Cursor) : Except Fault (Directive × Cursor) := do
  let (major, after) ← readVersionPart (skipSpaces cursor)
  if after.peek != some '.' then after.refuse .badDirective
  let (minor, last) ← readVersionPart after.next
  if endsPart last.peek then .ok (.version major minor, last) else last.refuse .badDirective

def readHandleDirective (cursor : Cursor) : Except Fault (Directive × Cursor) := do
  let (name, after) ← readHandle (skipSpaces cursor)
  if after.peek != some ' ' then after.refuse .badDirective
  let (start, last) ← readTagText (skipSpaces after)
  if endsPart last.peek then .ok (.handle name start, last) else last.refuse .badDirective

def endLine (fault : Flaw) (cursor : Cursor) : Except Fault Cursor :=
  let cursor := skipSpaces cursor
  let cursor := if cursor.peek == some '#' then cursor.skipWhile (!isBreak ·) else cursor
  if !endsLine cursor.peek then cursor.refuse fault
  else
    match cursor.lineBreak? with
    | some (_, after) => .ok after
    | none => .ok cursor

def readDirective (cursor : Cursor) : Except Fault (Directive × Cursor) := do
  let name := cursor.next.rest.takeWhile isNameChar
  let after := cursor.next.forward name.length
  if name.isEmpty || !endsPart after.peek then after.refuse .badDirective
  let (directive, last) ←
    if name == "YAML".toList then readVersion after
    else if name == "TAG".toList then readHandleDirective after
    else .ok (.other, after.skipWhile (!isBreak ·))
  .ok (directive, ← endLine .badDirective last)

end TypeCatalog.Yaml
