import TypeCatalog.Text.Blank
import TypeCatalog.Text.Digit

/-!
# Names of entities and spellings of types

Declarations and references may space a qualified name differently.  The
normal form has no blanks around `::`, none between `::` and `~`, none at the
ends, and single spaces elsewhere.  Anchors of a document are normal forms in
which everything but ASCII letters, digits and the low line is escaped; an
escape starts with `-` and has a fixed width, so no two normal forms share an
anchor.
-/

namespace TypeCatalog.Name

open Text

def scopeSeparator : CodeText := "::"

/-- Removes the blanks around every `::`.  `held` are the blanks read since the last other
code point; `after` says that a separator was read since then. -/
def tightenScopes : Bool → CodeText → CodeText → CodeText
  | _, held, [] => held
  | _, _, .scalar ':' :: .scalar ':' :: rest => scopeSeparator ++ tightenScopes true [] rest
  | after, held, c :: rest =>
    if c.isBlank then
      if after then tightenScopes true [] rest else tightenScopes false (held ++ [c]) rest
    else held ++ c :: tightenScopes false [] rest

/-- Removes the blanks between `::` and `~`.  `colons` counts the colons right before the
blanks `held`. -/
def tightenTilde : Nat → CodeText → CodeText → CodeText
  | _, held, [] => held
  | colons, held, c :: rest =>
    if c.isBlank then tightenTilde colons (held ++ [c]) rest
    else if c == '~' && 2 ≤ colons then c :: tightenTilde 0 [] rest
    else
      let colons := if c == ':' then (if held.isEmpty then colons + 1 else 1) else 0
      held ++ c :: tightenTilde colons [] rest

def normalize (name : CodeText) : CodeText :=
  trim (collapse (tightenTilde 0 [] (tightenScopes false [] (trim name))))

def normalizeSpelling (spelling : CodeText) : CodeText :=
  trim (collapse spelling)

def qualify (scope : List CodeText) (name : CodeText) : CodeText :=
  normalize (joinWith scopeSeparator (scope ++ [name]))

def splitLast? : CodeText → Option (CodeText × CodeText)
  | [] => none
  | .scalar ':' :: .scalar ':' :: rest =>
    match splitLast? (.scalar ':' :: rest) with
    | some (outer, own) => some (.scalar ':' :: outer, own)
    | none => some ([], rest)
  | c :: rest => (splitLast? rest).map fun (outer, own) => (c :: outer, own)

/-- The name of the scope that a qualified name belongs to; a plain name stays. -/
def owner (name : CodeText) : CodeText :=
  ((splitLast? name).map (·.1)).getD name

def simple (name : CodeText) : CodeText :=
  let plain := name.takeWhile (· != .scalar '<')
  trim (((splitLast? plain).map (·.2)).getD plain)

def isAnchorLetter (c : Char) : Bool :=
  c.isAlphanum || c == '_'

def anchorPoint (point : CodePoint) : CodeText :=
  let n := point.value
  if point.isIn isAnchorLetter then [point]
  else if n ≤ 0xff then .ofChars ('-' :: hexDigits 2 n)
  else if n ≤ 0xffff then .ofChars ('-' :: 'u' :: hexDigits 4 n)
  else .ofChars ('-' :: 'U' :: hexDigits 8 n)

/-- The anchor of a name: letters, digits, `_` and `-` only. -/
def anchor (name : CodeText) : CodeText :=
  (normalize name).flatMap anchorPoint

end TypeCatalog.Name
