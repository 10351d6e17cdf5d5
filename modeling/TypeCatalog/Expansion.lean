import TypeCatalog.Diagnostic
import TypeCatalog.Text.Blank
import TypeCatalog.Text.WordChar

/-!
# Expansion of the macros that spell a tag

An invocation is a name at a word boundary, blanks, and a group in
parentheses; parentheses in string and character literals do not count.  An
invocation of a tag macro becomes the attribute it stands for, with its
arguments unchanged.  A macro without parameters that the same text defines,
and whose body has an invocation of a tag macro, is replaced by its expanded
body.  Directives are left alone and lines are kept apart.
-/

namespace TypeCatalog.Expansion

open Text

def defaultNames : List CodeText := ["COMPEX_TAG"]

def tagAttribute : CodeText := "compex::tag"

/-! ## Invocations -/

/-- The text up to the parenthesis that closes `depth` open ones, and the text after it.
`quote` is the mark of the literal that is being read. -/
def closeParen : Nat → Option CodePoint → CodeText → Option (CodeText × CodeText)
  | _, _, [] => none
  | depth, some _, [.scalar '\\'] => closeParen depth none []
  | depth, some mark, .scalar '\\' :: c :: rest =>
    (closeParen depth (some mark) rest).map fun (inside, after) =>
      (.scalar '\\' :: c :: inside, after)
  | depth, some mark, c :: rest =>
    (closeParen depth (if c == mark then none else some mark) rest).map
      fun (inside, after) => (c :: inside, after)
  | depth, none, c :: rest =>
    if c == ')' then
      match depth with
      | 0 => none
      | 1 => some ([], rest)
      | depth + 1 =>
        (closeParen depth none rest).map fun (inside, after) => (c :: inside, after)
    else
      let depth := if c == '(' then depth + 1 else depth
      (closeParen depth (if c == '"' || c == '\'' then some c else none) rest).map
        fun (inside, after) => (c :: inside, after)

def isBoundary (previous next : Option CodePoint) : Bool :=
  previous.any CodePoint.isWordChar != next.any CodePoint.isWordChar

def afterOpening? (name text : CodeText) : Option (CodeText) :=
  if name.isPrefixOf text then
    match trimLeft (text.drop name.length) with
    | .scalar '(' :: rest => some rest
    | _ => none
  else none

/-- The names in the order in which they are tried: longer ones first. -/
def byLength (names : List CodeText) : List CodeText :=
  names.mergeSort fun a b => b.length ≤ a.length

/-- The invocation of the first fitting name that starts a text: the name, and what follows
the parenthesis. -/
def invocation? (names : List CodeText) (previous : Option CodePoint) (text : CodeText) :
    Option (CodeText × CodeText) :=
  if isBoundary previous text.head? then
    names.findSome? fun name => (afterOpening? name text).map (name, ·)
  else none

def hasInvocation (names : List CodeText) : Option CodePoint → CodeText → Bool
  | previous, [] => (invocation? names previous []).isSome
  | previous, c :: rest =>
    (invocation? names previous (c :: rest)).isSome || hasInvocation names (some c) rest

/-! ## Lines -/

/-- The macros at work: the names that spell a tag, and bodies by name.  Longer names come
first in both. -/
structure Macros where
  tags : List CodeText
  bodies : List (CodeText × CodeText) := []

namespace Macros

/-- The invocation that starts a text.  Tag macros come before macros with a body. -/
def invocation? (macros : Macros) (previous : Option CodePoint) (text : CodeText) :
    Option (CodeText × CodeText) :=
  (Expansion.invocation? macros.tags previous text).or
    (Expansion.invocation? (macros.bodies.map (·.1)) previous text)

def replacement (macros : Macros) (name arguments : CodeText) : CodeText :=
  match macros.bodies.lookup name with
  | some body => body
  | none => "[[" ++ tagAttribute ++ "(" ++ arguments ++ ")]]"

/-- Expands a line from a position on.  The number counts characters that belong to the
invocation replaced last; the Boolean says that an invocation is not closed, in which case
it and what follows is kept. -/
def expandFrom (macros : Macros) : Nat → Option CodePoint → CodeText → CodeText × Bool
  | _, _, [] => ([], false)
  | skip + 1, _, c :: rest => expandFrom macros skip (some c) rest
  | 0, previous, c :: rest =>
    match macros.invocation? previous (c :: rest) with
    | none =>
      let (expanded, isOpen) := expandFrom macros 0 (some c) rest
      (c :: expanded, isOpen)
    | some (name, opened) =>
      match closeParen 1 none opened with
      | none => (c :: rest, true)
      | some (arguments, after) =>
        let (expanded, isOpen) := expandFrom macros (rest.length - after.length) (some c) rest
        (macros.replacement name arguments ++ expanded, isOpen)

def unterminated (line : CodeText) : Diagnostic :=
  { level := .warning, channel := Channel.expansion,
    message := "Unterminated macro invocation: " ++ trim line }

def replaceInLine (macros : Macros) (line : CodeText) : CodeText × List Diagnostic :=
  let (expanded, isOpen) := macros.expandFrom 0 none line
  (expanded, if isOpen then [unterminated line] else [])

end Macros

/-! ## Definitions in the text -/

def skipBlanks? (text : CodeText) : Option (CodeText) :=
  if text.head?.any CodePoint.isBlank then some (trimLeft text) else none

def definition? (line : CodeText) : Option (CodeText × CodeText) := do
  let .scalar '#' :: rest := trimLeft line | none
  let rest := trimLeft rest
  let keyword : CodeText := "define"
  if !keyword.isPrefixOf rest then none
  let rest ← skipBlanks? (rest.drop keyword.length)
  let first ← rest.head?
  if !first.isIn (fun c => c.isAlpha || c == '_') then none
  let name := rest.takeWhile CodePoint.isWordChar
  let .scalar '(' :: rest := rest.dropWhile CodePoint.isWordChar | none
  let .scalar ')' :: rest := trimLeft rest | none
  let body := trimRight (← skipBlanks? rest)
  if body.isEmpty then none
  return (name, body)

def setBody (bodies : List (CodeText × CodeText)) (name body : CodeText) :
    List (CodeText × CodeText) :=
  (name, body) :: bodies.filter (·.1 != name)

def collectBodies (tags : List CodeText) :
    List (CodeText × CodeText) → List CodeText →
      List (CodeText × CodeText) × List Diagnostic
  | bodies, [] => (bodies, [])
  | bodies, line :: rest =>
    match definition? line with
    | none => collectBodies tags bodies rest
    | some (name, body) =>
      if hasInvocation tags none body then
        let (expanded, reports) := ({ tags } : Macros).replaceInLine body
        let note : Diagnostic :=
          { level := .debug, channel := Channel.expansion,
            message := "Tag alias macro " ++ name ++ " -> " ++ expanded }
        let (others, more) := collectBodies tags (setBody bodies name expanded) rest
        (others, reports ++ note :: more)
      else collectBodies tags bodies rest

/-! ## Texts -/

def isDirective (line : CodeText) : Bool :=
  (trimLeft line).head? == some (.scalar '#')

def expandLines (macros : Macros) : List CodeText → List CodeText × List Diagnostic
  | [] => ([], [])
  | line :: rest =>
    let (expanded, reports) :=
      if isDirective line then (line, []) else macros.replaceInLine line
    let (others, more) := expandLines macros rest
    (expanded :: others, reports ++ more)

def expand (names : List CodeText) (source : CodeText) : CodeText × List Diagnostic :=
  let tags := byLength names
  if hasInvocation tags none source then
    let lines := splitOn (.scalar '\n') source
    let (bodies, reports) := collectBodies tags [] lines
    let sorted := bodies.mergeSort fun a b => b.1.length ≤ a.1.length
    let (expanded, more) := expandLines { tags, bodies := sorted } lines
    (joinWith "\n" expanded, reports ++ more)
  else (source, [])

end TypeCatalog.Expansion
