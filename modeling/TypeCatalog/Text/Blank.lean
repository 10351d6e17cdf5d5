import TypeCatalog.Text.CodePoint

/-!
# White space and the operations that depend on it

Every operation is one pass over a text.
-/

namespace TypeCatalog.Text

/-- White space: the ASCII blanks and information separators, and the space and line
separators of Unicode. -/
def isBlank (c : Char) : Bool :=
  let n := c.toNat
  (0x09 ≤ n && n ≤ 0x0d) || (0x1c ≤ n && n ≤ 0x20) || n == 0x85 || n == 0xa0 || n == 0x1680 ||
    (0x2000 ≤ n && n ≤ 0x200a) || n == 0x2028 || n == 0x2029 || n == 0x202f || n == 0x205f ||
    n == 0x3000

def CodePoint.isBlank : CodePoint → Bool :=
  CodePoint.isIn Text.isBlank

/-! ## Blanks in texts -/

def trimLeft (text : CodeText) : CodeText :=
  text.dropWhile CodePoint.isBlank

def trimRight (text : CodeText) : CodeText :=
  (text.reverse.dropWhile CodePoint.isBlank).reverse

def trim (text : CodeText) : CodeText :=
  trimRight (trimLeft text)

/-- One pass of `collapse`; `inside` says that the previous code point was blank. -/
def collapseFrom : Bool → CodeText → CodeText
  | _, [] => []
  | inside, c :: rest =>
    if c.isBlank then
      if inside then collapseFrom true rest else .scalar ' ' :: collapseFrom true rest
    else c :: collapseFrom false rest

def collapse (text : CodeText) : CodeText :=
  collapseFrom false text

/-! ## Parts of lists -/

def hasInfix {α : Type} [BEq α] (needle : List α) : List α → Bool
  | [] => needle.isEmpty
  | c :: rest => needle.isPrefixOf (c :: rest) || hasInfix needle rest

/-- The pieces between separators, empty ones included. -/
def splitBy {α : Type} (isSeparator : α → Bool) : List α → List (List α)
  | [] => [[]]
  | c :: rest =>
    if isSeparator c then [] :: splitBy isSeparator rest
    else
      match splitBy isSeparator rest with
      | [] => [[c]]
      | piece :: others => (c :: piece) :: others

def splitOn {α : Type} [BEq α] (separator : α) (text : List α) : List (List α) :=
  splitBy (· == separator) text

def words (text : CodeText) : List CodeText :=
  (splitBy CodePoint.isBlank text).filter (!·.isEmpty)

def joinWith {α : Type} (separator : List α) : List (List α) → List α
  | [] => []
  | [piece] => piece
  | piece :: next :: rest => piece ++ separator ++ joinWith separator (next :: rest)

/-- Replaces every occurrence of a list, left to right.  The number counts elements that
belong to the occurrence replaced last. -/
def replaceFrom {α : Type} [BEq α] (needle replacement : List α) : Nat → List α → List α
  | _, [] => []
  | skip + 1, _ :: rest => replaceFrom needle replacement skip rest
  | 0, c :: rest =>
    if needle.isPrefixOf (c :: rest) then
      replacement ++ replaceFrom needle replacement (needle.length - 1) rest
    else c :: replaceFrom needle replacement 0 rest

def replace {α : Type} [BEq α] (needle replacement text : List α) : List α :=
  replaceFrom needle replacement 0 text

end TypeCatalog.Text
