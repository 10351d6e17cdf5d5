/-!
# Code points, surrogates included

A text from outside may hold a surrogate code point on its own, which no
`Char` can be.  Names, values of literals, scalars, paths and messages are
therefore lists of code points.
-/

namespace TypeCatalog.Text

inductive CodePoint where
  | scalar (c : Char)
  /-- The surrogate code point `0xd800 + offset`. -/
  | surrogate (offset : Fin 0x800)
  deriving DecidableEq, Repr, Inhabited

abbrev CodeText := List CodePoint

def CodePoint.value : CodePoint → Nat
  | scalar c => c.toNat
  | surrogate offset => 0xd800 + offset.val

def CodePoint.isSurrogate : CodePoint → Bool
  | surrogate _ => true
  | scalar _ => false

/-- The code point of a number; there is none above `0x10ffff`. -/
def CodePoint.ofNat? (n : Nat) : Option CodePoint :=
  if n.isValidChar then some (.scalar (Char.ofNat n))
  else if h : 0xd800 ≤ n ∧ n < 0xe000 then some (.surrogate ⟨n - 0xd800, by omega⟩)
  else none

def CodeText.ofChars (text : List Char) : CodeText :=
  text.map .scalar

def CodeText.ofString (text : String) : CodeText :=
  .ofChars text.toList

def proper? (text : Option CodeText) : Option CodeText :=
  text.filter (!·.isEmpty)

def CodeText.precedes : CodeText → CodeText → Bool
  | [], _ => true
  | _ :: _, [] => false
  | first :: rest, other :: others =>
    first.value < other.value || (first == other && precedes rest others)

instance : Coe Char CodePoint :=
  ⟨.scalar⟩

instance : Coe String CodeText :=
  ⟨CodeText.ofString⟩

def CodePoint.isIn (members : Char → Bool) : CodePoint → Bool
  | scalar c => members c
  | surrogate _ => false

def CodeText.chars? (text : CodeText) : Option (List Char) :=
  text.mapM fun
    | .scalar c => some c
    | .surrogate _ => none

def CodeText.string? (text : CodeText) : Option String :=
  text.chars?.map String.ofList

/-- The characters of a text, a surrogate being shown as the replacement character. -/
def CodeText.toChars (text : CodeText) : List Char :=
  text.map fun
    | .scalar c => c
    | .surrogate _ => '\ufffd'

def CodeText.toString (text : CodeText) : String :=
  String.ofList text.toChars

/-! ## Tables of code points -/

/-- The first and the last code point of a run of consecutive code points. -/
abbrev CodeRange := Nat × Nat

def CodeRange.member (ranges : List CodeRange) (code : Nat) : Bool :=
  ranges.any fun range => range.1 ≤ code && code ≤ range.2

structure NameRun where
  first : Nat
  /-- The first name, and then what changes from name to name, in lines. -/
  changes : List String
  deriving Repr

end TypeCatalog.Text
