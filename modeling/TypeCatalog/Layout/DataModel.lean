import TypeCatalog.Text.Blank
import TypeCatalog.Text.Quoted

/-!
# Layouts, and data models: the sizes of builtin types for a target

A builtin type may be spelled in many ways; its canonical spelling has no
qualifiers, no signedness, no `std::`, and no `int` beside `long` or `short`.
-/

namespace TypeCatalog

open Text (CodeText)

/-! ## Sizes and alignments -/

/-- A size and an alignment in bytes, `none` where they are not known. -/
structure Layout where
  size : Option Int
  align : Option Int
  deriving DecidableEq, Repr, Inhabited

namespace Layout

def unresolved : Layout := ⟨none, none⟩

def isResolved (layout : Layout) : Bool :=
  layout.size.isSome && layout.align.isSome

/-- The layout of an array.  Without a count the size is not known. -/
def array (element : Layout) (count : Option Int) : Layout :=
  match element.size, count with
  | some size, some count => ⟨some (size * count), element.align⟩
  | _, _ => ⟨none, element.align⟩

def bitsPerByte : Int := 8

/-- The least multiple of an alignment at or after a value; alignments up to 1 keep it. -/
def roundUp (value alignment : Int) : Int :=
  if alignment ≤ 1 then value else (value + alignment - 1) / alignment * alignment

def numberText : Option Int → String
  | some n => toString n
  | none => "None"

def shown (layout : Layout) : String :=
  "Layout(size=" ++ numberText layout.size ++ ", align=" ++ numberText layout.align ++ ")"

end Layout

/-! ## Data models -/

structure DataModel where
  name : String
  pointerSize : Int
  sizes : List (String × Int)
  /-- Alignments that differ from the size. -/
  aligns : List (String × Int) := []
  deriving DecidableEq, Repr, Inhabited

namespace DataModel

def builtin? (model : DataModel) (canonical : CodeText) : Option Layout := do
  let name ← canonical.string?
  let size ← model.sizes.lookup name
  return ⟨some size, some ((model.aligns.lookup name).getD size)⟩

def pointer (model : DataModel) : Layout :=
  ⟨some model.pointerSize, some model.pointerSize⟩

def sharedSizes : List (String × Int) :=
  [("bool", 1), ("char", 1), ("char8_t", 1), ("short", 2), ("char16_t", 2), ("int", 4),
    ("char32_t", 4), ("float", 4), ("long long", 8), ("double", 8), ("__int128", 16),
    ("int8_t", 1), ("uint8_t", 1), ("int16_t", 2), ("uint16_t", 2), ("int32_t", 4),
    ("uint32_t", 4), ("int64_t", 8), ("uint64_t", 8), ("intmax_t", 8), ("uintmax_t", 8),
    ("byte", 1)]

def pointerSized : List String :=
  ["size_t", "ssize_t", "ptrdiff_t", "intptr_t", "uintptr_t", "nullptr_t"]

def ofSizes (name : String) (pointerSize : Int) (own aligns : List (String × Int)) : DataModel :=
  { name, pointerSize, aligns,
    sizes := own ++ pointerSized.map (·, pointerSize) ++ sharedSizes }

def lp64 : DataModel :=
  ofSizes "lp64" 8 [("long", 8), ("wchar_t", 4), ("long double", 16)] []

def llp64 : DataModel :=
  ofSizes "llp64" 8 [("long", 4), ("wchar_t", 2), ("long double", 8)] []

def ilp32 : DataModel :=
  ofSizes "ilp32" 4 [("long", 4), ("wchar_t", 4), ("long double", 12)]
    [("long double", 4), ("long long", 4), ("double", 4), ("int64_t", 4), ("uint64_t", 4),
      ("intmax_t", 4), ("uintmax_t", 4)]

def all : List DataModel :=
  [ilp32, llp64, lp64]

def names : List String :=
  all.map (·.name)

def defaultName : String := "lp64"

def ofName? (name : CodeText) : Option DataModel := do
  let chars ← name.chars?
  all.find? (·.name.toList == chars.map Char.toLower)

def unknownMessage (name : CodeText) : CodeText :=
  "Unknown data model '" ++ name ++ "'. Expected one of: " ++
    Text.quotedList (names.map CodeText.ofString)

end DataModel

/-! ## Spellings of builtin types -/

namespace Builtin

def qualifiers : List CodeText :=
  ["const", "volatile", "signed", "unsigned", "__signed__", "struct", "class", "union", "enum"]

def tokens (spelling : CodeText) : List CodeText :=
  let bare := Text.replace "std::" "" spelling
  (Text.words (Text.replace "::" " " bare)).filter (!qualifiers.contains ·)

def canonical (spelling : CodeText) : CodeText :=
  let parts := tokens spelling
  if parts.isEmpty then "int"
  else
    let isWide := parts.contains "long" || parts.contains "short"
    Text.joinWith " " (if isWide then parts.erase "int" else parts)

end Builtin

end TypeCatalog
