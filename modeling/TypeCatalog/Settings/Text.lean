import TypeCatalog.Text.Utf8
import TypeCatalog.Yaml.Cursor

/-!
# Texts of settings files

A settings file is decoded in portions of bytes and handed on in parts of
characters, each as late as possible.  So a fault at its start hides bytes
that are not UTF-8, or characters that are not allowed, far behind it.
-/

namespace TypeCatalog.Settings

open Text Yaml

/-! ## Portions of bytes -/

/-- The number of bytes that are decoded at a time. -/
def portionSize : Nat := 8192

/-- The position in a file that the position of a fault is counted from.  A portion of the file
begins with the character or fault that the portion before it leaves unfinished; the end of the
file is a portion too. -/
def portionStart (bytes : List UInt8) (fault : Utf8.Fault) : Nat :=
  let seen := match fault.reason with
    | .invalidContinuation => fault.position + fault.bytes.length
    | _ => fault.position
  let border := seen / portionSize * portionSize
  if fault.reason == .unexpectedEnd || fault.position ≤ border then fault.position
  else if (bytes.drop border).head?.any Utf8.isContinuation then
    border - 1 - ((bytes.take border).reverse.takeWhile Utf8.isContinuation).length
  else border

def plainLines : List Char → List Char
  | [] => []
  | '\r' :: '\n' :: rest => '\n' :: plainLines rest
  | '\r' :: rest => '\n' :: plainLines rest
  | c :: rest => c :: plainLines rest

/-- A text before a portion that is not decoded.  A carriage return at its end is held back,
because a line feed may follow. -/
def heldLines (text : List Char) : List Char :=
  plainLines (if text.getLast? == some '\r' then text.dropLast else text)

/-! ## Parts of characters -/

def partSize : Nat := 4096

/-- The number of characters that are known before the part with a given character is handed
on.  The first two parts are handed on together. -/
def knownBefore (index : Nat) : Nat :=
  if index < 2 * partSize then 0 else index / partSize * partSize

def allowedParts (source : Source) : Source :=
  let index := (source.text.takeWhile isAllowed).length
  if index == source.text.length then source
  else
    { text := source.text.take (knownBefore index), fault := some (.malformed .unprintable) }

/-! ## Whole files -/

structure FileText where
  source : Source
  /-- The bytes that the text stops at, if the file is not UTF-8.  Their position is counted in
  their portion. -/
  undecoded : Option Utf8.Fault := none

def FileText.ofBytes (bytes : List UInt8) : FileText :=
  match Utf8.decode bytes with
  | .ok text => { source := allowedParts { text := plainLines text } }
  | .error fault =>
    let start := portionStart bytes fault
    let text := heldLines (Utf8.decodeLossy (bytes.take start))
    { source :=
        allowedParts { text := text.take (knownBefore text.length), fault := some .unreadable }
      undecoded := some { fault with position := fault.position - start } }

end TypeCatalog.Settings
