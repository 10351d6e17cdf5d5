import TypeCatalog.Json.Value
import TypeCatalog.Number.Numeral
import TypeCatalog.Text.Digit
import TypeCatalog.Text.Integer

/-!
# Reading JSON

The reader works on what is left of the text and needs no more steps than the
text has characters, which is how much fuel it gets.
-/

namespace TypeCatalog.Json

open Text

def skipSpace (text : List Char) : List Char :=
  text.dropWhile fun c => c == ' ' || c == '\t' || c == '\n' || c == '\r'

def joinSurrogates : CodeText → CodeText
  | .surrogate high :: .surrogate low :: rest =>
    if high.val < 0x400 && 0x400 ≤ low.val then
      .scalar (Char.ofNat (0x10000 + high.val * 0x400 + (low.val - 0x400))) :: joinSurrogates rest
    else .surrogate high :: joinSurrogates (.surrogate low :: rest)
  | point :: rest => point :: joinSurrogates rest
  | [] => []

def simpleEscape? (c : Char) : Option Char :=
  [('"', '"'), ('\\', '\\'), ('/', '/'), ('b', '\x08'), ('f', '\x0c'), ('n', '\n'), ('r', '\r'),
    ('t', '\t')].lookup c

/-- The rest of a text after its quotation mark; `read` is reversed. -/
def readText (read : CodeText) : List Char → Option (CodeText × List Char)
  | [] => none
  | '"' :: rest => some (joinSurrogates read.reverse, rest)
  | '\\' :: 'u' :: a :: b :: c :: d :: rest => do
    readText ((← CodePoint.ofNat? (← hexNumber? [a, b, c, d])) :: read) rest
  | '\\' :: c :: rest => do
    readText (.scalar (← simpleEscape? c) :: read) rest
  | c :: rest => readText (.scalar c :: read) rest

def splitDigits (text : List Char) : List Char × List Char :=
  (text.takeWhile Char.isDigit, text.dropWhile Char.isDigit)

def splitFraction : List Char → List Char × List Char
  | '.' :: rest =>
    let (digits, after) := splitDigits rest
    if digits.isEmpty then ([], '.' :: rest) else ('.' :: digits, after)
  | other => ([], other)

def splitExponent (text : List Char) : List Char × List Char :=
  let mark := text.take 1
  let sign := ((text.drop 1).take 1).filter fun c => c == '+' || c == '-'
  let (digits, after) := splitDigits (text.drop (1 + sign.length))
  if (mark == ['e'] || mark == ['E']) && !digits.isEmpty then (mark ++ sign ++ digits, after)
  else ([], text)

def readNumber (text : List Char) : Option (Json × List Char) :=
  let negative := text.head? == some '-'
  let (digits, rest) := splitDigits (if negative then text.tail else text)
  let (fraction, rest) := splitFraction rest
  let (exponent, rest) := splitExponent rest
  if digits.isEmpty then none
  else if fraction.isEmpty && exponent.isEmpty then
    let size := Integer.ofDigits 10 (digits.filterMap digitValue?)
    some (.int (Integer.withSign negative size), rest)
  else
    (Real.readDecimal? negative (digits ++ fraction ++ exponent)).map fun value =>
      (.real value, rest)

mutual

def readValue : Nat → List Char → Option (Json × List Char)
  | 0, _ => none
  | fuel + 1, source =>
    match skipSpace source with
    | 'n' :: 'u' :: 'l' :: 'l' :: rest => some (.null, rest)
    | 't' :: 'r' :: 'u' :: 'e' :: rest => some (.bool true, rest)
    | 'f' :: 'a' :: 'l' :: 's' :: 'e' :: rest => some (.bool false, rest)
    | '"' :: rest => (readText [] rest).map fun (value, tail) => (.text value, tail)
    | '[' :: rest =>
      match skipSpace rest with
      | ']' :: tail => some (.array [], tail)
      | _ => (readItems fuel rest).map fun (items, tail) => (.array items, tail)
    | '\x7b' :: rest =>
      match skipSpace rest with
      | '\x7d' :: tail => some (.object [], tail)
      | _ => (readFields fuel rest).map fun (fields, tail) => (.object fields, tail)
    | other => readNumber other

def readItems : Nat → List Char → Option (List Json × List Char)
  | 0, _ => none
  | fuel + 1, source => do
    let (item, rest) ← readValue fuel source
    match skipSpace rest with
    | ',' :: tail => (readItems fuel tail).map fun (items, left) => (item :: items, left)
    | ']' :: tail => return ([item], tail)
    | _ => none

def readFields : Nat → List Char → Option (List (CodeText × Json) × List Char)
  | 0, _ => none
  | fuel + 1, source => do
    let '"' :: start := skipSpace source | none
    let (key, rest) ← readText [] start
    let ':' :: rest := skipSpace rest | none
    let (value, rest) ← readValue fuel rest
    match skipSpace rest with
    | ',' :: tail =>
      (readFields fuel tail).map fun (fields, left) => ((key, value) :: fields, left)
    | '\x7d' :: tail => return ([(key, value)], tail)
    | _ => none

end

def read? (text : String) : Option Json :=
  match readValue (2 * text.length + 2) text.toList with
  | some (value, rest) => if (skipSpace rest).isEmpty then some value else none
  | none => none

end TypeCatalog.Json
