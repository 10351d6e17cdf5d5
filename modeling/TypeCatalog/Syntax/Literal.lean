import TypeCatalog.Text.CharacterName.Lookup
import TypeCatalog.Text.CodePoint
import TypeCatalog.Text.Digit
import TypeCatalog.Text.Integer
import TypeCatalog.Text.Utf8

/-!
# Literals of C++

An integer literal may have digit separators, a suffix for the type, and one of
the bases 2, 8, 10 and 16.  An escape sequence of a string literal is read byte
by byte, each byte standing for the code point of the same number.  A backslash
before a letter without meaning stands for itself.
-/

namespace TypeCatalog

open Text

/-! ## Integers -/

namespace IntegerLiteral

def isSuffixLetter (c : Char) : Bool :=
  ['u', 'U', 'l', 'L', 'z', 'Z'].contains c

def dropLetters (text : List Char) : List Char :=
  (text.reverse.dropWhile isSuffixLetter).reverse

/-- Drops the suffix, which may stand before a final line feed. -/
def dropSuffix (text : List Char) : List Char :=
  if text.getLast? == some '\n' then dropLetters text.dropLast ++ ['\n'] else dropLetters text

def isOctalDigit (c : Char) : Bool :=
  '0' ≤ c && c ≤ '7'

def isOctal : List Char → Bool
  | '0' :: rest => !rest.isEmpty && rest.all isOctalDigit
  | _ => false

def value? (text : CodeText) : Option Int := do
  let digits := dropSuffix ((← (trim text).chars?).filter (· != '\''))
  if isOctal digits then some (Integer.ofDigits 8 (digits.filterMap digitValue?))
  else (Integer.readAnyBase digits).toOption

end IntegerLiteral

/-! ## Escape sequences -/

namespace Escape

def simple? (c : Char) : Option Char :=
  [('\\', '\\'), ('\'', '\''), ('"', '"'), ('b', '\x08'), ('f', '\x0c'), ('t', '\t'),
    ('n', '\n'), ('r', '\r'), ('v', '\x0b'), ('a', '\x07')].lookup c

def octal? (c : Char) : Option Nat :=
  if '0' ≤ c && c ≤ '7' then some (c.toNat - '0'.toNat) else none

def hexPoint? (digits : List Char) : Option CodePoint :=
  (hexNumber? digits).bind CodePoint.ofNat?

def named? (braced : List Char) : Option (CodePoint × Nat) := do
  let name := (braced.drop 1).takeWhile (· != '\x7d')
  if braced.head? != some '\x7b' || braced.length < name.length + 2 then none
  else return (← CodePoint.ofNat? (← CharacterName.find? name), name.length + 2)

/-- An escape after its backslash: what it stands for and how many characters it takes;
`none` if it is malformed. -/
def head? : List Char → Option (CodeText × Nat)
  | [] => none
  | '\n' :: _ => some ([], 1)
  | 'x' :: a :: b :: _ => (hexPoint? [a, b]).map ([·], 3)
  | 'u' :: a :: b :: c :: d :: _ => (hexPoint? [a, b, c, d]).map ([·], 5)
  | 'U' :: a :: b :: c :: d :: e :: f :: g :: h :: _ =>
    (hexPoint? [a, b, c, d, e, f, g, h]).map ([·], 9)
  | 'N' :: rest => (named? rest).map fun (point, length) => ([point], length + 1)
  | c :: rest =>
    if ['x', 'u', 'U'].contains c then none
    else
      match simple? c with
      | some meaning => some ([.scalar meaning], 1)
      | none =>
        let digits := ((c :: rest).take 3).takeWhile fun d => (octal? d).isSome
        if digits.isEmpty then some ([.scalar '\\', .scalar c], 1)
        else
          let value := (digits.filterMap octal?).foldl (fun total d => total * 8 + d) 0
          (CodePoint.ofNat? value).map ([·], digits.length)

/-- Decodes after skipping characters that belong to an escape read before. -/
def decodeFrom : Nat → List Char → Option CodeText
  | _, [] => some []
  | skip + 1, _ :: rest => decodeFrom skip rest
  | 0, '\\' :: rest => do
    let (meaning, length) ← head? rest
    return meaning ++ (← decodeFrom length rest)
  | 0, c :: rest => do
    return .scalar c :: (← decodeFrom 0 rest)

/-- What an escape sequence stands for; a malformed one stands for itself. -/
def decode (sequence : List Char) : CodeText :=
  let bytes := (Utf8.encode sequence).map fun b => Char.ofNat b.toNat
  (decodeFrom 0 bytes).getD (.ofChars sequence)

end Escape

end TypeCatalog
