import TypeCatalog.Number.Real
import TypeCatalog.Text.Integer

/-!
# Numerals of real numbers

Among the decimal numbers that round to a given binary number, those with the
fewest digits are taken, and of these the nearest.  A number is written with a
point or an exponent, so that it is told apart from an integer.  A numeral that
is read may have blanks around it, a sign, digits of any script with at most one
point among them, and an exponent.  The words for infinity and for an undefined
number are numerals as well.
-/

namespace TypeCatalog.Real

open Text

/-! ## The shortest digits -/

/-- Decimal digits and the place of the point: `0.digits * 10 ^ point`. -/
structure Decimal where
  digits : List Char
  point : Int
  deriving DecidableEq, Repr

/-- A positive number and the interval of the numbers that round to it, all of them in
multiples of `unit.1 / unit.2`. -/
structure Neighbourhood where
  low : Nat
  value : Nat
  high : Nat
  closed : Bool
  unit : Nat × Nat
  deriving Repr

/-- The neighbourhood of `mantissa * 2 ^ exponent`.  Below a power of two the numbers are
twice as dense. -/
def neighbourhood (mantissa : Nat) (exponent : Int) : Neighbourhood :=
  let unit :=
    if exponent - 2 < 0 then (1, Nat.pow 2 (exponent - 2).natAbs)
    else (Nat.pow 2 (exponent - 2).natAbs, 1)
  let below := if mantissa == fullMantissa && leastExponent < exponent then 1 else 2
  { low := 4 * mantissa - below, value := 4 * mantissa, high := 4 * mantissa + 2
    closed := mantissa % 2 == 0, unit }

def Neighbourhood.fraction (around : Neighbourhood) (multiple : Nat) (power : Int) : Nat × Nat :=
  let (n, d) := around.unit
  if power < 0 then (multiple * n * Nat.pow 10 power.natAbs, d)
  else (multiple * n, d * Nat.pow 10 power.natAbs)

def Neighbourhood.holds (around : Neighbourhood) (power : Int) (digits : Nat) : Bool :=
  let (low, d) := around.fraction around.low power
  let (high, _) := around.fraction around.high power
  if around.closed then low ≤ digits * d && digits * d ≤ high
  else low < digits * d && digits * d < high

def Neighbourhood.point (around : Neighbourhood) : Int :=
  let (n, d) := around.fraction around.value 0
  let estimate := (((n.log2 : Int) - d.log2 - 1) * 30103) / 100000
  let below (point : Int) : Bool :=
    let (numerator, denominator) := around.fraction around.value point
    numerator < denominator
  (([0, 1, 2, 3].map (estimate + ·)).find? below).getD (estimate + 4)

/-- The best numeral with a number of digits that is in a neighbourhood: the nearest of the
two next to the value, the even one if both are equally near. -/
def Neighbourhood.best? (around : Neighbourhood) (point : Int) (count : Nat) : Option Nat :=
  let power := point - count
  let (n, d) := around.fraction around.value power
  let nearest := roundedQuotient n d
  let other := if nearest == n / d then nearest + 1 else n / d
  if around.holds power nearest then some nearest
  else if around.holds power other then some other
  else none

def significant (numeral : Nat) : List Char :=
  (((Nat.toDigits 10 numeral).reverse.dropWhile (· == '0')).reverse)

def shortest (mantissa : Nat) (exponent : Int) : Decimal :=
  if mantissa = 0 then ⟨['0'], 1⟩
  else
    let around := neighbourhood mantissa exponent
    let point := around.point
    let attempts := (List.range 17).filterMap fun n =>
      (around.best? point (n + 1)).map fun numeral => (n + 1, numeral)
    match attempts.head? with
    | none => ⟨[], point⟩
    | some (count, numeral) =>
      ⟨significant numeral, point - count + (Nat.toDigits 10 numeral).length⟩

/-! ## Numbers as they are written -/

def positional (digits : List Char) (point : Int) : List Char :=
  if point ≤ 0 then '0' :: '.' :: List.replicate (-point).toNat '0' ++ digits
  else
    let whole := point.toNat
    if digits.length ≤ whole then
      digits ++ List.replicate (whole - digits.length) '0' ++ ['.', '0']
    else digits.take whole ++ '.' :: digits.drop whole

def exponential (digits : List Char) (exponent : Int) : List Char :=
  let fraction := if digits.length ≤ 1 then [] else '.' :: digits.drop 1
  let places := Nat.toDigits 10 exponent.natAbs
  let padding := if places.length < 2 then ['0'] else []
  digits.take 1 ++ fraction ++ 'e' :: (if exponent < 0 then '-' else '+') :: padding ++ places

structure Words where
  infinite : String
  undefined : String
  deriving DecidableEq, Repr

/-- A number with the fewest digits that tell it apart: positional between a ten-thousandth
and ten to the sixteenth. -/
def written (words : Words) : Real → String
  | .infinite negative => if negative then "-" ++ words.infinite else words.infinite
  | .undefined => words.undefined
  | .finite negative mantissa exponent =>
    let decimal := shortest mantissa exponent
    let text :=
      if -4 < decimal.point && decimal.point ≤ 16 then positional decimal.digits decimal.point
      else exponential decimal.digits (decimal.point - 1)
    String.ofList (if negative then '-' :: text else text)

def display (value : Real) : String :=
  value.written ⟨"inf", "nan"⟩

/-! ## Numerals as they are read -/

def splitDigits (text : List Char) : List Nat × List Char :=
  ((text.takeWhile Char.isDigit).map fun c => c.toNat - '0'.toNat, text.dropWhile Char.isDigit)

/-- Reads an exponent that has to be the rest of the text; no exponent is zero. -/
def readExponent? : List Char → Option Int
  | [] => some 0
  | mark :: rest =>
    let (negative, body) := Integer.splitSign rest
    let (digits, after) := splitDigits body
    if (mark == 'e' || mark == 'E') && !digits.isEmpty && after.isEmpty then
      some (Integer.withSign negative (Integer.ofDigits 10 digits))
    else none

def readDecimal? (negative : Bool) (text : List Char) : Option Real := do
  let (whole, after) := splitDigits text
  let (places, rest) := match after with
    | '.' :: fraction => splitDigits fraction
    | _ => ([], after)
  let exponent ← readExponent? rest
  let digits := whole ++ places
  if digits.isEmpty then none
  else
    some (ofDecimal negative (Integer.ofDigits 10 digits) digits.length (exponent - places.length))

def readUnsigned? (negative : Bool) (text : List Char) : Option Real :=
  let word := String.ofList (text.map Char.toLower)
  if word == "inf" || word == "infinity" then some (.infinite negative)
  else if word == "nan" then some .undefined
  else readDecimal? negative text

def unpadded (text : List Char) : List Char :=
  ((text.dropWhile Integer.isPadding).reverse.dropWhile Integer.isPadding).reverse

def read? (text : List Char) : Option Real :=
  let (negative, body) := Integer.splitSign (unpadded (Integer.plainDigits text))
  readUnsigned? negative body

end TypeCatalog.Real
