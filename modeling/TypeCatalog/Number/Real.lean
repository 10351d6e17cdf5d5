/-!
# Binary numbers of double precision

A number has a mantissa below `2 ^ 53` and an exponent between `leastExponent`
and `greatestExponent`.  Every operation is exact up to one rounding at its
end: to the nearest number, and to the even mantissa of two that are equally
near.
-/

namespace TypeCatalog

inductive Real where
  /-- The number `mantissa * 2 ^ exponent` with its sign.  The mantissa has 53 binary digits
  unless the exponent is the least one. -/
  | finite (negative : Bool) (mantissa : Nat) (exponent : Int)
  | infinite (negative : Bool)
  | undefined
  deriving DecidableEq, Repr, Inhabited

namespace Real

def leastExponent : Int := -1074

def greatestExponent : Int := 971

def fullMantissa : Nat := Nat.pow 2 52

def zero (negative : Bool) : Real :=
  .finite negative 0 leastExponent

/-! ## Rounding -/

/-- The quotient rounded to the nearest integer, and to an even one if two are equally
near. -/
def roundedQuotient (numerator denominator : Nat) : Nat :=
  let quotient := numerator / denominator
  let twice := 2 * (numerator % denominator)
  if denominator < twice || (denominator == twice && quotient % 2 == 1) then quotient + 1
  else quotient

def scaled (numerator denominator : Nat) (exponent : Int) : Nat × Nat :=
  if exponent < 0 then (numerator * Nat.pow 2 exponent.natAbs, denominator)
  else (numerator, denominator * Nat.pow 2 exponent.natAbs)

/-- The exponent with which the mantissa of a positive fraction has 53 binary digits, or the
least exponent if that is greater. -/
def exponentOf (numerator denominator : Nat) : Int :=
  let estimate : Int := (numerator.log2 : Int) - denominator.log2 - 53
  let (n, d) := scaled numerator denominator estimate
  max leastExponent (if 2 * fullMantissa ≤ n / d then estimate + 1 else estimate)

def ofMantissa (negative : Bool) (mantissa : Nat) (exponent : Int) : Real :=
  let (mantissa, exponent) :=
    if mantissa == 2 * fullMantissa then (fullMantissa, exponent + 1) else (mantissa, exponent)
  if greatestExponent < exponent then .infinite negative else .finite negative mantissa exponent

def ofFraction (negative : Bool) (numerator denominator : Nat) : Real :=
  if numerator = 0 then zero negative
  else
    let exponent := exponentOf numerator denominator
    let (n, d) := scaled numerator denominator exponent
    ofMantissa negative (roundedQuotient n d) exponent

def ofBinary (negative : Bool) (mantissa : Nat) (exponent : Int) : Real :=
  let (n, d) := scaled mantissa 1 (-exponent)
  ofFraction negative n d

/-- Exponents of ten so far from zero that the number is infinite or zero for certain. -/
def decimalReach : Int := 400

/-- The number nearest to `mantissa * 10 ^ exponent`, given the number of decimal digits of
the mantissa. -/
def ofDecimal (negative : Bool) (mantissa digits : Nat) (exponent : Int) : Real :=
  let magnitude := (digits : Int) + exponent
  if mantissa = 0 || magnitude < -decimalReach then zero negative
  else if decimalReach < exponent then .infinite negative
  else if exponent < 0 then ofFraction negative mantissa (Nat.pow 10 exponent.natAbs)
  else ofFraction negative (mantissa * Nat.pow 10 exponent.natAbs) 1

/-! ## Arithmetic -/

def negate : Real → Real
  | finite negative mantissa exponent => .finite (!negative) mantissa exponent
  | infinite negative => .infinite (!negative)
  | undefined => .undefined

def withSign (negative : Bool) (value : Real) : Real :=
  if negative then value.negate else value

/-- The sum of two finite numbers.  Zero is negative only as a sum of negative zeros. -/
def addFinite (s : Bool) (m : Nat) (e : Int) (t : Bool) (n : Nat) (f : Int) : Real :=
  let least := min e f
  let signed (negative : Bool) (k : Nat) : Int := if negative then -(k : Int) else k
  let total :=
    signed s (m * Nat.pow 2 (e - least).toNat) + signed t (n * Nat.pow 2 (f - least).toNat)
  if total = 0 then zero (s && t) else ofBinary (total < 0) total.natAbs least

def add : Real → Real → Real
  | undefined, _ | _, undefined => .undefined
  | infinite s, infinite t => if s == t then .infinite s else .undefined
  | infinite s, finite _ _ _ => .infinite s
  | finite _ _ _, infinite t => .infinite t
  | finite s m e, finite t n f => addFinite s m e t n f

def mul : Real → Real → Real
  | undefined, _ | _, undefined => .undefined
  | infinite s, infinite t => .infinite (s != t)
  | infinite s, finite t n _ => if n = 0 then .undefined else .infinite (s != t)
  | finite s m _, infinite t => if m = 0 then .undefined else .infinite (s != t)
  | finite s m e, finite t n f => ofBinary (s != t) (m * n) (e + f)

/-! ## Exact values -/

def truncated? : Real → Option Int
  | finite negative mantissa exponent =>
    let (n, d) := scaled mantissa 1 (-exponent)
    let size : Int := n / d
    some (if negative then -size else size)
  | _ => none

def oddPart (mantissa : Nat) (exponent : Int) : Nat × Int :=
  if mantissa = 0 then (0, 0)
  else if mantissa % 2 = 0 then oddPart (mantissa / 2) (exponent + 1)
  else (mantissa, exponent)
termination_by mantissa

end Real

end TypeCatalog
