import TypeCatalog.Text.Blank
import TypeCatalog.Text.Digit
import TypeCatalog.Text.Quoted

/-!
# Integers and their numerals

A numeral may have a sign, blanks around it, decimal digits of any script and
single low lines between digits.  Without a fixed base it may start with the
mark of a base (`0x`, `0o`, `0b`), and a decimal numeral may start with a zero
only if it is zero.  Decimal numerals of more than `digitLimit` digits are
neither read nor written.
-/

namespace TypeCatalog.Text.Integer

/-- The greatest number of decimal digits that are read or written. -/
def digitLimit : Nat := 4300

inductive Fault where
  | malformed
  | tooLong (digits : Nat)
  deriving DecidableEq, Repr

def malformedMessage (base : Nat) (text : CodeText) : String :=
  "invalid literal for int() with base " ++ toString base ++ ": " ++
    String.ofList ((quotedChars text).take 200)

def tooLongMessage (digits : Nat) : String :=
  "Exceeds the limit (" ++ toString digitLimit ++
    " digits) for integer string conversion: value has " ++ toString digits ++
    " digits; use sys.set_int_max_str_digits() to increase the limit"

def unwritableMessage : String :=
  "Exceeds the limit (" ++ toString digitLimit ++
    " digits) for integer string conversion; use sys.set_int_max_str_digits() to increase the limit"

/-- Blanks around a numeral: the ASCII blanks, and every other blank beyond ASCII. -/
def isPadding (c : Char) : Bool :=
  if c.toNat < 128 then (0x09 ≤ c.toNat && c.toNat ≤ 0x0d) || c == ' ' else isBlank c

/-- Splits off a sign; the Boolean says whether the number is negative. -/
def splitSign : List Char → Bool × List Char
  | '-' :: rest => (true, rest)
  | '+' :: rest => (false, rest)
  | text => (false, text)

def digit? (base : Nat) (c : Char) : Option Nat :=
  (baseDigitValue? c).filter (· < base)

/-- The longest run of digits with single low lines between them, as values, and what
follows; `none` if a low line is not between digits.  `gap` says that a low line was read. -/
def digitRun (base : Nat) : Bool → List Char → Option (List Nat × List Char)
  | gap, [] => if gap then none else some ([], [])
  | gap, c :: rest =>
    match digit? base c with
    | some d => (digitRun base false rest).map fun (ds, tail) => (d :: ds, tail)
    | none =>
      if c == '_' then if gap then none else digitRun base true rest
      else if gap then none else some ([], c :: rest)

def ofDigits (base : Nat) (digits : List Nat) : Nat :=
  digits.foldl (fun total d => total * base + d) 0

def readDigits (base : Nat) (text : List Char) : Except Fault (List Nat) :=
  if text.head? == some '_' then .error .malformed
  else
    match digitRun base false text with
    | none => .error .malformed
    | some (digits, tail) =>
      if base == 10 && digitLimit < digits.length then .error (.tooLong digits.length)
      else if digits.isEmpty || !tail.all isPadding then .error .malformed
      else .ok digits

def baseMark? : List Char → Option (Nat × List Char)
  | '0' :: mark :: rest =>
    if mark == 'x' || mark == 'X' then some (16, rest)
    else if mark == 'o' || mark == 'O' then some (8, rest)
    else if mark == 'b' || mark == 'B' then some (2, rest)
    else none
  | _ => none

def plainDigits (text : List Char) : List Char :=
  text.map fun c =>
    match digitValue? c with
    | some d => Char.ofNat (d + '0'.toNat)
    | none => c

def readMarked (text : List Char) : Except Fault Nat := do
  match baseMark? text with
  | some (base, rest) =>
    let rest := if rest.head? == some '_' then rest.tail else rest
    return ofDigits base (← readDigits base rest)
  | none =>
    let digits ← readDigits 10 text
    let value := ofDigits 10 digits
    if text.head? == some '0' && value != 0 then .error .malformed else return value

def withSign (negative : Bool) (value : Nat) : Int :=
  if negative then -(value : Int) else value

def readAnyBase (text : List Char) : Except Fault Int := do
  let (negative, rest) := splitSign ((plainDigits text).dropWhile isPadding)
  return withSign negative (← readMarked rest)

def withoutMark (base : Nat) (text : List Char) : List Char :=
  match baseMark? text with
  | some (marked, rest) =>
    if marked == base then if rest.head? == some '_' then rest.tail else rest else text
  | none => text

def readBase (base : Nat) (text : List Char) : Except Fault Int := do
  let (negative, rest) := splitSign ((plainDigits text).dropWhile isPadding)
  return withSign negative (ofDigits base (← readDigits base (withoutMark base rest)))

def readDecimal (text : List Char) : Except Fault Int :=
  readBase 10 text

def isWritable (n : Int) : Bool :=
  n.natAbs < Nat.pow 10 digitLimit

def numeral (n : Int) : String :=
  match n with
  | .ofNat m => String.ofList (Nat.toDigits 10 m)
  | .negSucc m => String.ofList ('-' :: Nat.toDigits 10 (m + 1))

end TypeCatalog.Text.Integer
