import TypeCatalog.Number.Numeral
import TypeCatalog.Text.Digit
import TypeCatalog.Text.LowerCase
import TypeCatalog.Yaml.Fault
import TypeCatalog.Yaml.Form

/-!
# Scalars and the texts that they are written with

Each standard type has its own reading of a text.  A text with the form of a
value need not have a value, and a tag may ask for a type whose form the text
does not have.
-/

namespace TypeCatalog.Yaml

open Text

inductive Scalar where
  | null
  | bool (value : Bool)
  | int (value : Int)
  | real (value : Real)
  /-- An undefined number.  It equals only itself: the one with a word of its own is always
  the same, any other one is told apart by the node that it comes from. -/
  | undefined (origin : Option Nat)
  | date (value : Date)
  | moment (value : Moment)
  | bytes (value : List UInt8)
  | text (value : CodeText)
  deriving DecidableEq, Repr, Inhabited

namespace Scalar

def ofReal (origin : Nat) : Real → Scalar
  | .undefined => .undefined (some origin)
  | value => .real value

/-! ## Equality of keys -/

/-- The number that a scalar is equal to: its sign, an odd number and the exponent of the power
of two beside it.  Truth values are numbers too. -/
def number? : Scalar → Option (Bool × Nat × Int)
  | bool value => some (signed false (if value then 1 else 0) 0)
  | int value => some (signed (value < 0) value.natAbs 0)
  | real (.finite negative mantissa exponent) => some (signed negative mantissa exponent)
  | _ => none
where
  signed (negative : Bool) (mantissa : Nat) (exponent : Int) : Bool × Nat × Int :=
    (negative && mantissa != 0, Real.oddPart mantissa exponent)

def sameKey (a b : Scalar) : Bool :=
  match a, b with
  | .moment x, .moment y => x.isSame y
  | _, _ =>
    match a.number?, b.number? with
    | some x, some y => x == y
    | none, none => a == b
    | _, _ => false

end Scalar

/-! ## Numbers -/

def withoutLines (text : CodeText) : CodeText :=
  text.filter (· != .scalar '_')

def splitSign : CodeText → Bool × CodeText
  | .scalar '-' :: rest => (true, rest)
  | .scalar '+' :: rest => (false, rest)
  | text => (false, text)

def sixtiethParts (text : CodeText) : List CodeText :=
  splitOn (.scalar ':') text

def integerInBase (base : Nat) (text : CodeText) : Except Fault Int :=
  match Integer.readBase base text.toChars with
  | .ok value => .ok value
  | .error .malformed => noValue (.notInteger base text)
  | .error (.tooLong digits) => noValue (.tooManyDigits digits)

/-- The value of an integer without sign and low lines: the start of the text tells its
base. -/
def unsignedInteger (text : CodeText) : Except Fault Int :=
  match text.toChars with
  | [] => noValue .emptyNumeral
  | ['0'] => .ok 0
  | '0' :: 'b' :: _ => integerInBase 2 (text.drop 2)
  | '0' :: 'x' :: _ => integerInBase 16 (text.drop 2)
  | '0' :: _ => integerInBase 8 text
  | chars =>
    if chars.contains ':' then do
      let parts ← (sixtiethParts text).mapM (integerInBase 10)
      return parts.foldl (fun total part => total * 60 + part) 0
    else integerInBase 10 text

def integerOf (text : CodeText) : Except Fault Int :=
  let numeral := withoutLines text
  if numeral.isEmpty then noValue .emptyNumeral
  else do
    let (negative, body) := splitSign numeral
    let value ← unsignedInteger body
    return if negative then -value else value

def realPart (text : CodeText) : Except Fault Real :=
  match Real.read? text.toChars with
  | some value => .ok value
  | none => noValue (.notReal text)

def sumSixtieths (place : Nat) (total : Real) : List Real → Except Fault Real
  | [] => .ok total
  | part :: rest =>
    match Real.ofFraction false (Nat.pow 60 place) 1 with
    | .infinite _ => noValue .tooLarge
    | weight => sumSixtieths (place + 1) (total.add (part.mul weight)) rest

def unsignedReal (text : CodeText) : Except Fault Real :=
  if text.toChars.contains ':' then do
    let parts ← (sixtiethParts text).mapM realPart
    sumSixtieths 0 (.zero false) parts.reverse
  else realPart text

def realOf (origin : Nat) (text : CodeText) : Except Fault Scalar :=
  let numeral := lowerText (withoutLines text)
  if numeral.isEmpty then noValue .emptyNumeral
  else
    let (negative, body) := splitSign numeral
    if body == .ofString ".inf" then .ok (.real (.infinite negative))
    else if body == .ofString ".nan" then .ok (.undefined none)
    else do
      let value ← unsignedReal body
      return .ofReal origin (value.withSign negative)

/-! ## Other types -/

def truthOf (text : CodeText) : Except Fault Bool :=
  let word := lowerText text
  if ["yes", "true", "on"].contains word.toString then .ok true
  else if ["no", "false", "off"].contains word.toString then .ok false
  else noValue (.notTruthValue word)

def bytesOf (text : CodeText) : Except Fault (List UInt8) :=
  if text.any (127 < ·.value) then flaw .badBase64
  else
    match Base64.decode? text.toChars with
    | some bytes => .ok bytes
    | none => flaw .badBase64

def timeOf (text : CodeText) : Except Fault Scalar :=
  match WrittenTime.read? text.toChars with
  | none => noValue .notTime
  | some time =>
    match time.check, time with
    | .error fault, _ => noValue (.noSuchTime fault)
    | .ok (), .date value => .ok (.date value)
    | .ok (), .moment value => .ok (.moment value)

/-! ## Scalars in messages -/

def displayByte (quote : Char) (byte : UInt8) : List Char :=
  let c := Char.ofNat byte.toNat
  if c == quote || c == '\\' then ['\\', c]
  else if c == '\t' then ['\\', 't']
  else if c == '\n' then ['\\', 'n']
  else if c == '\r' then ['\\', 'r']
  else if 0x20 ≤ byte && byte < 0x7f then [c]
  else '\\' :: 'x' :: hexDigits 2 byte.toNat

def displayBytes (bytes : List UInt8) : String :=
  let has (c : Char) : Bool := bytes.any (·.toNat == c.toNat)
  let quote := if has '\'' && !has '"' then '"' else '\''
  String.ofList ('b' :: quote :: bytes.flatMap (displayByte quote) ++ [quote])

def Scalar.display? : Scalar → Option CodeText
  | null => some (.ofString "None")
  | bool value => some (.ofString (if value then "True" else "False"))
  | int value =>
    if Integer.isWritable value then some (.ofString (Integer.numeral value)) else none
  | real value => some (.ofString (value.display))
  | undefined _ => some (.ofString "nan")
  | date value => some (.ofString value.display)
  | moment value => some (.ofString value.display)
  | bytes value => some (.ofString (displayBytes value))
  | text value => some value

end TypeCatalog.Yaml
