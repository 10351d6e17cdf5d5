import TypeCatalog.Text.Blank
import TypeCatalog.Text.Digit
import TypeCatalog.Yaml.Time

/-!
# The types that plain scalars have

A plain scalar is null, a truth value, a number or a time if it has the form
of one, and a text otherwise.  A line feed at its end does not count.
-/

namespace TypeCatalog.Yaml

open Text

/-! ## Tags of the standard types -/

def standardTag : String := "tag:yaml.org,2002:"

inductive StandardType where
  | null
  | bool
  | int
  | float
  | timestamp
  | binary
  | str
  | seq
  | map
  | set
  | omap
  | pairs
  /-- The type of the key whose value is merged into its mapping. -/
  | merge
  /-- The type of the key whose value stands for its mapping. -/
  | value
  | yaml
  deriving DecidableEq, Repr

namespace StandardType

def name : StandardType → String
  | null => "null"
  | bool => "bool"
  | int => "int"
  | float => "float"
  | timestamp => "timestamp"
  | binary => "binary"
  | str => "str"
  | seq => "seq"
  | map => "map"
  | set => "set"
  | omap => "omap"
  | pairs => "pairs"
  | merge => "merge"
  | value => "value"
  | yaml => "yaml"

def tag (type : StandardType) : String :=
  standardTag ++ type.name

def all : List StandardType :=
  [null, bool, int, float, timestamp, binary, str, seq, map, set, omap, pairs, merge, value, yaml]

def ofTag? (tag : String) : Option StandardType :=
  all.find? (·.tag == tag)

end StandardType

/-! ## Words -/

def nullWords : List String := ["", "~", "null", "Null", "NULL"]

def truthWords : List String :=
  ["yes", "Yes", "YES", "no", "No", "NO", "true", "True", "TRUE", "false", "False", "FALSE",
    "on", "On", "ON", "off", "Off", "OFF"]

def infinityWords : List String := [".inf", ".Inf", ".INF"]

def undefinedWords : List String := [".nan", ".NaN", ".NAN"]

/-! ## Forms of numbers -/

def isDigitOrLine (c : Char) : Bool :=
  c.isDigit || c == '_'

/-- A part of a number to the base sixty after the first: one digit, or two below sixty. -/
def isSixtiethPart : List Char → Bool
  | [c] => c.isDigit
  | [a, b] => '0' ≤ a && a ≤ '5' && b.isDigit
  | _ => false

def isDigitRun (p : Char → Bool) : List Char → Bool
  | [] => false
  | c :: rest => p c && rest.all isDigitOrLine

def isIntegerForm (text : List Char) : Bool :=
  match text with
  | '0' :: 'b' :: rest => !rest.isEmpty && rest.all fun c => c == '0' || c == '1' || c == '_'
  | '0' :: 'x' :: rest => !rest.isEmpty && rest.all fun c => (hexValue? c).isSome || c == '_'
  | ['0'] => true
  | '0' :: rest => rest.all fun c => ('0' ≤ c && c ≤ '7') || c == '_'
  | _ =>
    match splitOn ':' text with
    | first :: others =>
      isDigitRun (fun c => '1' ≤ c && c ≤ '9') first && others.all isSixtiethPart
    | [] => false

def splitBefore (p : Char → Bool) (text : List Char) : List Char × List Char :=
  (text.takeWhile (!p ·), text.dropWhile (!p ·))

def isExponent : List Char → Bool
  | [] => true
  | _ :: sign :: digits =>
    (sign == '+' || sign == '-') && !digits.isEmpty && digits.all Char.isDigit
  | _ => false

def isExponentMark (c : Char) : Bool :=
  c == 'e' || c == 'E'

/-- Whether a text has the form of a decimal fraction.  One that starts with the point has
no sign. -/
def isDecimalForm (text : List Char) : Bool :=
  let (_, body) := Integer.splitSign text
  let (whole, fraction) := splitBefore (· == '.') body
  let (places, exponent) := splitBefore isExponentMark fraction.tail
  !fraction.isEmpty && places.all isDigitOrLine &&
    match whole with
    | [] => text.head? == some '.' && places.head?.any Char.isDigit && isExponent exponent
    | _ =>
      match splitOn ':' whole with
      | [single] => isDigitRun Char.isDigit single && isExponent exponent
      | first :: others =>
        isDigitRun Char.isDigit first && others.all isSixtiethPart && exponent.isEmpty
      | [] => false

def isRealForm (text : List Char) : Bool :=
  isDecimalForm text || infinityWords.contains (String.ofList (Integer.splitSign text).2) ||
    undefinedWords.contains (String.ofList text)

/-- Whether a text has the form of a time.  A date alone has all its digits. -/
def isTimeForm (text : List Char) : Bool :=
  match WrittenTime.ofChars? text with
  | some (.date _) => text.length == 10
  | some (.moment _) => true
  | none => false

/-! ## Plain scalars -/

def plainType (text : List Char) : StandardType :=
  let body := withoutFinalBreak text
  let word := String.ofList body
  if truthWords.contains word then .bool
  else if isRealForm body then .float
  else if isIntegerForm (Integer.splitSign body).2 then .int
  else if word == "<<" then .merge
  else if text.isEmpty || (!body.isEmpty && nullWords.contains word) then .null
  else if isTimeForm body then .timestamp
  else if word == "=" then .value
  else if ["!", "&", "*"].contains word then .yaml
  else .str

end TypeCatalog.Yaml
