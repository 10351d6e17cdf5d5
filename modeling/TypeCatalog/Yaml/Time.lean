import TypeCatalog.Text.Integer

/-!
# Dates and times of day

A date may be followed by a time of day, and that by the distance of its zone
from universal time.  Two times with a zone are equal if they are the same
instant; a time with a zone never equals one without.
-/

namespace TypeCatalog.Yaml

open Text

structure Date where
  year : Nat
  month : Nat
  day : Nat
  deriving DecidableEq, Repr, Inhabited

structure Moment where
  date : Date
  hour : Nat
  minute : Nat
  second : Nat
  /-- Millionths of a second. -/
  fraction : Nat
  /-- The distance from universal time in minutes, if it is known. -/
  zone : Option Int
  deriving DecidableEq, Repr, Inhabited

inductive WrittenTime where
  | date (date : Date)
  | moment (moment : Moment)
  deriving DecidableEq, Repr

/-! ## Existence -/

inductive TimeFault where
  | year
  | month
  | day
  | hour
  | minute
  | second
  | zone (minutes : Int)
  deriving DecidableEq, Repr

def daysAndSeconds (minutes : Int) : Int × Int :=
  (Int.fdiv minutes 1440, Int.fmod minutes 1440 * 60)

def TimeFault.message : TimeFault → String
  | year => "year 0 is out of range"
  | month => "month must be in 1..12"
  | day => "day is out of range for month"
  | hour => "hour must be in 0..23"
  | minute => "minute must be in 0..59"
  | second => "second must be in 0..59"
  | zone minutes =>
    let (days, seconds) := daysAndSeconds minutes
    let part (name : String) (n : Int) : List String :=
      if n = 0 then [] else [name ++ Integer.numeral n]
    "offset must be a timedelta strictly between -timedelta(hours=24) and " ++
      "timedelta(hours=24), not datetime.timedelta(" ++
      String.intercalate ", " (part "days=" days ++ part "seconds=" seconds) ++ ")."

def isLeapYear (year : Nat) : Bool :=
  year % 4 == 0 && (year % 100 != 0 || year % 400 == 0)

def daysOfMonth (year month : Nat) : Nat :=
  if month == 2 then if isLeapYear year then 29 else 28
  else if [4, 6, 9, 11].contains month then 30
  else 31

def Date.check (date : Date) : Except TimeFault Unit :=
  if date.year == 0 then .error .year
  else if date.month < 1 || 12 < date.month then .error .month
  else if date.day < 1 || daysOfMonth date.year date.month < date.day then .error .day
  else .ok ()

/-- The zone is looked at first, then the date, then the time of day. -/
def Moment.check (moment : Moment) : Except TimeFault Unit := do
  match moment.zone with
  | some minutes => if 1440 ≤ minutes.natAbs then throw (.zone minutes)
  | none => pure ()
  moment.date.check
  if 23 < moment.hour then throw .hour
  else if 59 < moment.minute then throw .minute
  else if 59 < moment.second then throw .second

def WrittenTime.check : WrittenTime → Except TimeFault Unit
  | date day => day.check
  | moment time => time.check

/-! ## Instants -/

def Date.ordinal (date : Date) : Nat :=
  let past := date.year - 1
  let months := (List.range (date.month - 1)).map fun n => daysOfMonth date.year (n + 1)
  past * 365 + past / 4 - past / 100 + past / 400 + months.foldl (· + ·) 0 + date.day

def Moment.instant (moment : Moment) : Int :=
  let minutes : Int := ((moment.date.ordinal * 24 + moment.hour) * 60 + moment.minute : Nat)
  ((minutes - moment.zone.getD 0) * 60 + moment.second) * 1000000 + moment.fraction

def Moment.isSame (a b : Moment) : Bool :=
  a.zone.isSome == b.zone.isSome && a.instant == b.instant

/-! ## Reading -/

/-- Digits at the start of a text, between a least and a greatest number of them, as a
number, and what follows. -/
def digits? (least greatest : Nat) (text : List Char) : Option (Nat × List Char) :=
  let digits := (text.take greatest).takeWhile Char.isDigit
  if digits.length < least then none
  else
    some (Integer.ofDigits 10 (digits.map fun c => c.toNat - '0'.toNat), text.drop digits.length)

def markedDigits? (mark : Char) (least : Nat) : List Char → Option (Nat × List Char)
  | [] => none
  | c :: rest => if c == mark then digits? least 2 rest else none

def readDate? (text : List Char) : Option (Date × List Char) := do
  let (year, rest) ← digits? 4 4 text
  let (month, rest) ← markedDigits? '-' 1 rest
  let (day, rest) ← markedDigits? '-' 1 rest
  return (⟨year, month, day⟩, rest)

def afterSeparator? : List Char → Option (List Char)
  | [] => none
  | c :: rest =>
    if c == 'T' || c == 't' then some rest
    else if c == ' ' || c == '\t' then some (rest.dropWhile fun c => c == ' ' || c == '\t')
    else none

/-- The fraction of a second in millionths; digits beyond the sixth do not count. -/
def readFraction : List Char → Nat × List Char
  | '.' :: rest =>
    let digits := rest.takeWhile Char.isDigit
    let padded := (digits ++ List.replicate 6 '0').take 6
    (Integer.ofDigits 10 (padded.map fun c => c.toNat - '0'.toNat), rest.drop digits.length)
  | text => (0, text)

/-- The zone, which has to be the rest of the text, after blanks: nothing, `Z`, or a sign with
hours and perhaps minutes. -/
def readZone? (text : List Char) : Option (Option Int) :=
  match text.dropWhile fun c => c == ' ' || c == '\t' with
  | [] => if text.isEmpty then some none else none
  | ['Z'] => some (some 0)
  | sign :: rest => do
    let negative ← if sign == '-' then some true else if sign == '+' then some false else none
    let (hours, rest) ← digits? 1 2 rest
    let minutes ← if rest.isEmpty then some 0 else do
      let (minutes, rest) ← markedDigits? ':' 2 rest
      if rest.isEmpty then some minutes else none
    return some (Integer.withSign negative (hours * 60 + minutes))

def withoutFinalBreak (text : List Char) : List Char :=
  if text.getLast? == some '\n' then text.dropLast else text

def WrittenTime.ofChars? (text : List Char) : Option WrittenTime := do
  let (day, rest) ← readDate? text
  if rest.isEmpty then return .date day
  let (hour, rest) ← digits? 1 2 (← afterSeparator? rest)
  let (minute, rest) ← markedDigits? ':' 2 rest
  let (second, rest) ← markedDigits? ':' 2 rest
  let (fraction, rest) := readFraction rest
  return .moment { date := day, hour, minute, second, fraction, zone := ← readZone? rest }

/-- Reads a time; a line feed at the end does not count. -/
def WrittenTime.read? (text : List Char) : Option WrittenTime :=
  ofChars? (withoutFinalBreak text)

/-! ## Display -/

def padded (width n : Nat) : String :=
  let digits := Nat.toDigits 10 n
  String.ofList (List.replicate (width - digits.length) '0' ++ digits)

def Date.display (date : Date) : String :=
  padded 4 date.year ++ "-" ++ padded 2 date.month ++ "-" ++ padded 2 date.day

def displayZone : Option Int → String
  | none => ""
  | some minutes =>
    (if minutes < 0 then "-" else "+") ++ padded 2 (minutes.natAbs / 60) ++ ":" ++
      padded 2 (minutes.natAbs % 60)

def Moment.display (moment : Moment) : String :=
  moment.date.display ++ " " ++ padded 2 moment.hour ++ ":" ++ padded 2 moment.minute ++ ":" ++
    padded 2 moment.second ++
    (if moment.fraction = 0 then "" else "." ++ padded 6 moment.fraction) ++
    displayZone moment.zone

end TypeCatalog.Yaml
