import TypeCatalog.Yaml.Time

/-!
# Why a text has no value
-/

namespace TypeCatalog.Yaml

open Text (CodeText)

inductive Flaw where
  | unprintable
  | strayCharacter (c : Char)
  | missingColon
  | misplacedEntry
  | misplacedKey
  | misplacedValue
  | badName
  | badTag
  | badEscape
  | badDirective
  | badBlockScalar
  | unclosedQuote
  | strayMark
  | strayToken
  | refusedDirective
  | undefinedHandle
  | undefinedAlias
  | duplicateAnchor
  | recursiveAlias
  | undefinedTag
  | wrongKind
  | badMerge
  | badBase64
  | collectionKey
  deriving DecidableEq, Repr

inductive ScalarFault where
  | notInteger (base : Nat) (text : CodeText)
  | tooManyDigits (digits : Nat)
  | notReal (text : CodeText)
  | emptyNumeral
  | tooLarge
  | notTruthValue (text : CodeText)
  | notTime
  | timeOfCollection
  | noSuchTime (fault : TimeFault)
  | noSuchCodePoint (code : Nat)
  deriving DecidableEq, Repr

/-- The greatest code that fits into the type of code points. -/
def greatestCode : Nat := 0x7fffffff

def ScalarFault.message : ScalarFault → String
  | notInteger base text => Text.Integer.malformedMessage base text
  | tooManyDigits digits => Text.Integer.tooLongMessage digits
  | notReal text => "could not convert string to float: " ++ Text.quoted text
  | emptyNumeral => "string index out of range"
  | tooLarge => "int too large to convert to float"
  | notTruthValue text => Text.quoted text
  | notTime => "'NoneType' object has no attribute 'groupdict'"
  | timeOfCollection => "expected string or bytes-like object, got 'list'"
  | noSuchTime fault => fault.message
  | noSuchCodePoint code =>
    if greatestCode < code then "Python int too large to convert to C int"
    else "chr() arg not in range(0x110000)"

/-- Whether the text is refused as a value.  In the other cases it has not even been looked
at as one. -/
def ScalarFault.isRefusal : ScalarFault → Bool
  | notInteger _ _ | tooManyDigits _ | notReal _ | noSuchTime _ => true
  | noSuchCodePoint code => code ≤ greatestCode
  | emptyNumeral | tooLarge | notTruthValue _ | notTime | timeOfCollection => false

inductive Fault where
  | malformed (flaw : Flaw)
  | noValue (fault : ScalarFault)
  | unreadable
  deriving DecidableEq, Repr

def flaw {α : Type} (flaw : Flaw) : Except Fault α :=
  .error (.malformed flaw)

def noValue {α : Type} (fault : ScalarFault) : Except Fault α :=
  .error (.noValue fault)

end TypeCatalog.Yaml
