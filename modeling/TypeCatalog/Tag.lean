import TypeCatalog.Declaration
import TypeCatalog.Diagnostic
import TypeCatalog.Number.Numeral
import TypeCatalog.Text.Integer
import TypeCatalog.Text.Quoted

/-!
# Tags: the ordered literal values attached to a declaration

Every attachment of a tag attribute is one instance, a list of texts and
integers.  Instances are never merged and keep the order of attachment.  An
attachment without arguments is an empty instance: it makes a declaration
eligible and is never written.
-/

namespace TypeCatalog

open Text (CodeText)

inductive TagValue where
  | text (value : CodeText)
  | integer (value : Int)
  deriving DecidableEq, Repr, Inhabited

abbrev TagInstance := List TagValue

abbrev TagList := List TagInstance

inductive LiteralFault where
  | notDecimal (text : CodeText)
  | tooManyDigits (digits : Nat)
  | unwritable
  | noValue
  | infinite
  deriving DecidableEq, Repr

namespace LiteralFault

def message : LiteralFault → String
  | notDecimal text => Text.Integer.malformedMessage 10 text
  | tooManyDigits digits => Text.Integer.tooLongMessage digits
  | unwritable => Text.Integer.unwritableMessage
  | noValue =>
    "int() argument must be a string, a bytes-like object or a real number, not 'NoneType'"
  | infinite => "cannot convert float infinity to integer"

/-- Whether a fault is the refusal of a text or number, and not of a missing or boundless
value. -/
def isRefusal : LiteralFault → Bool
  | noValue | infinite => false
  | _ => true

end LiteralFault

namespace LiteralValue

def asText : LiteralValue → Except LiteralFault CodeText
  | text value => .ok value
  | integer value =>
    if Text.Integer.isWritable value then .ok (.ofString (Text.Integer.numeral value))
    else .error .unwritable
  | real value => .ok (.ofString value.display)
  | boolean value => .ok (.ofString (if value then "True" else "False"))
  | absent => .ok (.ofString "None")

def asInteger : LiteralValue → Except LiteralFault Int
  | text value =>
    match Text.Integer.readDecimal value.toChars with
    | .ok n => .ok n
    | .error .malformed => .error (.notDecimal value)
    | .error (.tooLong digits) => .error (.tooManyDigits digits)
  | integer value => .ok value
  | real value =>
    match value.truncated? with
    | some n => .ok n
    | none => .error .infinite
  | boolean value => .ok (if value then 1 else 0)
  | absent => .error .noValue

def quoted : LiteralValue → String
  | text value => Text.quoted value
  | integer value => Text.Integer.numeral value
  | real value => value.display
  | boolean value => if value then "True" else "False"
  | absent => "None"

end LiteralValue

namespace Tag

def defaultNames : List CodeText := ["compex::tag", "compex_tag"]

structure Reading (α : Type) where
  result : Except LiteralFault α
  reports : List Diagnostic := []

def unknownKind (literal : Literal) : Diagnostic :=
  { level := .warning, channel := Channel.tags,
    message := "Unknown literal kind for tag argument: " ++ literal.kind ++ " (" ++
      literal.value.quoted ++ "), ignoring" }

def argument (literal : Literal) : Reading (Option TagValue) :=
  if literal.kind == "string" then { result := (literal.value.asText).map (some ∘ .text) }
  else if literal.kind == "integer" then
    { result := (literal.value.asInteger).map (some ∘ .integer) }
  else { result := .ok none, reports := [unknownKind literal] }

def tagInstance : List Literal → Reading TagInstance
  | [] => { result := .ok [] }
  | literal :: rest =>
    let first := argument literal
    match first.result with
    | .error fault => { result := .error fault, reports := first.reports }
    | .ok value =>
      let others := tagInstance rest
      { result := others.result.map (value.toList ++ ·),
        reports := first.reports ++ others.reports }

/-- The instances of a list of attributes, in order; attributes of other names are skipped. -/
def ofAttributes (names : List CodeText) : List Attribute → Reading TagList
  | [] => { result := .ok [] }
  | candidate :: rest =>
    if names.contains candidate.name then
      let first := tagInstance candidate.arguments
      match first.result with
      | .error fault => { result := .error fault, reports := first.reports }
      | .ok values =>
        let others := ofAttributes names rest
        { result := others.result.map (values :: ·), reports := first.reports ++ others.reports }
    else ofAttributes names rest

def ofDeclaration (names : List CodeText) (declaration : Declaration) : Reading TagList :=
  ofAttributes names declaration.attributes

/-- The instances that are written: those that are not empty. -/
def visible (tags : TagList) : TagList :=
  tags.filter (!·.isEmpty)

def isEligible (tags : TagList) (dumpAll : Bool) : Bool :=
  dumpAll || !tags.isEmpty

end Tag

end TypeCatalog
