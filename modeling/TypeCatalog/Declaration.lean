import TypeCatalog.Number.Real
import TypeCatalog.Text.CodePoint

/-!
# Declarations: what a front end hands over and a document describes

Sizes and alignments are in bytes, offsets and widths in bits; `none` means
that a number is not statically known.  A list of members may end in a fault:
its items are available one after the other until the front end gives up.
-/

namespace TypeCatalog

open Text (CodeText)

/-! ## Attributes -/

inductive LiteralValue where
  | text (value : CodeText)
  | integer (value : Int)
  | real (value : Real)
  | boolean (value : Bool)
  | absent
  deriving DecidableEq, Repr, Inhabited

/-- An attribute argument.  The kinds `string` and `integer` carry a decoded value, any
other kind the source text. -/
structure Literal where
  kind : CodeText
  value : LiteralValue
  deriving DecidableEq, Repr, Inhabited

structure Attribute where
  name : CodeText
  arguments : List Literal := []
  deriving DecidableEq, Repr, Inhabited

/-! ## Types and members -/

structure TypeUse where
  name : Option CodeText
  size : Option Int := none
  align : Option Int := none
  attributes : List Attribute := []
  deriving DecidableEq, Repr, Inhabited

/-- Items that a front end produces one by one, and the fault it ends with, if any. -/
structure Members (α : Type) where
  items : List α := []
  fault : Option CodeText := none
  deriving DecidableEq, Repr, Inhabited

inductive Access where
  | pub
  | prot
  | priv
  deriving DecidableEq, Repr, Inhabited

def Access.name : Access → String
  | pub => "public"
  | prot => "protected"
  | priv => "private"

def Access.ofName? (text : CodeText) : Option Access :=
  [pub, prot, priv].find? fun access => access.name == text

inductive FunctionRole where
  | function
  | method
  | constructor
  | destructor
  deriving DecidableEq, Repr, Inhabited

inductive ConstructorKind where
  | default
  | copy
  | move
  deriving DecidableEq, Repr, Inhabited

structure FunctionTraits where
  const : Bool := false
  static : Bool := false
  virtual : Bool := false
  variadic : Bool := false
  deleted : Bool := false
  implicit : Bool := false
  explicit : Bool := false
  noreturn : Bool := false
  nothrow : Bool := false
  constexpr : Bool := false
  externC : Bool := false
  artificial : Bool := false
  operator : Bool := false
  conversion : Bool := false
  thunk : Bool := false
  deriving DecidableEq, Repr, Inhabited

structure Parameter where
  name : Option CodeText
  type : TypeUse
  attributes : List Attribute := []
  deriving DecidableEq, Repr, Inhabited

/-- A data member.  Its tags are among the attributes of its type. -/
structure Field where
  name : Option CodeText
  type : TypeUse
  bitOffset : Option Int := none
  bitWidth : Option Int := none
  /-- Set for members that the compiler adds, such as a vtable pointer. -/
  artificial : Bool := false
  deriving DecidableEq, Repr, Inhabited

structure Base where
  type : TypeUse
  access : Option Access := none
  virtual : Bool := false
  deriving DecidableEq, Repr, Inhabited

/-- The file and the line, counted from 1, of a declaration. -/
structure Location where
  file : CodeText
  line : Int
  deriving DecidableEq, Repr, Inhabited

/-! ## Functions and records -/

structure Function where
  name : Option CodeText
  location : Location
  role : FunctionRole := .function
  flags : FunctionTraits := {}
  constructorKind : Option ConstructorKind := none
  parameters : Members Parameter := {}
  attributes : List Attribute := []
  mangledName : Option CodeText := none
  deriving DecidableEq, Repr, Inhabited

/-- A struct, class or union.  A forward declaration is not complete and has no members. -/
structure Record where
  name : Option CodeText
  location : Location
  kind : CodeText := "struct"
  complete : Bool := true
  size : Option Int := none
  align : Option Int := none
  fields : Members Field := {}
  methods : Members Function := {}
  bases : Members Base := {}
  attributes : List Attribute := []
  deriving DecidableEq, Repr, Inhabited

inductive Declaration where
  | record (declaration : Record)
  | function (declaration : Function)
  | field (declaration : Field)
  | parameter (declaration : Parameter)
  | base (declaration : Base)
  deriving DecidableEq, Repr, Inhabited

namespace Declaration

/-- The attributes that tags are looked for in: those of the type for fields and bases. -/
def attributes : Declaration → List Attribute
  | record d => d.attributes
  | function d => d.attributes
  | field d => d.type.attributes
  | parameter d => d.attributes
  | base d => d.type.attributes

def name? : Declaration → Option CodeText
  | record d => d.name
  | function d => d.name
  | field d => d.name
  | parameter d => d.name
  | base _ => none

def location? : Declaration → Option Location
  | record d => some d.location
  | function d => some d.location
  | _ => none

def shown (declaration : Declaration) : CodeText :=
  let name := (Text.proper? declaration.name?).getD "<anonymous>"
  match declaration.location? with
  | none => name
  | some place => name ++ " (" ++ place.file ++ ":" ++ toString place.line ++ ")"

end Declaration

end TypeCatalog
