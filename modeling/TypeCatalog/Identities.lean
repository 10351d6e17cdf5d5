import TypeCatalog.Name
import TypeCatalog.Text.CodePoint

/-!
# Names that are handed out: identities of types, and keys of blocks

A named type is known by a canonical name that serves as its anchor; a type
without a name gets a fresh `unknown_<n>`.  Which canonical names were defined
is remembered, so that later references can be aliases.  One counter numbers
unknown types and anonymous members alike and never repeats.

Within one block, a key that is taken is claimed under the first free suffix:
`foo` becomes `foo$1`, and a key that ends in `$` such as `base_0$` becomes
`base_0$1`.
-/

namespace TypeCatalog

open Text (CodeText)

structure Identities where
  /-- Canonical names that received a full block, the latest first. -/
  defined : List CodeText := []
  ordinal : Nat := 0
  deriving DecidableEq, Repr, Inhabited

namespace Identities

def nextNumber (identities : Identities) : Nat × Identities :=
  (identities.ordinal + 1, { identities with ordinal := identities.ordinal + 1 })

def namedType (name : CodeText) : CodeText :=
  "s_" ++ Name.anchor name

def unknownType (identities : Identities) : CodeText × Identities :=
  let (n, identities) := identities.nextNumber
  ("unknown_" ++ Nat.repr n, identities)

/-- The canonical name of a type by its declared name; an empty name is no name. -/
def nameOf (identities : Identities) : Option CodeText → CodeText × Identities
  | none => identities.unknownType
  | some name => if name.isEmpty then identities.unknownType else (namedType name, identities)

def anonymousMember (identities : Identities) : CodeText × Identities :=
  let (n, identities) := identities.nextNumber
  ("anon_" ++ Nat.repr n, identities)

def knows (identities : Identities) (canonical : CodeText) : Bool :=
  identities.defined.contains canonical

/-- Records a canonical name; the Boolean says whether it is new. -/
def introduce (identities : Identities) (canonical : CodeText) : Bool × Identities :=
  if identities.knows canonical then (false, identities)
  else (true, { identities with defined := canonical :: identities.defined })

def reference? (identities : Identities) (canonical : CodeText) : Option CodeText :=
  if identities.knows canonical then some canonical else none

def size (identities : Identities) : Nat :=
  identities.defined.length

end Identities

/-! ## Unique keys -/

/-- The keys claimed so far in one block, the latest first. -/
structure UniqueKeys where
  claimed : List CodeText := []
  deriving DecidableEq, Repr, Inhabited

namespace UniqueKeys

def contains (scope : UniqueKeys) (key : CodeText) : Bool :=
  scope.claimed.contains key

/-- The variants of a key: itself, then the key with the ordinals 1, 2, ... -/
def variant (key : CodeText) (ordinal : Nat) : CodeText :=
  let mark : CodeText := if key.getLast? == some (.scalar '$') then "" else "$"
  if ordinal = 0 then key else key ++ mark ++ Nat.repr ordinal

/-- The first ordinal from `ordinal` on whose variant is free, trying `attempts` of them. -/
def firstFree (scope : UniqueKeys) (key : CodeText) : Nat → Nat → Nat
  | 0, ordinal => ordinal
  | attempts + 1, ordinal =>
    if scope.contains (variant key ordinal) then firstFree scope key attempts (ordinal + 1)
    else ordinal

/-- Claims a key: the key as it goes into the block, and the scope after it.  Among one
more variants than there are claimed keys, one is free. -/
def claim (scope : UniqueKeys) (key : CodeText) : CodeText × UniqueKeys :=
  let claimedKey := variant key (scope.firstFree key (scope.claimed.length + 1) 0)
  (claimedKey, ⟨claimedKey :: scope.claimed⟩)

end UniqueKeys

end TypeCatalog
