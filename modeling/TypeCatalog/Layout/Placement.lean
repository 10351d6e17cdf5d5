import TypeCatalog.Layout.DataModel

/-!
# The layout of a record

A builder places the bases and members of one record in order and keeps the
end of what was placed, in bits.  Members of a union all start at bit 0.
Once something is placed whose layout is not known, later offsets and the
size of the record are not known either.
-/

namespace TypeCatalog

structure LayoutBuilder where
  model : DataModel
  isUnion : Bool := false
  /-- The end of what was placed, in bits. -/
  offset : Option Int := some 0
  /-- The size of the largest member of a union, in bits. -/
  unionSize : Option Int := some 0
  align : Option Int := some 1
  hasData : Bool := false
  deriving Repr, Inhabited

/-- A bit-field whose unit has no bits. -/
inductive LayoutFault where
  | emptyUnit
  deriving DecidableEq, Repr

def LayoutFault.message : LayoutFault → String
  | emptyUnit => "integer division or modulo by zero"

namespace LayoutBuilder

open Layout (roundUp bitsPerByte)

def isResolved (builder : LayoutBuilder) : Bool :=
  builder.offset.isSome && builder.align.isSome

def maxKnown : Option Int → Option Int → Option Int
  | some a, some b => some (max a b)
  | _, _ => none

def raiseAlign (builder : LayoutBuilder) (align : Option Int) : LayoutBuilder :=
  { builder with align := maxKnown builder.align align }

def toBits (bytes : Option Int) : Option Int :=
  bytes.map (· * bitsPerByte)

/-- Places a member and gives its offset in bits. -/
def placeField (builder : LayoutBuilder) (layout : Layout) : Option Int × LayoutBuilder :=
  let raised := builder.raiseAlign layout.align
  let known :=
    { raised with hasData := raised.hasData || (layout.size.isSome && layout.size != some 0) }
  if known.isUnion then
    (some 0, { known with unionSize := maxKnown known.unionSize (toBits layout.size) })
  else
    match known.offset, layout.align with
    | some offset, some align =>
      let start := roundUp offset (align * bitsPerByte)
      (some start, { known with offset := (toBits layout.size).map (start + ·) })
    | _, _ => (none, { known with offset := none })

def placeVptr (builder : LayoutBuilder) : Option Int × LayoutBuilder :=
  { builder with hasData := true }.placeField builder.model.pointer

/-- Places a base.  An empty base of known layout takes no space outside a union. -/
def placeBase (builder : LayoutBuilder) (layout : Layout) (empty : Bool) :
    Option Int × LayoutBuilder :=
  match layout with
  | ⟨some _, some align⟩ =>
    if empty && !builder.isUnion then
      (builder.offset.map (roundUp · (align * bitsPerByte)), builder.raiseAlign (some align))
    else builder.placeField layout
  | _ => builder.placeField layout

/-- The start of a bit-field of a width, given the end of what was placed and the unit: the
end itself, unless the bits would lie in two units. -/
def bitfieldStart (offset width unit : Int) : Int :=
  if offset.fdiv unit ≠ (offset + width - 1).fdiv unit then roundUp offset unit else offset

/-- Places a bit-field.  A width of zero closes the unit; an unnamed bit-field does not
raise the alignment of the record. -/
def placeBitfield (builder : LayoutBuilder) (layout : Layout) (width : Int) (named : Bool) :
    Except LayoutFault (Option Int) × LayoutBuilder :=
  let raised := if named then builder.raiseAlign layout.align else builder
  match layout with
  | ⟨some size, some align⟩ =>
    let known := { raised with hasData := raised.hasData || width != 0 }
    if known.isUnion then
      (.ok (some 0),
        { known with unionSize := known.unionSize.map (max · (size * bitsPerByte)) })
    else
      match known.offset with
      | none => (.ok none, known)
      | some offset =>
        let unit := align * bitsPerByte
        if width == 0 then
          let start := roundUp offset unit
          (.ok (some start), { known with offset := some start })
        else if unit == 0 then (.error .emptyUnit, known)
        else
          let start := bitfieldStart offset width unit
          (.ok (some start), { known with offset := some (start + width) })
  | _ =>
    (.ok none,
      { raised with
        offset := none, unionSize := if raised.isUnion then none else raised.unionSize })

def giveUp (builder : LayoutBuilder) : LayoutBuilder :=
  { builder with offset := none, unionSize := none }

/-- The layout of the record: the size is rounded up to the alignment and at least 1. -/
def finish (builder : LayoutBuilder) : Layout :=
  match builder.align, (if builder.isUnion then builder.unionSize else builder.offset) with
  | none, _ => .unresolved
  | some align, none => ⟨none, some align⟩
  | some align, some bits =>
    ⟨some (max (roundUp ((bits + bitsPerByte - 1) / bitsPerByte) align) 1), some align⟩

end LayoutBuilder

/-! ## Placements -/

inductive Placement where
  | vptr
  | base (layout : Layout) (empty : Bool)
  | field (layout : Layout)
  | bitfield (layout : Layout) (width : Int) (named : Bool)
  | unresolved
  deriving DecidableEq, Repr

def LayoutBuilder.place (builder : LayoutBuilder) :
    Placement → Except LayoutFault (Option Int) × LayoutBuilder
  | .vptr =>
    let (offset, after) := builder.placeVptr
    (.ok offset, after)
  | .base layout empty =>
    let (offset, after) := builder.placeBase layout empty
    (.ok offset, after)
  | .field layout =>
    let (offset, after) := builder.placeField layout
    (.ok offset, after)
  | .bitfield layout width named => builder.placeBitfield layout width named
  | .unresolved => (.ok none, builder.giveUp)

/-! ## The order of bases -/

def firstToFront {α : Type} (p : α → Bool) (items : List α) : List α :=
  match items.findIdx? p with
  | none => items
  | some index =>
    match items[index]? with
    | none => items
    | some item => item :: items.eraseIdx index

/-- The order in which bases are placed: the first dynamic base that is not virtual, the
others that are not virtual, and the virtual ones. -/
def placementOrder {α : Type} (isDynamic isVirtual : α → Bool) (bases : List α) : List α :=
  firstToFront isDynamic (bases.filter (!isVirtual ·)) ++ bases.filter isVirtual

end TypeCatalog
