import TypeCatalog.Proofs.RecordLayout

/-!
# What is known about a record

A layout that is not known in full spoils everything after it: the offsets of
later members and the size of the record.  In a union, where all members
start at bit 0, it spoils the size alone.
-/

namespace TypeCatalog

namespace Placement

/-- Whether size and alignment of what is placed are known; of what cannot be placed they
never are. -/
def isKnown (model : DataModel) (placement : Placement) : Bool :=
  (placement.layout model).isResolved

def IsAligned (model : DataModel) (placement : Placement) : Prop :=
  ∀ align, (placement.layout model).align = some align → 1 ≤ align

end Placement

namespace LayoutBuilder

variable {builder after : LayoutBuilder} {model : DataModel} {layout : Layout} {known : Bool}
  {offset : Option Int}

def isSized (builder : LayoutBuilder) : Bool :=
  builder.align.isSome &&
    if builder.isUnion then builder.unionSize.isSome else builder.offset.isSome

theorem isSome_size_finish : builder.finish.size.isSome = builder.isSized := by
  unfold finish isSized
  cases builder.align with
  | none => rfl
  | some align => cases builder.isUnion <;> cases builder.unionSize <;> cases builder.offset <;> rfl

@[simp] theorem isSome_maxKnown (first second : Option Int) :
    (maxKnown first second).isSome = (first.isSome && second.isSome) := by
  cases first <;> cases second <;> rfl

@[simp] theorem isSome_toBits (bytes : Option Int) : (toBits bytes).isSome = bytes.isSome :=
  Option.isSome_map

def IsCoherent (builder : LayoutBuilder) : Prop :=
  builder.isUnion = false → builder.align = none → builder.offset = none

theorem IsCoherent.isSized_eq (coherent : builder.IsCoherent) (struct : builder.isUnion = false) :
    builder.isSized = builder.offset.isSome := by
  have lost := coherent struct
  cases align : builder.align <;> simp_all [isSized]

/-! ## One placement -/

structure Learns (builder : LayoutBuilder) (known : Bool) (offset : Option Int)
    (after : LayoutBuilder) : Prop where
  model_eq : after.model = builder.model
  isUnion_eq : after.isUnion = builder.isUnion
  coherent : after.IsCoherent
  isSized_eq : after.isSized = (builder.isSized && known)
  lost : builder.isUnion = false → builder.isSized = false → offset = none
  found : builder.isUnion = false → builder.isSized = true → known = true → offset.isSome

theorem Learns.of_struct (coherent : builder.IsCoherent) (struct : builder.isUnion = false)
    (model_eq : after.model = builder.model) (isUnion_eq : after.isUnion = builder.isUnion)
    (next : after.IsCoherent)
    (offsets : after.offset.isSome = (builder.offset.isSome && known))
    (lost : builder.offset = none → offset = none)
    (found : builder.offset.isSome → known = true → offset.isSome) :
    builder.Learns known offset after := by
  have before := coherent.isSized_eq struct
  have later := next.isSized_eq (isUnion_eq.trans struct)
  refine ⟨model_eq, isUnion_eq, next, ?_, ?_, ?_⟩
  · rw [later, before, offsets]
  · intro _ unsized
    exact lost (by simpa [before] using unsized)
  · intro _ sized
    exact found (before ▸ sized)

theorem Learns.of_union (union : builder.isUnion = true)
    (model_eq : after.model = builder.model) (isUnion_eq : after.isUnion = builder.isUnion)
    (sizes : (after.align.isSome && after.unionSize.isSome) =
      (builder.align.isSome && builder.unionSize.isSome && known)) :
    builder.Learns known offset after := by
  constructor <;> simp_all [IsCoherent, isSized]

theorem placeField_learns (coherent : builder.IsCoherent) :
    builder.Learns layout.isResolved (builder.placeField layout).1
      (builder.placeField layout).2 := by
  cases union : builder.isUnion with
  | true =>
      apply Learns.of_union union <;> simp [placeField, raiseAlign, union, Layout.isResolved]
      cases builder.align.isSome <;> cases layout.align.isSome <;> simp
  | false =>
      rcases layout with ⟨size, _ | align⟩
      · apply Learns.of_struct coherent union <;>
          simp [placeField, raiseAlign, union, IsCoherent, Layout.isResolved]
      · have kept := coherent union
        apply Learns.of_struct coherent union <;> cases offset : builder.offset <;>
          cases own : builder.align <;>
          simp_all [placeField, raiseAlign, maxKnown, IsCoherent, Layout.isResolved]

theorem placeVptr_learns (coherent : builder.IsCoherent) :
    builder.Learns true builder.placeVptr.1 builder.placeVptr.2 :=
  let marked : LayoutBuilder := { builder with hasData := true }
  have learns := @placeField_learns marked builder.model.pointer coherent
  ⟨learns.1, learns.2, learns.3, learns.4, learns.5, learns.6⟩

theorem placeBase_learns (coherent : builder.IsCoherent) (empty : Bool) :
    builder.Learns layout.isResolved (builder.placeBase layout empty).1
      (builder.placeBase layout empty).2 := by
  unfold placeBase
  split
  · split
    · rename_i size align inside
      have kept := coherent
      apply Learns.of_struct coherent (by simp_all) <;> cases own : builder.align <;>
        simp_all [raiseAlign, maxKnown, IsCoherent, Layout.isResolved]
    · exact placeField_learns coherent
  · exact placeField_learns coherent

theorem placeBitfield_spoils (coherent : builder.IsCoherent) (unknown : layout.isResolved = false)
    (width : Int) (named : Bool) :
    (builder.placeBitfield layout width named).1 = .ok none ∧
      builder.Learns false none (builder.placeBitfield layout width named).2 := by
  rcases layout with ⟨_ | size, _ | align⟩
  case some.some => cases unknown
  all_goals
    refine ⟨rfl, ?_⟩
    cases union : builder.isUnion
    · apply Learns.of_struct coherent union <;> cases named <;>
        simp [placeBitfield, raiseAlign, union, IsCoherent]
    · apply Learns.of_union union <;> cases named <;> simp [placeBitfield, raiseAlign, union]

theorem placeBitfield_learns_union {size align : Int} (union : builder.isUnion = true)
    (width : Int) (named : Bool) :
    (builder.placeBitfield ⟨some size, some align⟩ width named).1 = .ok (some 0) ∧
      builder.Learns true (some 0)
        (builder.placeBitfield ⟨some size, some align⟩ width named).2 := by
  constructor
  · cases named <;> simp [placeBitfield, raiseAlign, union]
  · apply Learns.of_union union <;> cases named <;> simp [placeBitfield, raiseAlign, union]

theorem placeBitfield_learns_struct {size align : Int} (coherent : builder.IsCoherent)
    (struct : builder.isUnion = false) (aligned : 1 ≤ align) (width : Int) (named : Bool) :
    ∃ offset, (builder.placeBitfield ⟨some size, some align⟩ width named).1 = .ok offset ∧
      builder.Learns true offset
        (builder.placeBitfield ⟨some size, some align⟩ width named).2 := by
  have unit_ne : align * Layout.bitsPerByte ≠ 0 := by
    unfold Layout.bitsPerByte
    omega
  have kept := coherent struct
  cases offset : builder.offset with
  | none =>
      refine ⟨none, ?_, ?_⟩
      · cases named <;> simp [placeBitfield, raiseAlign, struct, offset]
      · apply Learns.of_struct coherent struct <;> cases named <;>
          simp [placeBitfield, raiseAlign, struct, offset, IsCoherent]
  | some bit =>
      obtain ⟨own, own_eq⟩ : ∃ own, builder.align = some own := by
        cases own : builder.align <;> simp_all
      by_cases closing : width = 0
      · refine ⟨some (Layout.roundUp bit (align * Layout.bitsPerByte)), ?_, ?_⟩
        · cases named <;> simp [placeBitfield, raiseAlign, struct, offset, closing]
        · apply Learns.of_struct coherent struct <;> cases named <;>
            simp [placeBitfield, raiseAlign, maxKnown, struct, offset, own_eq, closing, IsCoherent]
      · refine ⟨some (bitfieldStart bit width (align * Layout.bitsPerByte)), ?_, ?_⟩
        · cases named <;> simp [placeBitfield, raiseAlign, struct, offset, closing, unit_ne]
        · apply Learns.of_struct coherent struct <;> cases named <;>
            simp [placeBitfield, raiseAlign, maxKnown, struct, offset, own_eq, closing, unit_ne,
              IsCoherent]

theorem placeBitfield_learns (coherent : builder.IsCoherent)
    (aligned : ∀ align, layout.align = some align → 1 ≤ align) (width : Int) (named : Bool) :
    ∃ offset, (builder.placeBitfield layout width named).1 = .ok offset ∧
      builder.Learns layout.isResolved offset (builder.placeBitfield layout width named).2 := by
  cases known : layout.isResolved with
  | false => exact ⟨none, placeBitfield_spoils coherent known width named⟩
  | true =>
      rcases layout with ⟨_ | size, _ | align⟩
      case some.some =>
        cases union : builder.isUnion with
        | true => exact ⟨some 0, placeBitfield_learns_union union width named⟩
        | false => exact placeBitfield_learns_struct coherent union (aligned align rfl) width named
      all_goals cases known

theorem giveUp_learns : builder.Learns false none builder.giveUp := by
  constructor <;> cases union : builder.isUnion <;> simp_all [giveUp, isSized, IsCoherent]

/-- A placement is spoilt by what was placed before, and spoils what comes after unless its own
layout is known. -/
theorem place_learns {placement : Placement} (coherent : builder.IsCoherent)
    (aligned : placement.IsAligned builder.model) :
    ∃ offset, (builder.place placement).1 = .ok offset ∧
      builder.Learns (placement.isKnown builder.model) offset (builder.place placement).2 := by
  cases placement with
  | vptr => exact ⟨_, rfl, placeVptr_learns coherent⟩
  | base layout empty => exact ⟨_, rfl, placeBase_learns coherent empty⟩
  | field layout => exact ⟨_, rfl, placeField_learns coherent⟩
  | bitfield layout width named => exact placeBitfield_learns coherent aligned width named
  | unresolved => exact ⟨none, rfl, giveUp_learns⟩

/-! ## All placements -/

theorem placeAll_append (first rest : List Placement) :
    builder.placeAll (first ++ rest) =
      ((builder.placeAll first).1 ++ ((builder.placeAll first).2.placeAll rest).1,
        ((builder.placeAll first).2.placeAll rest).2) := by
  induction first generalizing builder with
  | nil => rfl
  | cons placement others ih => simp [placeAll, ih]

theorem length_placeAll (placements : List Placement) :
    (builder.placeAll placements).1.length = placements.length := by
  induction placements generalizing builder with
  | nil => rfl
  | cons placement rest ih => simp [placeAll, ih]

theorem placeAll_learns (coherent : builder.IsCoherent) (placements : List Placement)
    (aligned : ∀ placement ∈ placements, placement.IsAligned builder.model) :
    (builder.placeAll placements).2.model = builder.model ∧
      (builder.placeAll placements).2.isUnion = builder.isUnion ∧
      (builder.placeAll placements).2.IsCoherent ∧
      (builder.placeAll placements).2.isSized =
        (builder.isSized && placements.all (·.isKnown builder.model)) := by
  induction placements generalizing builder with
  | nil => simp [placeAll, coherent]
  | cons placement rest ih =>
      obtain ⟨offset, -, learns⟩ := place_learns coherent (aligned placement (by simp))
      have later := ih learns.coherent fun other mem => by
        rw [learns.model_eq]
        exact aligned other (by simp [mem])
      rw [learns.model_eq, learns.isUnion_eq, learns.isSized_eq] at later
      simpa [placeAll, Bool.and_assoc] using later

/-- The size of a record is known exactly if all layouts that were placed are.  Outside a union
an offset is known as long as all layouts up to it are, and no offset is known after a layout
that is not; and no placement fails. -/
theorem size_known_iff_layouts_known (model : DataModel) (isUnion : Bool)
    (placements : List Placement) (aligned : ∀ placement ∈ placements, placement.IsAligned model) :
    ((placeAll { model, isUnion } placements).2.finish.size.isSome ↔
        ∀ placement ∈ placements, placement.isKnown model) ∧
      ∀ before placement after, placements = before ++ placement :: after →
        ∃ offset, (placeAll { model, isUnion } placements).1[before.length]? = some (.ok offset) ∧
          (isUnion = false →
            ((∃ early ∈ before, early.isKnown model = false) → offset = none) ∧
            ((∀ early ∈ before ++ [placement], early.isKnown model) → offset.isSome)) := by
  have coherent : IsCoherent { model, isUnion } := by simp [IsCoherent]
  have sized : isSized { model, isUnion } = true := by simp [isSized]
  constructor
  · rw [isSome_size_finish, (placeAll_learns coherent placements aligned).2.2.2, sized]
    simp
  · rintro before placement after rfl
    obtain ⟨model_eq, isUnion_eq, middle, sized_eq⟩ :=
      placeAll_learns coherent before fun early mem => aligned early (by simp [mem])
    dsimp only at model_eq isUnion_eq
    rw [sized, Bool.true_and] at sized_eq
    have own : placement.IsAligned (placeAll { model, isUnion } before).2.model := by
      rw [model_eq]
      exact aligned placement (by simp)
    obtain ⟨offset, placed, learns⟩ := place_learns middle own
    refine ⟨offset, ?_, fun struct => ⟨?_, ?_⟩⟩
    · rw [placeAll_append, List.getElem?_append_right (by rw [length_placeAll]), length_placeAll]
      simp [placeAll, placed]
    · rintro ⟨early, mem, unknown⟩
      refine learns.lost (isUnion_eq.trans struct) ?_
      rw [sized_eq, List.all_eq_false]
      exact ⟨early, mem, by simp [unknown]⟩
    · intro known
      refine learns.found (isUnion_eq.trans struct) ?_ ?_
      · rw [sized_eq, List.all_eq_true]
        exact fun early mem => known early (by simp [mem])
      · rw [model_eq]
        exact known placement (by simp)

def leadingPlacements : List Placement :=
  [.field ⟨some 4, some 4⟩, .bitfield ⟨some 4, some 4⟩ 3 true, .base ⟨none, some 8⟩ false]

theorem halfKnownBase_spoils_vptr :
    (∀ placement ∈ leadingPlacements ++ [.vptr], placement.IsAligned .lp64) ∧
      (placeAll { model := .lp64 } (leadingPlacements ++ [.vptr])).2.finish.size = none ∧
      (placeAll { model := .lp64 } (leadingPlacements ++ [.vptr])).1[3]? = some (.ok none) := by
  have aligned : ∀ placement ∈ leadingPlacements ++ [.vptr], placement.IsAligned .lp64 := by
    simp [leadingPlacements, Placement.IsAligned, Placement.layout, DataModel.pointer,
      DataModel.lp64, DataModel.ofSizes]
  obtain ⟨sized, offsets⟩ := size_known_iff_layouts_known .lp64 false _ aligned
  obtain ⟨offset, placed, lost⟩ := offsets leadingPlacements .vptr [] rfl
  have spoilt := (lost rfl).1 ⟨.base ⟨none, some 8⟩ false, by decide, rfl⟩
  refine ⟨aligned, ?_, ?_⟩
  · rw [← Option.not_isSome_iff_eq_none, sized]
    decide
  · rw [← spoilt]
    exact placed

end LayoutBuilder

end TypeCatalog
