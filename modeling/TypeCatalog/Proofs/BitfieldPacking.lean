import Mathlib.Order.Bounds.Basic
import Mathlib.Tactic.Ring
import TypeCatalog.Proofs.RecordLayout
import TypeCatalog.Proofs.SoundTypes

/-!
# Bit-fields and storage units

The bits of a bit-field lie inside one storage unit of its type: as many bits
as the type has, from a multiple of its alignment on.  A type whose size is
its alignment has units that follow each other, and a bit-field then starts as
early as it can.  Where the size is a greater multiple of the alignment, units
overlap, and a bit-field that fits into the unit begun before it may still be
put at the next multiple of the alignment.
-/

namespace TypeCatalog

open Layout (roundUp bitsPerByte)
open Text (CodeText)

namespace Layout

/-! ## Units -/

/-- The bits of a width from a start on lie inside one storage unit of a type. -/
def InOneUnit (size align width start : Int) : Prop :=
  ∃ unit, bitsPerByte * align ∣ unit ∧ unit ≤ start ∧ start + width ≤ unit + bitsPerByte * size

/-- The bits of a width after an end would reach into another multiple of the alignment, but
not out of the unit of the last multiple. -/
def ReachesOn (size align width bit : Int) : Prop :=
  bit % (bitsPerByte * align) ≠ 0 ∧
    bitsPerByte * align < bit % (bitsPerByte * align) + width ∧
    bit % (bitsPerByte * align) + width ≤ bitsPerByte * size

instance (size align width bit : Int) : Decidable (ReachesOn size align width bit) :=
  inferInstanceAs (Decidable (_ ∧ _ ∧ _))

variable {size align width bit : Int}

theorem inOneUnit_iff (positive : 1 ≤ align) :
    InOneUnit size align width bit ↔
      bit % (bitsPerByte * align) + width ≤ bitsPerByte * size := by
  have step_pos : 0 < bitsPerByte * align := by
    unfold bitsPerByte
    omega
  have whole := Int.emod_add_mul_ediv bit (bitsPerByte * align)
  constructor
  · rintro ⟨_, ⟨factor, rfl⟩, begun, ends⟩
    have quotient : factor ≤ bit / (bitsPerByte * align) :=
      (Int.le_ediv_iff_mul_le step_pos).mpr (by rwa [Int.mul_comm])
    have last := Int.mul_le_mul_of_nonneg_left quotient step_pos.le
    omega
  · intro fits
    have remainder := Int.emod_nonneg bit step_pos.ne'
    exact ⟨_, Int.dvd_mul_right _ (bit / (bitsPerByte * align)), by omega, by omega⟩

theorem inOneUnit_of_dvd (divides : bitsPerByte * align ∣ bit)
    (narrow : width ≤ bitsPerByte * size) :
    InOneUnit size align width bit :=
  ⟨bit, divides, le_rfl, by omega⟩

theorem roundUp_le_of_inOneUnit {offset : Int} (after : bit ≤ offset)
    (inside : InOneUnit size align width offset) (outside : ¬InOneUnit size align width bit) :
    roundUp bit (bitsPerByte * align) ≤ offset := by
  obtain ⟨unit, divides, begun, ends⟩ := inside
  by_cases later : bit ≤ unit
  · exact le_trans (roundUp_le later divides) begun
  · exact absurd ⟨unit, divides, by omega, by omega⟩ outside

end Layout

open Layout (InOneUnit ReachesOn)

namespace LayoutBuilder

variable {builder : LayoutBuilder} {size align width bit : Int}

/-! ## The start of a bit-field -/

theorem bitfieldStart_eq {unit : Int} (positive : 0 < unit) (shown : 1 ≤ width) :
    bitfieldStart bit width unit =
      if bit % unit + width ≤ unit then bit else roundUp bit unit := by
  have whole := Int.emod_add_mul_ediv bit unit
  have remainder := Int.emod_nonneg bit positive.ne'
  have last_eq : (bit + width - 1) / unit = (bit % unit + width - 1) / unit + bit / unit := by
    rw [← Int.add_mul_ediv_left _ _ positive.ne']
    congr 1
    omega
  have same : bit / unit = (bit + width - 1) / unit ↔ bit % unit + width ≤ unit := by
    rw [last_eq]
    constructor
    · intro equal
      have none_more : (bit % unit + width - 1) / unit < 1 := by omega
      rw [Int.ediv_lt_iff_lt_mul positive] at none_more
      omega
    · intro fits
      have none_more : (bit % unit + width - 1) / unit = 0 :=
        Int.ediv_eq_zero_of_lt (by omega) (by omega)
      omega
  simp only [bitfieldStart, Int.fdiv_eq_ediv_of_nonneg _ positive.le, ne_eq, ite_not, same]

theorem placeBitfield_eq (named : Bool) (struct : builder.isUnion = false)
    (ends : builder.offset = some bit) (positive : 1 ≤ align) (shown : 1 ≤ width) :
    (builder.placeBitfield ⟨some size, some align⟩ width named).1 =
        .ok (some (bitfieldStart bit width (bitsPerByte * align))) ∧
      (builder.placeBitfield ⟨some size, some align⟩ width named).2.offset =
        some (bitfieldStart bit width (bitsPerByte * align) + width) := by
  have unit_ne : align * bitsPerByte ≠ 0 := by
    unfold bitsPerByte
    omega
  have open_unit : width ≠ 0 := by omega
  rw [Int.mul_comm bitsPerByte]
  cases named <;> simp [placeBitfield, raiseAlign, struct, ends, open_unit, unit_ne]

theorem bitfieldStart_inOneUnit (positive : 1 ≤ align) (whole : align ≤ size) (shown : 1 ≤ width)
    (narrow : width ≤ bitsPerByte * size) :
    InOneUnit size align width (bitfieldStart bit width (bitsPerByte * align)) := by
  have unit_pos : 1 ≤ bitsPerByte * align := by
    unfold bitsPerByte
    omega
  rw [bitfieldStart_eq unit_pos shown]
  split
  · rename_i fits
    rw [Layout.inOneUnit_iff positive]
    exact le_trans fits (Int.mul_le_mul_of_nonneg_left whole (by decide))
  · exact Layout.inOneUnit_of_dvd (Layout.dvd_roundUp bit unit_pos) narrow

/-- The start of a bit-field is the least one inside a unit, unless there is room for it in a
unit that overlaps the next one. -/
theorem isLeast_bitfieldStart_iff (positive : 1 ≤ align) (whole : align ≤ size)
    (shown : 1 ≤ width) (narrow : width ≤ bitsPerByte * size) :
    IsLeast {offset | bit ≤ offset ∧ InOneUnit size align width offset}
        (bitfieldStart bit width (bitsPerByte * align)) ↔
      ¬ReachesOn size align width bit := by
  have unit_pos : 1 ≤ bitsPerByte * align := by
    unfold bitsPerByte
    omega
  have after := le_bitfieldStart bit width (bitsPerByte * align)
  have inside := @bitfieldStart_inOneUnit _ _ _ bit positive whole shown narrow
  have start_eq := @bitfieldStart_eq width bit _ unit_pos shown
  constructor
  · rintro ⟨-, least⟩ ⟨apart, reaches, fits⟩
    -- the end itself would do, but the start is a multiple of the alignment
    have early := least ⟨le_rfl, (Layout.inOneUnit_iff positive).mpr fits⟩
    rw [if_neg (by omega)] at start_eq
    have divides := Layout.dvd_roundUp bit unit_pos
    rw [← start_eq, le_antisymm early after] at divides
    exact apart (Int.emod_eq_zero_of_dvd divides)
  · intro stays
    refine ⟨⟨after, inside⟩, fun offset candidate => ?_⟩
    rw [start_eq]
    split
    · exact candidate.1
    · rename_i reaches
      by_cases aligned : bit % (bitsPerByte * align) = 0
      · exact le_trans (Layout.roundUp_le le_rfl (Int.dvd_of_emod_eq_zero aligned)) candidate.1
      · refine Layout.roundUp_le_of_inOneUnit candidate.1 candidate.2 ?_
        rw [Layout.inOneUnit_iff positive]
        exact fun fits => stays ⟨aligned, by omega, fits⟩

end LayoutBuilder

/-! ## Builtin types -/

namespace DataModel

theorem sizes_whole : ∀ model ∈ all, ∀ entry ∈ model.sizes,
    (model.aligns.lookup entry.1).getD entry.2 ≤ entry.2 := by
  decide

/-- Only one model has builtin types whose size is not their alignment. -/
theorem sizes_natural : ∀ model ∈ all, model ≠ ilp32 → ∀ entry ∈ model.sizes,
    (model.aligns.lookup entry.1).getD entry.2 = entry.2 := by
  decide

theorem builtin?_shape {model : DataModel} (listed : model ∈ all) {canonical : CodeText}
    {size align : Int} (known : model.builtin? canonical = some ⟨some size, some align⟩) :
    1 ≤ align ∧ align ≤ size ∧ (model ≠ ilp32 → align = size) := by
  have aligned := (builtin?_aligned listed known align rfl).pos
  simp only [builtin?, Option.bind_eq_bind, Option.bind_eq_some_iff] at known
  obtain ⟨name, -, size, size_eq, layout_eq⟩ := known
  cases layout_eq
  obtain ⟨before, after, sizes_eq, -⟩ := List.lookup_eq_some_iff.mp size_eq
  have mem : (name, size) ∈ model.sizes := by simp [sizes_eq]
  exact ⟨aligned, sizes_whole model listed _ mem,
    fun natural => sizes_natural model listed natural _ mem⟩

end DataModel

namespace LayoutBuilder

/-- A bit-field of a builtin type is put after everything before it and inside one storage unit
of its type, and the end moves behind it.  Its start is the least such offset exactly if the
bit-field does not reach over a multiple of the alignment within a unit; types whose size is
their alignment, which are all types outside of one model, leave no room for that. -/
theorem bitfield_least_iff {model : DataModel} (listed : model ∈ DataModel.all)
    {canonical : CodeText} {size align : Int}
    (known : model.builtin? canonical = some ⟨some size, some align⟩)
    {builder : LayoutBuilder} {bit : Int} (struct : builder.isUnion = false)
    (ends : builder.offset = some bit) {width : Int} (shown : 1 ≤ width)
    (narrow : width ≤ bitsPerByte * size) (named : Bool) :
    let placed := builder.placeBitfield ⟨some size, some align⟩ width named
    ∃ start, placed.1 = .ok (some start) ∧ placed.2.offset = some (start + width) ∧
      bit ≤ start ∧ InOneUnit size align width start ∧
      (IsLeast {offset | bit ≤ offset ∧ InOneUnit size align width offset} start ↔
        ¬ReachesOn size align width bit) ∧
      (align = size ∨ model ≠ .ilp32 →
        IsLeast {offset | bit ≤ offset ∧ InOneUnit size align width offset} start) := by
  intro placed
  obtain ⟨positive, whole, natural⟩ := DataModel.builtin?_shape listed known
  obtain ⟨start_eq, end_eq⟩ := @placeBitfield_eq builder size align width bit named struct ends
    positive shown
  have least_iff := @isLeast_bitfieldStart_iff size align width bit positive whole shown narrow
  refine ⟨_, start_eq, end_eq, le_bitfieldStart _ _ _,
    bitfieldStart_inOneUnit positive whole shown narrow, least_iff, fun regular => ?_⟩
  obtain rfl : align = size := regular.elim id natural
  refine least_iff.mpr fun ⟨_, reaches, fits⟩ => ?_
  omega

/-- Fifty bits of a `long long` do not fit into the unit begun before 24 bits, so they start at
the next multiple of the alignment. -/
theorem wideField_least :
    let builder : LayoutBuilder := { model := .ilp32, offset := some 24 }
    DataModel.ilp32 ∈ DataModel.all ∧
      DataModel.ilp32.builtin? "long long" = some ⟨some 8, some 4⟩ ∧
      builder.isUnion = false ∧ builder.offset = some 24 ∧ (1 : Int) ≤ 50 ∧ 50 ≤ bitsPerByte * 8 ∧
      (builder.placeBitfield ⟨some 8, some 4⟩ 50 true).1 = .ok (some 32) ∧
      IsLeast {offset | 24 ≤ offset ∧ InOneUnit 8 4 50 offset} 32 := by
  have listed : DataModel.ilp32 ∈ DataModel.all := by simp [DataModel.all]
  have known : DataModel.ilp32.builtin? "long long" = some ⟨some 8, some 4⟩ := by decide +kernel
  obtain ⟨start, placed, -, -, -, least, -⟩ :=
    @bitfield_least_iff _ listed _ 8 4 known { model := .ilp32, offset := some 24 } 24 rfl rfl 50
      (by decide) (by decide) true
  have computed : (({ model := .ilp32, offset := some 24 } : LayoutBuilder).placeBitfield
      ⟨some 8, some 4⟩ 50 true).1 = .ok (some 32) := by decide
  rw [computed] at placed
  cases placed
  exact ⟨listed, known, rfl, rfl, by decide, by decide, computed, least.mpr (by decide)⟩

/-- After 16 bits, 40 bits of a `long long` would lie inside its first unit, but they are put at
the next multiple of the alignment. -/
theorem overlappingUnits_not_least :
    let builder := (({ model := .ilp32 } : LayoutBuilder).placeBitfield ⟨some 4, some 4⟩ 16 true).2
    DataModel.ilp32 ∈ DataModel.all ∧
      DataModel.ilp32.builtin? "long long" = some ⟨some 8, some 4⟩ ∧
      builder.isUnion = false ∧ builder.offset = some 16 ∧ 40 ≤ bitsPerByte * 8 ∧
      (builder.placeBitfield ⟨some 8, some 4⟩ 40 true).1 = .ok (some 32) ∧
      InOneUnit 8 4 40 16 ∧ ¬IsLeast {offset | 16 ≤ offset ∧ InOneUnit 8 4 40 offset} 32 := by
  have inside : InOneUnit 8 4 40 16 := (Layout.inOneUnit_iff (by decide)).mpr (by decide)
  refine ⟨by simp [DataModel.all], by decide +kernel, rfl, rfl, by decide, by decide, inside, ?_⟩
  rintro ⟨-, least⟩
  have early : (32 : Int) ≤ 16 := least ⟨le_rfl, inside⟩
  omega

end LayoutBuilder

end TypeCatalog
