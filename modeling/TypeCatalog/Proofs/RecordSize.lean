import TypeCatalog.Proofs.RecordLayout

/-!
# Sizes of records

The size of a record is its end, rounded up to whole bytes and then to the
alignment, and at least 1.  The minimum comes last, so it is all that is left
of a record in which nothing takes space, whatever the alignment.
-/

namespace TypeCatalog

open Layout (roundUp bitsPerByte)

/-! ## Rounding the end -/

namespace Layout

theorem roundUp_zero (alignment : Int) : roundUp 0 alignment = 0 := by
  unfold roundUp
  split
  · rfl
  · have quotient : (0 + alignment - 1) / alignment = 0 :=
      Int.ediv_eq_zero_of_lt (by omega) (by omega)
    rw [quotient, Int.zero_mul]

theorem roundUp_pos {value alignment : Int} (nonneg : 0 ≤ value) :
    0 < roundUp value alignment ↔ 0 < value := by
  constructor
  · intro positive
    by_contra empty
    have zero : value = 0 := by omega
    rw [zero, roundUp_zero] at positive
    omega
  · intro positive
    have above := le_roundUp value alignment
    omega

def sizeAt (bits align : Int) : Int :=
  max (roundUp ((bits + bitsPerByte - 1) / bitsPerByte) align) 1

theorem one_le_sizeAt (bits align : Int) : 1 ≤ sizeAt bits align :=
  le_max_right _ _

theorem sizeAt_zero (align : Int) : sizeAt 0 align = 1 := by
  have bytes : (0 + bitsPerByte - 1) / bitsPerByte = 0 := by decide
  rw [sizeAt, bytes, roundUp_zero]
  decide

theorem dvd_sizeAt_iff {bits align : Int} (nonneg : 0 ≤ bits) (positive : 1 ≤ align) :
    align ∣ sizeAt bits align ↔ align = 1 ∨ 0 < bits := by
  by_cases empty : bits = 0
  · subst empty
    rw [sizeAt_zero]
    constructor
    · intro divides
      have bounded := Int.le_of_dvd (by omega) divides
      omega
    · rintro (single | absurd_pos)
      · rw [single]
      · omega
  · have taken : 0 < bits := by omega
    have bytes : 0 < (bits + bitsPerByte - 1) / bitsPerByte := by
      unfold bitsPerByte
      omega
    have rounded := (@roundUp_pos _ align bytes.le).mpr bytes
    have size_eq : sizeAt bits align =
        roundUp ((bits + bitsPerByte - 1) / bitsPerByte) align :=
      max_eq_left (by omega)
    rw [size_eq]
    simp [taken, dvd_roundUp _ positive]

end Layout

/-! ## Taking space -/

/-- Whether a placement moves the end of a record.  In a union all that counts is the size of
the type. -/
def Placement.TakesSpace (model : DataModel) (isUnion : Bool) (placement : Placement) : Prop :=
  if isUnion then 0 < (placement.layout model).size.getD 0
  else placement.isEmptyBase = false ∧ 0 < placement.extent model

namespace LayoutBuilder

variable {builder : LayoutBuilder} {model : DataModel} {isUnion : Bool} {bits align : Int}
  {placement : Placement}

structure Spans (builder : LayoutBuilder) (model : DataModel) (isUnion : Bool)
    (bits align : Int) : Prop where
  model_eq : builder.model = model
  isUnion_eq : builder.isUnion = isUnion
  bits_eq : (if isUnion then builder.unionSize else builder.offset) = some bits
  align_eq : builder.align = some align
  bits_nonneg : 0 ≤ bits
  align_pos : 1 ≤ align

theorem fresh_spans (model : DataModel) (isUnion : Bool) :
    Spans { model, isUnion } model isUnion 0 1 := by
  constructor <;> simp

theorem Spans.finish_eq (state : builder.Spans model isUnion bits align) :
    builder.finish = ⟨some (Layout.sizeAt bits align), some align⟩ := by
  obtain ⟨-, isUnion_eq, bits_eq, align_eq, -, -⟩ := state
  simp [finish, isUnion_eq, bits_eq, align_eq, Layout.sizeAt]

/-! ## One placement -/

theorem placeField_spans_union {size own : Int} (state : builder.Spans model true bits align) :
    (builder.placeField ⟨some size, some own⟩).1 = some 0 ∧
      (builder.placeField ⟨some size, some own⟩).2.Spans model true (max bits (size * bitsPerByte))
        (max align own) := by
  obtain ⟨model_eq, isUnion_eq, bits_eq, align_eq, bits_nonneg, align_pos⟩ := state
  simp only [↓reduceIte] at bits_eq
  constructor
  · simp [placeField, raiseAlign, isUnion_eq]
  · constructor <;>
      simp [placeField, raiseAlign, maxKnown, toBits, isUnion_eq, bits_eq, align_eq, model_eq,
        bits_nonneg, align_pos]

theorem placeBitfield_spans_union {size own : Int} (width : Int) (named : Bool)
    (state : builder.Spans model true bits align) :
    (builder.placeBitfield ⟨some size, some own⟩ width named).1 = .ok (some 0) ∧
      (builder.placeBitfield ⟨some size, some own⟩ width named).2.Spans model true
        (max bits (size * bitsPerByte)) (if named then max align own else align) := by
  obtain ⟨model_eq, isUnion_eq, bits_eq, align_eq, bits_nonneg, align_pos⟩ := state
  simp only [↓reduceIte] at bits_eq
  constructor
  · cases named <;> simp [placeBitfield, raiseAlign, isUnion_eq]
  · constructor <;> cases named <;>
      simp [placeBitfield, raiseAlign, maxKnown, isUnion_eq, bits_eq, align_eq, model_eq,
        bits_nonneg, align_pos]

/-- In a union everything starts at bit 0, and the largest type counts. -/
theorem place_spans_union (state : builder.Spans model true bits align)
    (sound : placement.IsSound model) :
    (builder.place placement).1 = .ok (some 0) ∧
      (builder.place placement).2.Spans model true
        (max bits ((placement.layout model).size.getD 0 * bitsPerByte))
        ((placement.demands model).foldl max align) := by
  obtain ⟨⟨size, own, layout_eq, -, -⟩, -⟩ := sound
  have isUnion_eq := state.isUnion_eq
  cases placement with
  | vptr =>
      have marked : ({ builder with hasData := true } : LayoutBuilder).Spans model true bits align :=
        ⟨state.1, state.2, state.3, state.4, state.5, state.6⟩
      have placed := @placeField_spans_union _ _ _ _ size own marked
      obtain rfl := state.model_eq
      simp only [Placement.layout] at layout_eq
      simpa [place, placeVptr, layout_eq, Placement.demands, Placement.alignment,
        Placement.layout] using placed
  | base layout empty =>
      obtain rfl := layout_eq
      simpa [place, placeBase, isUnion_eq, Placement.demands, Placement.alignment,
        Placement.layout] using placeField_spans_union state
  | field layout =>
      obtain rfl := layout_eq
      simpa [place, Placement.demands, Placement.alignment, Placement.layout]
        using placeField_spans_union state
  | bitfield layout width named =>
      obtain rfl := layout_eq
      have placed := @placeBitfield_spans_union _ _ _ _ size own width named state
      cases named <;>
        simpa [place, Placement.demands, Placement.alignment, Placement.layout] using placed
  | unresolved => simp [Placement.layout, Layout.unresolved] at layout_eq

theorem start_eq_zero {start : Int} (struct : builder.isUnion = false)
    (offset : builder.offset = some 0) (placed : (builder.place placement).1 = .ok (some start))
    (follows : PlacedMember.StartsAfter model 0 ⟨placement, start⟩)
    (empty : placement.extent model = 0) : start = 0 := by
  have after := follows.le
  cases bitfield : placement.isBitfield with
  | false =>
      simp only [PlacedMember.StartsAfter, bitfield, Bool.false_eq_true, ↓reduceIte] at follows
      have least := follows.2 (show (0 : Int) ∈ _ from ⟨le_rfl, dvd_zero _⟩)
      simp only at after
      omega
  | true =>
      -- a bit-field of width 0 ends where its unit does
      cases placement <;> simp only [Placement.isBitfield, Bool.false_eq_true] at bitfield
      rename_i layout width named
      obtain rfl : width = 0 := empty
      rcases layout with ⟨_ | size, _ | own⟩ <;> cases named <;>
        simp_all [place, placeBitfield, raiseAlign, Layout.roundUp_zero]

theorem place_spans_struct (state : builder.Spans model false bits align)
    (sound : placement.IsSound model) :
    ∃ start last, (builder.place placement).1 = .ok (some start) ∧
      (builder.place placement).2.Spans model false last
        ((placement.demands model).foldl max align) ∧
      (0 < last ↔ 0 < bits ∨ placement.TakesSpace model false) := by
  obtain ⟨model_eq, isUnion_eq, bits_eq, align_eq, bits_nonneg, align_pos⟩ := state
  simp only [Bool.false_eq_true, ↓reduceIte] at bits_eq
  have extent_nonneg := sound.extent_nonneg
  obtain ⟨start, placed, follows, next⟩ :=
    place_isAt ⟨model_eq, isUnion_eq, bits_eq, align_eq, align_pos⟩ sound
  have above : bits ≤ start := follows.le
  refine ⟨start, _, placed,
    ⟨next.model_eq, next.isUnion_eq, by simpa using next.offset_eq, next.align_eq, ?_,
      next.align_pos⟩, ?_⟩
  · split <;> omega
  · cases empty : placement.isEmptyBase with
    | true => simp [Placement.TakesSpace, empty]
    | false =>
        simp only [Placement.TakesSpace, empty, Bool.false_eq_true, ↓reduceIte, true_and]
        constructor
        · intro positive
          by_contra none_taken
          have bits_zero : bits = 0 := by omega
          have extent_zero : placement.extent model = 0 := by omega
          subst bits_zero
          have start_zero := start_eq_zero isUnion_eq bits_eq placed follows extent_zero
          omega
        · omega

/-- A placement is given an offset, and moves the end of the record exactly if it takes space. -/
theorem place_spans (state : builder.Spans model isUnion bits align)
    (sound : placement.IsSound model) :
    ∃ start last, (builder.place placement).1 = .ok (some start) ∧
      (builder.place placement).2.Spans model isUnion last
        ((placement.demands model).foldl max align) ∧
      (0 < last ↔ 0 < bits ∨ placement.TakesSpace model isUnion) := by
  cases isUnion with
  | false => exact place_spans_struct state sound
  | true =>
      obtain ⟨placed, next⟩ := place_spans_union state sound
      refine ⟨0, _, placed, next, ?_⟩
      simp only [Placement.TakesSpace, ↓reduceIte, bitsPerByte]
      omega

/-! ## All placements -/

theorem placeAll_spans (state : builder.Spans model isUnion bits align)
    (placements : List Placement) (sound : ∀ placement ∈ placements, placement.IsSound model) :
    ∃ (starts : List Int) (last : Int),
      (builder.placeAll placements).1 = starts.map (fun start => .ok (some start)) ∧
      (builder.placeAll placements).2.Spans model isUnion last
        ((placements.flatMap (·.demands model)).foldl max align) ∧
      (0 < last ↔ 0 < bits ∨ ∃ placement ∈ placements, placement.TakesSpace model isUnion) := by
  induction placements generalizing builder bits align with
  | nil => exact ⟨[], bits, rfl, state, by simp⟩
  | cons placement rest ih =>
      obtain ⟨start, middle, placed, next, moved⟩ := place_spans state (sound placement (by simp))
      obtain ⟨starts, last, others, final, taken⟩ :=
        ih next fun other mem => sound other (by simp [mem])
      refine ⟨start :: starts, last, ?_, ?_, ?_⟩
      · simp [placeAll, placed, others]
      · simpa [placeAll, List.foldl_append] using final
      · rw [taken, moved]
        simp [or_assoc]

/-- The size of a record of known layouts is known and at least 1, with the greatest alignment
among them.  It is a multiple of the alignment if the alignment is 1 or something in the record
takes space, and only then. -/
theorem size_multiple_iff_space_taken (model : DataModel) (isUnion : Bool)
    (placements : List Placement) (sound : ∀ placement ∈ placements, placement.IsSound model) :
    ∃ size align : Int,
      (∀ offset ∈ (placeAll { model, isUnion } placements).1, ∃ start, offset = .ok (some start)) ∧
      (placeAll { model, isUnion } placements).2.finish = ⟨some size, some align⟩ ∧
      align = (placements.flatMap (·.demands model)).foldl max 1 ∧ 1 ≤ align ∧ 1 ≤ size ∧
      (align ∣ size ↔
        align = 1 ∨ ∃ placement ∈ placements, placement.TakesSpace model isUnion) := by
  obtain ⟨starts, last, placed, state, taken⟩ :=
    placeAll_spans (fresh_spans model isUnion) placements sound
  refine ⟨_, _, ?_, state.finish_eq, rfl, state.align_pos, Layout.one_le_sizeAt _ _, ?_⟩
  · rw [placed]
    intro offset mem
    obtain ⟨start, -, rfl⟩ := List.mem_map.mp mem
    exact ⟨start, rfl⟩
  · rw [Layout.dvd_sizeAt_iff state.bits_nonneg state.align_pos, taken]
    simp

/-- `int x[0];` -/
def zeroLengthArray : Placement :=
  .field (.array ⟨some 4, some 4⟩ (some 0))

theorem size_multiple_with_char :
    (∀ placement ∈ [zeroLengthArray, .field ⟨some 1, some 1⟩], placement.IsSound .lp64) ∧
      (placeAll { model := .lp64 } [zeroLengthArray, .field ⟨some 1, some 1⟩]).2.finish =
        ⟨some 4, some 4⟩ ∧
      (4 : Int) ∣ 4 := by
  have sound : ∀ placement ∈ [zeroLengthArray, .field ⟨some 1, some 1⟩],
      placement.IsSound .lp64 := by
    simp [zeroLengthArray, Layout.array, Placement.IsSound, Placement.layout, Layout.IsSound]
  obtain ⟨size, align, -, finish_eq, -, -, -, multiple⟩ :=
    size_multiple_iff_space_taken .lp64 false _ sound
  have computed : (placeAll { model := .lp64 } [zeroLengthArray, .field ⟨some 1, some 1⟩]).2.finish =
      ⟨some 4, some 4⟩ := by
    decide
  rw [computed] at finish_eq
  cases finish_eq
  refine ⟨sound, computed, multiple.mpr (.inr ⟨.field ⟨some 1, some 1⟩, by simp, rfl, ?_⟩)⟩
  decide

/-- A record with nothing but an array of no elements has the size 1 and the alignment of the
elements. -/
theorem zeroLengthArray_size_not_multiple :
    (∀ placement ∈ [zeroLengthArray], placement.IsSound .lp64) ∧
      (placeAll { model := .lp64 } [zeroLengthArray]).2.finish = ⟨some 1, some 4⟩ ∧
      ¬ (4 : Int) ∣ 1 := by
  refine ⟨?_, by decide, by decide⟩
  simp [zeroLengthArray, Layout.array, Placement.IsSound, Placement.layout, Layout.IsSound]

end LayoutBuilder

end TypeCatalog
