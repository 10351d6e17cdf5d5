import Mathlib.Order.Bounds.Basic
import Mathlib.Tactic.Ring
import TypeCatalog.Layout.Placement

/-!
# Members of a record lie one after the other

A builder that is not a union keeps the end of everything placed so far.  Each
placement starts at or after that end and moves it to its own end, so the bits
of the members are disjoint and in the order of the calls.  Empty bases take
no bits; they have a start, but do not move the end.
-/

namespace TypeCatalog

open Layout (roundUp bitsPerByte)

/-! ## Rounding up -/

namespace Layout

theorem le_roundUp (value alignment : Int) : value ≤ roundUp value alignment := by
  unfold roundUp
  split
  · exact le_rfl
  · rename_i wide
    have positive : 0 < alignment := by omega
    have exact_division := Int.emod_add_mul_ediv (value + alignment - 1) alignment
    have remainder := Int.emod_lt_of_pos (value + alignment - 1) positive
    have commuted := Int.mul_comm alignment ((value + alignment - 1) / alignment)
    omega

theorem dvd_roundUp {alignment : Int} (value : Int) (positive : 1 ≤ alignment) :
    alignment ∣ roundUp value alignment := by
  unfold roundUp
  split
  · have single : alignment = 1 := by omega
    simp [single]
  · exact Int.dvd_mul_left _ _

theorem roundUp_le {value alignment bound : Int} (above : value ≤ bound)
    (divides : alignment ∣ bound) : roundUp value alignment ≤ bound := by
  unfold roundUp
  split
  · exact above
  · obtain ⟨factor, rfl⟩ := divides
    have quotient : (value + alignment - 1) / alignment ≤ factor := by
      apply Int.le_of_lt_add_one
      rw [Int.ediv_lt_iff_lt_mul (by omega)]
      have expanded : (factor + 1) * alignment = alignment * factor + alignment := by ring
      omega
    calc (value + alignment - 1) / alignment * alignment
        ≤ factor * alignment := Int.mul_le_mul_of_nonneg_right quotient (by omega)
      _ = alignment * factor := Int.mul_comm _ _

theorem roundUp_isLeast {alignment : Int} (value : Int) (positive : 1 ≤ alignment) :
    IsLeast {offset | value ≤ offset ∧ alignment ∣ offset} (roundUp value alignment) :=
  ⟨⟨le_roundUp value alignment, dvd_roundUp value positive⟩,
    fun _ candidate => roundUp_le candidate.1 candidate.2⟩

def IsSound (layout : Layout) : Prop :=
  ∃ size align, layout = ⟨some size, some align⟩ ∧ 0 ≤ size ∧ 1 ≤ align

end Layout

/-! ## What a placement asks for -/

namespace Placement

def layout (model : DataModel) : Placement → Layout
  | vptr => model.pointer
  | base layout _ => layout
  | field layout => layout
  | bitfield layout _ _ => layout
  | unresolved => .unresolved

def IsSound (model : DataModel) (placement : Placement) : Prop :=
  (placement.layout model).IsSound ∧
    match placement with
    | bitfield _ width _ => 0 ≤ width
    | _ => True

def alignment (model : DataModel) (placement : Placement) : Int :=
  (placement.layout model).align.getD 1

def extent (model : DataModel) : Placement → Int
  | bitfield _ width _ => width
  | placement => (placement.layout model).size.getD 0 * bitsPerByte

def isEmptyBase : Placement → Bool
  | base _ empty => empty
  | _ => false

def isBitfield : Placement → Bool
  | bitfield _ _ _ => true
  | _ => false

theorem IsSound.extent_nonneg {model : DataModel} {placement : Placement}
    (sound : placement.IsSound model) : 0 ≤ placement.extent model := by
  obtain ⟨⟨size, own, layout_eq, size_nonneg, -⟩, width_nonneg⟩ := sound
  cases placement with
  | bitfield layout width named => exact width_nonneg
  | vptr | base | field | unresolved =>
      simp only [extent, layout_eq, Option.getD_some, bitsPerByte]
      omega

/-- The alignments that count for the record: all but those of unnamed bit-fields. -/
def demands (model : DataModel) : Placement → List Int
  | bitfield _ _ false => []
  | placement => [placement.alignment model]

end Placement

structure PlacedMember where
  placement : Placement
  start : Int

namespace PlacedMember

def stop (model : DataModel) (member : PlacedMember) : Int :=
  member.start + member.placement.extent model

/-- The least multiple of its alignment at or after a bit; a bit-field only comes after it. -/
def StartsAfter (model : DataModel) (bit : Int) (member : PlacedMember) : Prop :=
  if member.placement.isBitfield then bit ≤ member.start
  else
    IsLeast {offset | bit ≤ offset ∧ bitsPerByte * member.placement.alignment model ∣ offset}
      member.start

theorem StartsAfter.le {model : DataModel} {bit : Int} {member : PlacedMember}
    (starts : member.StartsAfter model bit) : bit ≤ member.start := by
  unfold StartsAfter at starts
  split at starts
  · exact starts
  · exact starts.1.1

def occupants (members : List PlacedMember) : List PlacedMember :=
  members.filter (!·.placement.isEmptyBase)

def endOf (model : DataModel) (bit : Int) (members : List PlacedMember) : Int :=
  ((occupants members).map (stop model)).foldl max bit

theorem le_foldl_max (bit : Int) (stops : List Int) : bit ≤ stops.foldl max bit := by
  induction stops generalizing bit with
  | nil => simp
  | cons first rest ih => exact le_trans (le_max_left bit first) (ih (max bit first))

theorem le_foldl_max_of_mem {stops : List Int} {stop : Int} (bit : Int) (mem : stop ∈ stops) :
    stop ≤ stops.foldl max bit := by
  induction stops generalizing bit with
  | nil => simp at mem
  | cons first rest ih =>
      rcases List.mem_cons.mp mem with rfl | mem
      · exact le_trans (le_max_right bit stop) (le_foldl_max _ rest)
      · exact ih (max bit first) mem

theorem stop_le_endOf {model : DataModel} (bit : Int) {members : List PlacedMember}
    {member : PlacedMember} (mem : member ∈ occupants members) :
    member.stop model ≤ endOf model bit members :=
  le_foldl_max_of_mem bit (List.mem_map_of_mem mem)

/-- Members that each start after the end of all earlier ones lie apart and in order. -/
theorem occupants_pairwise {model : DataModel} {bit : Int} {members : List PlacedMember}
    (chain : ∀ before member after, members = before ++ member :: after →
      member.StartsAfter model (endOf model bit before)) :
    (occupants members).Pairwise fun first second => first.stop model ≤ second.start := by
  induction members generalizing bit with
  | nil => simp [occupants]
  | cons first rest ih =>
      cases empty : first.placement.isEmptyBase with
      | true =>
          have tail := @ih bit fun before member after decomposition => by
            simpa [endOf, occupants, empty] using
              chain (first :: before) member after (by simp [decomposition])
          simpa [occupants, empty] using tail
      | false =>
          have tail := @ih (max bit (first.stop model))
            fun before member after decomposition => by
              simpa [endOf, occupants, empty] using
                chain (first :: before) member after (by simp [decomposition])
          have head : ∀ second ∈ occupants rest, first.stop model ≤ second.start := by
            intro second mem
            obtain ⟨before, after, decomposition⟩ :=
              List.append_of_mem (List.mem_filter.mp mem).1
            have starts := chain (first :: before) second after (by simp [decomposition])
            exact le_trans (stop_le_endOf bit (by simp [occupants, empty])) starts.le
          simpa [occupants, empty] using And.intro head tail

end PlacedMember

namespace LayoutBuilder

def placeAll (builder : LayoutBuilder) :
    List Placement → List (Except LayoutFault (Option Int)) × LayoutBuilder
  | [] => ([], builder)
  | placement :: rest =>
    let (offset, after) := builder.place placement
    let (offsets, last) := after.placeAll rest
    (offset :: offsets, last)

/-- A builder outside a union whose placements end at a bit and demand an alignment. -/
structure IsAt (builder : LayoutBuilder) (model : DataModel) (bit align : Int) : Prop where
  model_eq : builder.model = model
  isUnion_eq : builder.isUnion = false
  offset_eq : builder.offset = some bit
  align_eq : builder.align = some align
  align_pos : 1 ≤ align

theorem fresh_isAt (model : DataModel) : IsAt { model } model 0 1 :=
  ⟨rfl, rfl, rfl, rfl, le_rfl⟩

/-! ## One placement -/

theorem placeField_isAt {builder : LayoutBuilder} {model : DataModel} {bit align size own : Int}
    (state : builder.IsAt model bit align) :
    (builder.placeField ⟨some size, some own⟩).1 = some (roundUp bit (own * bitsPerByte)) ∧
      (builder.placeField ⟨some size, some own⟩).2.IsAt model
        (roundUp bit (own * bitsPerByte) + size * bitsPerByte) (max align own) := by
  obtain ⟨model_eq, isUnion_eq, offset_eq, align_eq, align_pos⟩ := state
  constructor
  · simp [placeField, raiseAlign, isUnion_eq, offset_eq]
  · constructor <;>
      simp [placeField, raiseAlign, maxKnown, toBits, isUnion_eq, offset_eq, align_eq, model_eq]
    exact Or.inl align_pos

theorem le_bitfieldStart (bit width unit : Int) : bit ≤ bitfieldStart bit width unit := by
  unfold bitfieldStart
  split
  · exact Layout.le_roundUp bit unit
  · exact le_rfl

theorem placeBitfield_isAt {builder : LayoutBuilder} {model : DataModel}
    {bit align size own width : Int} (named : Bool) (state : builder.IsAt model bit align)
    (own_pos : 1 ≤ own) :
    ∃ start, bit ≤ start ∧
      (builder.placeBitfield ⟨some size, some own⟩ width named).1 = .ok (some start) ∧
      (builder.placeBitfield ⟨some size, some own⟩ width named).2.IsAt model (start + width)
        (if named then max align own else align) := by
  obtain ⟨model_eq, isUnion_eq, offset_eq, align_eq, align_pos⟩ := state
  have unit_ne : own * bitsPerByte ≠ 0 := by unfold bitsPerByte; omega
  by_cases closing : width = 0
  · subst closing
    refine ⟨roundUp bit (own * bitsPerByte), Layout.le_roundUp _ _, ?_, ?_⟩
    · cases named <;> simp [placeBitfield, raiseAlign, isUnion_eq, offset_eq]
    · cases named <;> constructor <;>
        simp [placeBitfield, raiseAlign, maxKnown, isUnion_eq, offset_eq, align_eq, model_eq,
          align_pos]
  · refine ⟨bitfieldStart bit width (own * bitsPerByte), le_bitfieldStart _ _ _, ?_, ?_⟩
    · cases named <;> simp [placeBitfield, raiseAlign, isUnion_eq, offset_eq, closing, unit_ne]
    · cases named <;> constructor <;>
        simp [placeBitfield, raiseAlign, maxKnown, isUnion_eq, offset_eq, align_eq, model_eq,
          align_pos, closing, unit_ne]

theorem placeBase_isAt {builder : LayoutBuilder} {model : DataModel} {bit align size own : Int}
    (state : builder.IsAt model bit align) :
    (builder.placeBase ⟨some size, some own⟩ true).1 = some (roundUp bit (own * bitsPerByte)) ∧
      (builder.placeBase ⟨some size, some own⟩ true).2.IsAt model bit (max align own) := by
  obtain ⟨model_eq, isUnion_eq, offset_eq, align_eq, align_pos⟩ := state
  constructor
  · simp [placeBase, isUnion_eq, offset_eq]
  · constructor <;>
      simp [placeBase, raiseAlign, maxKnown, isUnion_eq, offset_eq, align_eq, model_eq]
    exact Or.inl align_pos

theorem place_isAt {builder : LayoutBuilder} {model : DataModel} {bit align : Int}
    {placement : Placement} (state : builder.IsAt model bit align)
    (sound : placement.IsSound model) :
    ∃ start, (builder.place placement).1 = .ok (some start) ∧
      PlacedMember.StartsAfter model bit ⟨placement, start⟩ ∧
      (builder.place placement).2.IsAt model
        (if placement.isEmptyBase then bit else start + placement.extent model)
        ((placement.demands model).foldl max align) := by
  obtain ⟨⟨size, own, layout_eq, -, own_pos⟩, -⟩ := sound
  have least := Layout.roundUp_isLeast bit (show 1 ≤ own * bitsPerByte by
    unfold bitsPerByte; omega)
  rw [Int.mul_comm own] at least
  cases placement with
  | vptr =>
      have marked : ({ builder with hasData := true } : LayoutBuilder).IsAt model bit align :=
        ⟨state.1, state.2, state.3, state.4, state.5⟩
      have placed := @placeField_isAt _ _ _ _ size own marked
      simp only [Placement.layout] at layout_eq
      obtain rfl := state.model_eq
      refine ⟨roundUp bit (own * bitsPerByte), ?_, ?_, ?_⟩
      · simp [place, placeVptr, layout_eq, placed.1]
      · simpa [PlacedMember.StartsAfter, Placement.isBitfield, Placement.alignment,
          Placement.layout, layout_eq, Int.mul_comm own] using least
      · simpa [place, placeVptr, layout_eq, Placement.isEmptyBase,
          Placement.extent, Placement.demands, Placement.alignment, Placement.layout]
          using placed.2
  | base layout empty =>
      simp only [Placement.layout] at layout_eq
      subst layout_eq
      refine ⟨roundUp bit (own * bitsPerByte), ?_, ?_, ?_⟩
      · cases empty with
        | false => simp [place, placeBase, (placeField_isAt state).1]
        | true => simp [place, (placeBase_isAt state).1]
      · simpa [PlacedMember.StartsAfter, Placement.isBitfield, Placement.alignment,
          Placement.layout, Int.mul_comm own] using least
      · cases empty with
        | false =>
            simpa [place, placeBase, Placement.isEmptyBase, Placement.extent,
              Placement.demands, Placement.alignment, Placement.layout]
              using (placeField_isAt state).2
        | true =>
            simpa [place, Placement.isEmptyBase, Placement.demands, Placement.alignment,
              Placement.layout] using (placeBase_isAt state).2
  | field layout =>
      simp only [Placement.layout] at layout_eq
      subst layout_eq
      refine ⟨roundUp bit (own * bitsPerByte), ?_, ?_, ?_⟩
      · simp [place, (placeField_isAt state).1]
      · simpa [PlacedMember.StartsAfter, Placement.isBitfield, Placement.alignment,
          Placement.layout, Int.mul_comm own] using least
      · simpa [place, Placement.isEmptyBase, Placement.extent, Placement.demands,
          Placement.alignment, Placement.layout] using (placeField_isAt state).2
  | bitfield layout width named =>
      simp only [Placement.layout] at layout_eq
      subst layout_eq
      obtain ⟨start, after, offset, next⟩ :=
        @placeBitfield_isAt _ _ _ _ size own width named state own_pos
      refine ⟨start, offset, ?_, ?_⟩
      · simpa [PlacedMember.StartsAfter, Placement.isBitfield] using after
      · cases named <;>
          simpa [place, Placement.isEmptyBase, Placement.extent, Placement.demands,
            Placement.alignment, Placement.layout] using next
  | unresolved => simp [Placement.layout, Layout.unresolved] at layout_eq

/-! ## All placements -/

/-- What a run of placements keeps: members follow each other from the present end on, and
the builder holds their end and the greatest alignment. -/
theorem placeAll_isAt {builder : LayoutBuilder} {model : DataModel} {bit align : Int}
    (state : builder.IsAt model bit align) (placements : List Placement)
    (sound : ∀ placement ∈ placements, placement.IsSound model) :
    ∃ members : List PlacedMember,
      members.map (·.placement) = placements ∧
      (builder.placeAll placements).1 = members.map (fun member => .ok (some member.start)) ∧
      (∀ before member after, members = before ++ member :: after →
        member.StartsAfter model (PlacedMember.endOf model bit before)) ∧
      (builder.placeAll placements).2.IsAt model (PlacedMember.endOf model bit members)
        ((placements.flatMap (·.demands model)).foldl max align) := by
  induction placements generalizing builder bit align with
  | nil =>
      refine ⟨[], rfl, rfl, ?_, state⟩
      intro before member after decomposition
      simp at decomposition
  | cons placement rest ih =>
      obtain ⟨start, offset, follows, next⟩ := place_isAt state (sound placement (by simp))
      obtain ⟨members, placements_eq, offsets, chain, last⟩ :=
        ih next (fun other mem => sound other (by simp [mem]))
      have bound := follows.le
      have end_eq (others : List PlacedMember) :
          PlacedMember.endOf model bit (⟨placement, start⟩ :: others) =
            PlacedMember.endOf model
              (if placement.isEmptyBase then bit else start + placement.extent model) others := by
        cases empty : placement.isEmptyBase with
        | true => simp [PlacedMember.endOf, PlacedMember.occupants, empty]
        | false =>
            have extent_nonneg := (sound placement (by simp)).extent_nonneg
            have stop_ge : bit ≤ start + placement.extent model := by
              simp only at bound
              omega
            simp [PlacedMember.endOf, PlacedMember.occupants, PlacedMember.stop, empty,
              max_eq_right stop_ge]
      refine ⟨⟨placement, start⟩ :: members, ?_, ?_, ?_, ?_⟩
      · simp [placements_eq]
      · simp [placeAll, offset, offsets]
      · intro before member after decomposition
        cases before with
        | nil =>
            simp only [List.nil_append, List.cons.injEq] at decomposition
            obtain ⟨rfl, -⟩ := decomposition
            exact follows
        | cons first earlier =>
            simp only [List.cons_append, List.cons.injEq] at decomposition
            obtain ⟨rfl, decomposition⟩ := decomposition
            rw [end_eq]
            exact chain earlier member after decomposition
      · rw [end_eq]
        simpa [placeAll, List.flatMap_cons, List.foldl_append] using last

/-! ## The record -/

theorem IsAt.finish_eq {builder : LayoutBuilder} {model : DataModel} {bit align : Int}
    (state : builder.IsAt model bit align) :
    ∃ size, builder.finish = ⟨some size, some align⟩ ∧ bit ≤ bitsPerByte * size := by
  obtain ⟨-, isUnion_eq, offset_eq, align_eq, -⟩ := state
  refine ⟨max (roundUp ((bit + bitsPerByte - 1) / bitsPerByte) align) 1, ?_, ?_⟩
  · simp [finish, isUnion_eq, offset_eq, align_eq]
  · have rounded := Layout.le_roundUp ((bit + bitsPerByte - 1) / bitsPerByte) align
    have bounded := le_max_left (roundUp ((bit + bitsPerByte - 1) / bitsPerByte) align) 1
    unfold bitsPerByte at *
    omega

/-- The members of a record start one after the other, each as early as its alignment allows
unless it is a bit-field; their bits are disjoint and in order, and the record has room for
all of them and the greatest of their alignments. -/
theorem members_in_order (model : DataModel) (placements : List Placement)
    (sound : ∀ placement ∈ placements, placement.IsSound model) :
    ∃ (members : List PlacedMember) (size : Int),
      members.map (·.placement) = placements ∧
      (placeAll { model } placements).1 = members.map (fun member => .ok (some member.start)) ∧
      (∀ before member after, members = before ++ member :: after →
        member.StartsAfter model (PlacedMember.endOf model 0 before)) ∧
      (PlacedMember.occupants members).Pairwise
        (fun first second => first.stop model ≤ second.start) ∧
      (placeAll { model } placements).2.finish =
        ⟨some size, some ((placements.flatMap (·.demands model)).foldl max 1)⟩ ∧
      ∀ member ∈ PlacedMember.occupants members, member.stop model ≤ bitsPerByte * size := by
  obtain ⟨members, placements_eq, offsets, chain, last⟩ :=
    placeAll_isAt (fresh_isAt model) placements sound
  obtain ⟨size, finish_eq, room⟩ := last.finish_eq
  refine ⟨members, size, placements_eq, offsets, chain,
    PlacedMember.occupants_pairwise chain, finish_eq, ?_⟩
  intro member mem
  exact le_trans (PlacedMember.stop_le_endOf 0 mem) room

def mixedPlacements : List Placement :=
  [.vptr, .base ⟨some 1, some 4⟩ true, .bitfield ⟨some 4, some 4⟩ 3 true,
    .bitfield ⟨some 4, some 4⟩ 30 true, .bitfield ⟨some 8, some 8⟩ 0 false,
    .field ⟨some 1, some 1⟩, .base ⟨some 24, some 16⟩ false, .field ⟨some 0, some 2⟩]

theorem members_in_order_of_mixedPlacements :
    (∀ placement ∈ mixedPlacements, placement.IsSound .lp64) ∧
      ∃ members : List PlacedMember,
        members.map (·.placement) = mixedPlacements ∧
        members.map (·.start) = [0, 64, 64, 96, 128, 128, 256, 448] ∧
        (PlacedMember.occupants members).Pairwise
          (fun first second => first.stop .lp64 ≤ second.start) := by
  have sound : ∀ placement ∈ mixedPlacements, placement.IsSound .lp64 := by
    simp [mixedPlacements, Placement.IsSound, Placement.layout, Layout.IsSound,
      DataModel.pointer, DataModel.lp64, DataModel.ofSizes]
  obtain ⟨members, size, placements_eq, offsets, -, apart, -, -⟩ :=
    members_in_order .lp64 mixedPlacements sound
  refine ⟨sound, members, placements_eq, ?_, apart⟩
  have computed : (placeAll { model := .lp64 } mixedPlacements).1 =
      [0, 64, 64, 96, 128, 128, 256, 448].map (fun start => .ok (some start)) := by
    decide
  rw [computed] at offsets
  rw [← List.map_inj_right (f := fun start : Int =>
    (Except.ok (some start) : Except LayoutFault (Option Int))) (by simp), offsets, List.map_map]
  rfl

end LayoutBuilder

end TypeCatalog
