import Mathlib.Algebra.Group.Int.Defs
import TypeCatalog.Proofs.FaultCauses
import TypeCatalog.Proofs.MemberReading

/-!
# Alignments stay powers of two

The builtin types of every data model are aligned to a power of two of at most
16 bytes, and arrays, synonyms, enumerations, bases and records only hand
alignments on.  So a table of types stays sound whatever is read, the unit of a
bit-field always has bits, and a session ends early only over a node.
-/

namespace TypeCatalog

open Text (CodeText)

/-! ## Alignments -/

/-- A power of two from 1 to 16. -/
def IsAlignment (align : Int) : Prop :=
  ∃ exponent : Nat, exponent ≤ 4 ∧ align = 2 ^ exponent

instance (align : Int) : Decidable (IsAlignment align) :=
  inferInstanceAs (Decidable (∃ exponent : Nat, exponent ≤ 4 ∧ align = 2 ^ exponent))

theorem IsAlignment.pos {align : Int} (aligned : IsAlignment align) : 0 < align := by
  obtain ⟨exponent, -, rfl⟩ := aligned
  exact Int.pow_pos (by decide)

theorem IsAlignment.max {first second : Int} (aligned : IsAlignment first)
    (other : IsAlignment second) : IsAlignment (max first second) := by
  rw [Int.max_def]
  split
  · exact other
  · exact aligned

def KnownAlignment (align : Option Int) : Prop :=
  ∀ known, align = some known → IsAlignment known

theorem KnownAlignment.none : KnownAlignment none :=
  fun _ found => nomatch found

theorem KnownAlignment.maxKnown {first second : Option Int} (aligned : KnownAlignment first)
    (other : KnownAlignment second) : KnownAlignment (LayoutBuilder.maxKnown first second) := by
  intro known found
  unfold LayoutBuilder.maxKnown at found
  split at found
  · cases found
    exact (aligned _ rfl).max (other _ rfl)
  · cases found

abbrev Layout.IsAligned (layout : Layout) : Prop :=
  KnownAlignment layout.align

theorem Layout.IsAligned.array {element : Layout} (aligned : element.IsAligned)
    (count : Option Int) : (element.array count).IsAligned := by
  unfold Layout.array
  split <;> exact aligned

/-! ## Data models -/

theorem DataModel.sizes_aligned : ∀ model ∈ all, ∀ entry ∈ model.sizes,
    IsAlignment ((model.aligns.lookup entry.1).getD entry.2) := by
  decide

theorem DataModel.builtin?_aligned {model : DataModel} (listed : model ∈ all)
    {canonical : CodeText} {layout : Layout} (found : model.builtin? canonical = some layout) :
    layout.IsAligned := by
  simp only [builtin?, Option.bind_eq_bind, Option.bind_eq_some_iff] at found
  obtain ⟨name, -, size, size_eq, layout_eq⟩ := found
  cases layout_eq
  rintro align align_eq
  cases align_eq
  obtain ⟨before, after, sizes_eq, -⟩ := List.lookup_eq_some_iff.mp size_eq
  exact sizes_aligned model listed (name, size) (by simp [sizes_eq])

theorem DataModel.pointer_aligned {model : DataModel} (listed : model ∈ all) :
    model.pointer.IsAligned := by
  have each : ∀ model ∈ all, IsAlignment model.pointerSize := by decide
  rintro align align_eq
  cases align_eq
  exact each model listed

/-! ## Tables -/

structure KnownType.IsSound (entry : KnownType) : Prop where
  aligned : entry.layout.IsAligned
  sized : entry.kind = .record → ∀ size, entry.layout.size = some size → 1 ≤ size

structure KnownTypes.IsSound (table : KnownTypes) : Prop where
  model : table.model ∈ DataModel.all
  entries : ∀ pair ∈ table.entries, pair.2.IsSound

namespace KnownTypes.IsSound

variable {table : KnownTypes}

theorem find? (sound : table.IsSound) {key : CodeText} {entry : KnownType}
    (found : table.find? key = some entry) : entry.IsSound := by
  obtain ⟨before, after, entries_eq, -⟩ := List.lookup_eq_some_iff.mp found
  exact sound.entries (key, entry) (by simp [entries_eq])

theorem lookup (sound : table.IsSound) {name : CodeText} {scope : List CodeText}
    {entry : KnownType} (found : table.lookup name scope = some entry) : entry.IsSound := by
  unfold KnownTypes.lookup at found
  dsimp only at found
  split at found
  · exact sound.find? found
  · obtain ⟨key, -, found⟩ := List.exists_of_findSome?_eq_some found
    exact sound.find? found

theorem builtin?_getD (sound : table.IsSound) (spelling : CodeText) :
    ((table.builtin? spelling).getD .unresolved).IsAligned := by
  rcases found : table.builtin? spelling with _ | layout
  · exact KnownAlignment.none
  · exact DataModel.builtin?_aligned sound.model found

theorem resolve (sound : table.IsSound) (spelling : CodeText) (scope : List CodeText) :
    (table.resolve spelling scope).1.IsAligned ∧
      ∀ entry, (table.resolve spelling scope).2 = some entry → entry.IsSound := by
  unfold KnownTypes.resolve
  split
  · rename_i entry found
    have known := sound.lookup found
    exact ⟨known.aligned, fun other same => Option.some.inj same ▸ known⟩
  · exact ⟨sound.builtin?_getD spelling, fun _ found => nomatch found⟩

theorem define (sound : table.IsSound) {entry : KnownType} (entered : entry.IsSound) :
    (table.define entry).IsSound := by
  unfold KnownTypes.define
  split
  · exact sound
  · refine ⟨sound.model, fun pair listed => ?_⟩
    rcases List.mem_cons.mp listed with rfl | older
    · exact entered
    · exact sound.entries pair (List.mem_filter.mp older).1

end KnownTypes.IsSound

/-! ## Builders -/

namespace LayoutBuilder

variable {builder : LayoutBuilder} {layout : Layout}

abbrev IsAligned (builder : LayoutBuilder) : Prop :=
  KnownAlignment builder.align

theorem IsAligned.placeField (aligned : builder.IsAligned) (placed : layout.IsAligned) :
    (builder.placeField layout).2.IsAligned := by
  have raised := aligned.maxKnown placed
  unfold LayoutBuilder.placeField
  dsimp only
  split
  · exact raised
  split <;> exact raised

theorem IsAligned.placeBase (aligned : builder.IsAligned) (placed : layout.IsAligned)
    (empty : Bool) : (builder.placeBase layout empty).2.IsAligned := by
  unfold LayoutBuilder.placeBase
  split
  · split
    · exact aligned.maxKnown placed
    · exact aligned.placeField placed
  · exact aligned.placeField placed

theorem IsAligned.placeVptr (aligned : builder.IsAligned) (listed : builder.model ∈ DataModel.all) :
    builder.placeVptr.2.IsAligned :=
  IsAligned.placeField aligned (DataModel.pointer_aligned listed)

/-- A bit-field of an aligned type is always placed: its unit has bits. -/
theorem IsAligned.placeBitfield (aligned : builder.IsAligned) (placed : layout.IsAligned)
    (width : Int) (named : Bool) :
    (∃ offset, (builder.placeBitfield layout width named).1 = .ok offset) ∧
      (builder.placeBitfield layout width named).2.IsAligned := by
  have raised : KnownAlignment (if named then builder.raiseAlign layout.align else builder).align := by
    cases named
    · exact aligned
    · exact aligned.maxKnown placed
  unfold LayoutBuilder.placeBitfield
  dsimp only
  generalize (if named then builder.raiseAlign layout.align else builder) = known at raised
  split
  · rename_i size align
    split
    · exact ⟨⟨_, rfl⟩, raised⟩
    split
    · exact ⟨⟨_, rfl⟩, raised⟩
    split
    · exact ⟨⟨_, rfl⟩, raised⟩
    split
    · rename_i unit
      have positive := (placed align rfl).pos
      simp only [Layout.bitsPerByte, beq_iff_eq] at unit
      omega
    · exact ⟨⟨_, rfl⟩, raised⟩
  · exact ⟨⟨_, rfl⟩, raised⟩

theorem IsAligned.finish (aligned : builder.IsAligned) : builder.finish.IsAligned := by
  unfold LayoutBuilder.finish
  split
  · exact KnownAlignment.none
  · rename_i align_eq _
    rintro align ⟨⟩
    exact aligned _ align_eq
  · rename_i align_eq _
    rintro align ⟨⟩
    exact aligned _ align_eq

theorem one_le_finish (builder : LayoutBuilder) (size : Int)
    (found : builder.finish.size = some size) : 1 ≤ size := by
  unfold LayoutBuilder.finish at found
  split at found
  · cases found
  · cases found
  · cases found
    exact Int.le_max_right _ _

theorem IsAligned.foldl {α : Type} {items : List α} {place : LayoutBuilder → α → LayoutBuilder}
    (each : ∀ item ∈ items, ∀ builder : LayoutBuilder, builder.IsAligned →
      (place builder item).IsAligned) (aligned : builder.IsAligned) :
    (items.foldl place builder).IsAligned := by
  induction items generalizing builder with
  | nil => exact aligned
  | cons item rest ih =>
      obtain ⟨first, others⟩ := List.forall_mem_cons.mp each
      exact ih others (first builder aligned)

end LayoutBuilder

end TypeCatalog
