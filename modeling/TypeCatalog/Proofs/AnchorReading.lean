import TypeCatalog.Proofs.CanonicalName
import TypeCatalog.Proofs.LexemeReading

/-!
# Anchors can be read back

An anchor is a row of code points, each as it is or as an escape.  Only
escapes start with a hyphen, and the character after it tells how long an
escape is, so the first code point of an anchor can be read without looking
further.  Names with different normal forms therefore have different anchors,
and types with different names have different identities.
-/

namespace TypeCatalog

open Document
open Text

namespace Name

/-! ## Reading code points -/

def readEscape? (width : Nat) (text : CodeText) : Option (CodePoint × CodeText) := do
  let code ← hexNumber? (CodeText.toChars (text.take width))
  let point ← CodePoint.ofNat? code
  return (point, text.drop width)

def readPoint? : CodeText → Option (CodePoint × CodeText)
  | [] => none
  | .scalar '-' :: .scalar 'u' :: rest => readEscape? 4 rest
  | .scalar '-' :: .scalar 'U' :: rest => readEscape? 8 rest
  | .scalar '-' :: rest => readEscape? 2 rest
  | point :: rest => some (point, rest)

theorem readEscape?_hexDigits {width : Nat} {point : CodePoint} (small : point.value < 16 ^ width)
    (rest : CodeText) :
    readEscape? width (.ofChars (hexDigits width point.value) ++ rest) = some (point, rest) := by
  have length_eq : (CodeText.ofChars (hexDigits width point.value)).length = width := by
    simp [CodeText.ofChars, Yaml.length_hexDigits]
  simp [readEscape?, List.take_left' length_eq, List.drop_left' length_eq, toChars_ofChars,
    Yaml.hexNumber?_hexDigits width point.value small, Yaml.ofNat?_value]

theorem readPoint?_letter {point : CodePoint} (letter : point.isIn isAnchorLetter = true)
    (rest : CodeText) : readPoint? (point :: rest) = some (point, rest) := by
  have other : point ≠ .scalar '-' := by
    rintro rfl
    cases letter
  unfold readPoint?
  split <;> simp_all

/-- The first digit of the shortest escape is no mark of a longer one. -/
theorem readPoint?_byte (n : Nat) (rest : CodeText) :
    readPoint? (.ofChars ('-' :: hexDigits 2 n) ++ rest) =
      readEscape? 2 (.ofChars (hexDigits 2 n) ++ rest) := by
  have digit : ∀ d < 16, hexDigit d ≠ 'u' ∧ hexDigit d ≠ 'U' := by decide
  obtain ⟨short, long⟩ := digit (n / 16 % 16) (Nat.mod_lt _ (by decide))
  have digits_eq : hexDigits 2 n = [hexDigit (n / 16 % 16), hexDigit (n % 16)] := rfl
  rw [digits_eq]
  simp only [CodeText.ofChars, List.map_cons, List.map_nil, List.cons_append, List.nil_append]
  unfold readPoint?
  split <;> simp_all

theorem value_lt (point : CodePoint) : point.value < 16 ^ 8 := by
  cases point with
  | scalar c =>
      have valid : c.toNat < 0xd800 ∨ 0xdfff < c.toNat ∧ c.toNat < 0x110000 := c.valid
      simp only [CodePoint.value]
      omega
  | surrogate offset =>
      have := offset.isLt
      simp only [CodePoint.value]
      omega

theorem readPoint?_anchorPoint (point : CodePoint) (rest : CodeText) :
    readPoint? (anchorPoint point ++ rest) = some (point, rest) := by
  unfold anchorPoint
  dsimp only
  split
  · rename_i letter
    exact readPoint?_letter letter rest
  · split
    · rename_i small
      rw [readPoint?_byte]
      exact readEscape?_hexDigits (by omega) rest
    · split
      · rename_i small
        have four_digits : point.value < 16 ^ 4 := by omega
        exact readEscape?_hexDigits four_digits rest
      · exact readEscape?_hexDigits (value_lt point) rest

/-! ## Different anchors -/

theorem anchorText_injective {first second : CodeText}
    (same : first.flatMap anchorPoint = second.flatMap anchorPoint) : first = second := by
  induction first generalizing second with
  | nil =>
      rcases second with _ | ⟨point, rest⟩
      · rfl
      · have read := readPoint?_anchorPoint point (rest.flatMap anchorPoint)
        rw [← List.flatMap_cons, ← same] at read
        cases read
  | cons point rest ih =>
      have read := readPoint?_anchorPoint point (rest.flatMap anchorPoint)
      rw [← List.flatMap_cons, same] at read
      rcases second with _ | ⟨other, others⟩
      · cases read
      · rw [List.flatMap_cons, readPoint?_anchorPoint] at read
        obtain ⟨rfl, rest_eq⟩ : other = point ∧ others.flatMap anchorPoint =
            rest.flatMap anchorPoint := by simpa using read
        rw [ih rest_eq.symm]

theorem anchor_eq_iff {first second : CodeText} :
    anchor first = anchor second ↔ normalize first = normalize second :=
  ⟨anchorText_injective, fun same => by rw [anchor, anchor, same]⟩

end Name

/-! ## Identities -/

namespace Identities

theorem namedType_eq_iff {first second : CodeText} :
    namedType first = namedType second ↔ Name.normalize first = Name.normalize second := by
  rw [namedType, namedType, List.append_cancel_left_eq, Name.anchor_eq_iff]

theorem nameOf_named (identities : Identities) {name : CodeText} (proper : name ≠ []) :
    (identities.nameOf (some name)).1 = namedType name := by
  simp [nameOf, proper]

theorem nameOf_unnamed (identities : Identities) {name : Option CodeText}
    (unnamed : proper? name = none) :
    (identities.nameOf name).1 = unknownName (identities.ordinal + 1) := by
  rcases name with _ | name
  · rfl
  · obtain rfl : name = [] := by simpa [proper?, Option.filter] using unnamed
    rfl

/-- Names have one anchor exactly if they have one normal form, and an anchor consists of ASCII
letters, digits, low lines and hyphens.  So at any two times named types have one canonical name
exactly if their names have one normal form, and no type without a name shares it. -/
theorem anchor_shared_iff (first second : CodeText) :
    (Name.anchor first = Name.anchor second ↔ Name.normalize first = Name.normalize second) ∧
      (∃ chars, Name.anchor first = .ofChars chars ∧ ∀ c ∈ chars, isAnchorChar c = true) ∧
      ∀ early late : Identities, first ≠ [] →
        (second ≠ [] → ((early.nameOf (some first)).1 = (late.nameOf (some second)).1 ↔
          Name.normalize first = Name.normalize second)) ∧
        ∀ unnamed : Option CodeText, proper? unnamed = none →
          (late.nameOf unnamed).1 = unknownName (late.ordinal + 1) ∧
          (early.nameOf (some first)).1 ≠ (late.nameOf unnamed).1 := by
  refine ⟨Name.anchor_eq_iff, anchorText_eq _, fun early late proper => ⟨fun other => ?_,
    fun unnamed none_given => ?_⟩⟩
  · rw [nameOf_named early proper, nameOf_named late other, namedType_eq_iff]
  · have unknown := late.nameOf_unnamed none_given
    refine ⟨unknown, ?_⟩
    rw [nameOf_named early proper, unknown]
    exact namedType_ne_unknownName first _

theorem spacedShape_shares_anchor :
    let first : CodeText := " geo :: Shape<a-3a>"
    let second : CodeText := "geo::Shape<a-3a>"
    let early : Identities := {}
    let late := (early.nameOf none).2
    first ≠ [] ∧ second ≠ [] ∧ proper? none = none ∧ first ≠ second ∧
      (early.nameOf (some first)).1 = (late.nameOf (some second)).1 ∧
      (early.nameOf (some first)).1 ≠ (late.nameOf none).1 := by
  intro first second early late
  have first_proper : first ≠ [] := by decide +kernel
  have second_proper : second ≠ [] := by decide +kernel
  obtain ⟨-, -, shared⟩ := anchor_shared_iff first second
  obtain ⟨same, apart⟩ := shared early late first_proper
  exact ⟨first_proper, second_proper, rfl, by decide +kernel,
    (same second_proper).mpr (by decide +kernel), (apart none rfl).2⟩

end Identities

end TypeCatalog
