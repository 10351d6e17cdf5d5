import TypeCatalog.Identities
import TypeCatalog.Proofs.DocumentTree

/-!
# Canonical names are anchors

The canonical name of a type consists of letters, digits, low lines and
hyphens, whatever its declared name is.
-/

namespace TypeCatalog

open Document
open Text

theorem isAnchorChar_hexDigit {n : Nat} (digit : n < 16) : isAnchorChar (hexDigit n) = true := by
  decide +revert

theorem isAnchorChar_of_mem_hexDigits {width n : Nat} {c : Char} (mem : c ∈ hexDigits width n) :
    isAnchorChar c = true := by
  induction width generalizing n with
  | zero => simp [hexDigits] at mem
  | succ width ih =>
      rcases List.mem_append.mp mem with mem | mem
      · exact ih mem
      · rw [List.mem_singleton.mp mem]
        exact isAnchorChar_hexDigit (Nat.mod_lt n (by decide))

theorem anchorPoint_eq (point : CodePoint) :
    ∃ chars, Name.anchorPoint point = CodeText.ofChars chars ∧
      ∀ c ∈ chars, isAnchorChar c = true := by
  unfold Name.anchorPoint
  dsimp only
  split
  · rename_i plain
    cases point with
    | surrogate offset => simp [CodePoint.isIn] at plain
    | scalar c =>
        refine ⟨[c], rfl, ?_⟩
        simp only [CodePoint.isIn, Name.isAnchorLetter, Bool.or_eq_true, beq_iff_eq] at plain
        rcases plain with plain | rfl <;> simp [isAnchorChar, *]
  · have escaped (mark : List Char) (width : Nat) (marks : ∀ c ∈ mark, isAnchorChar c = true) :
        ∀ c ∈ mark ++ hexDigits width point.value, isAnchorChar c = true := by
      intro c mem
      rcases List.mem_append.mp mem with mem | mem
      · exact marks c mem
      · exact isAnchorChar_of_mem_hexDigits mem
    split
    · exact ⟨_, rfl, escaped ['-'] 2 (List.all_eq_true.mp (by decide))⟩
    · split
      · exact ⟨_, rfl, escaped ['-', 'u'] 4 (List.all_eq_true.mp (by decide))⟩
      · exact ⟨_, rfl, escaped ['-', 'U'] 8 (List.all_eq_true.mp (by decide))⟩

theorem anchorText_eq (text : CodeText) :
    ∃ chars, text.flatMap Name.anchorPoint = CodeText.ofChars chars ∧
      ∀ c ∈ chars, isAnchorChar c = true := by
  induction text with
  | nil => exact ⟨[], rfl, by simp⟩
  | cons point rest ih =>
      obtain ⟨first, first_eq, first_all⟩ := anchorPoint_eq point
      obtain ⟨others, others_eq, others_all⟩ := ih
      refine ⟨first ++ others, ?_, ?_⟩
      · rw [List.flatMap_cons, first_eq, others_eq]
        simp [CodeText.ofChars]
      · intro c mem
        rcases List.mem_append.mp mem with mem | mem
        · exact first_all c mem
        · exact others_all c mem

theorem isAnchor_namedType (name : CodeText) : IsAnchor (Identities.namedType name) := by
  obtain ⟨chars, chars_eq, all⟩ := anchorText_eq (Name.normalize name)
  refine ⟨'s' :: '_' :: chars, ?_, by simp, ?_⟩
  · rw [Identities.namedType, Name.anchor, chars_eq]
    rfl
  · intro c mem
    simp only [List.mem_cons] at mem
    rcases mem with rfl | rfl | mem
    · rfl
    · rfl
    · exact all c mem

def unknownName (ordinal : Nat) : CodeText :=
  "unknown_" ++ Nat.repr ordinal

theorem isAnchor_unknownName (ordinal : Nat) : IsAnchor (unknownName ordinal) := by
  refine ⟨"unknown_".toList ++ Nat.toDigits 10 ordinal, ?_, by simp, ?_⟩
  · simp [unknownName, CodeText.ofString, CodeText.ofChars]
  · intro c mem
    rcases List.mem_append.mp mem with mem | mem
    · have letters : ∀ letter ∈ "unknown_".toList, isAnchorChar letter = true :=
        List.all_eq_true.mp (by decide)
      exact letters c mem
    · have digit := Nat.isDigit_of_mem_toDigits (by decide) (by decide) mem
      simp [isAnchorChar, Char.isAlphanum, digit]

theorem namedType_ne_unknownName (name : CodeText) (ordinal : Nat) :
    Identities.namedType name ≠ unknownName ordinal := by
  intro same
  have first := congrArg List.head? same
  simp [Identities.namedType, unknownName, CodeText.ofString, CodeText.ofChars] at first

end TypeCatalog
