import Mathlib.Data.List.Permutation
import TypeCatalog.Layout.DataModel
import TypeCatalog.Proofs.TextParts
import TypeCatalog.Proofs.WrittenScalar

/-!
# The order of specifiers

The specifiers of a builtin type may stand in any order.  Of all spellings that
a data model knows only `long double` loses its meaning when its words change
places; every other one has a single word that decides, or twice the same.
-/

namespace TypeCatalog

open Text

/-! ## Words -/

namespace Text

structure IsWholeWord (word : CodeText) : Prop where
  proper : word ≠ []
  visible : ∀ c ∈ word, c.isBlank = false

theorem isWholeWord_of_mem_words {text word : CodeText} (mem : word ∈ words text) :
    IsWholeWord word := by
  obtain ⟨piece, proper⟩ := List.mem_filter.mp mem
  exact ⟨by simpa using proper, eq_false_of_mem_splitBy piece⟩

theorem words_joinWith {pieces : List CodeText} (each : ∀ piece ∈ pieces, IsWholeWord piece) :
    words (joinWith " " pieces) = pieces := by
  induction pieces with
  | nil => rfl
  | cons piece rest ih =>
      obtain ⟨first, others⟩ := List.forall_mem_cons.mp each
      have kept : piece.isEmpty = false := by simp [first.proper]
      cases rest with
      | nil =>
          rw [joinWith, words, splitBy_eq, List.splitOnP_eq_singleton first.visible]
          simp [kept]
      | cons next rest =>
          have space : (" " : CodeText) = [.scalar ' '] := rfl
          rw [joinWith, words, splitBy_eq, space, List.append_assoc, List.singleton_append,
            List.splitOnP_append_cons_of_forall_mem first.visible _ rfl, ← splitBy_eq,
            List.filter_cons, kept]
          exact congrArg (piece :: ·) (ih others)

theorem replace_of_free {needle replacement text : CodeText} (free : ¬ needle <:+: text) :
    replace needle replacement text = text := by
  rw [replace]
  induction text with
  | nil => rfl
  | cons c rest ih =>
      rw [List.infix_cons_iff, not_or] at free
      rw [replaceFrom, if_neg (by simpa using free.1), ih free.2]

end Text

/-! ## Specifiers that decide -/

namespace Builtin

def specifiers (spelling : CodeText) : List CodeText :=
  let parts := tokens spelling
  if parts.contains "long" || parts.contains "short" then parts.erase "int" else parts

theorem canonical_eq (spelling : CodeText) :
    canonical spelling =
      if (tokens spelling).isEmpty then CodeText.ofString "int"
      else joinWith " " (specifiers spelling) := rfl

theorem tokens_of_plain {spelling : CodeText} (plain : ¬ ("::" : CodeText) <:+: spelling) :
    tokens spelling = (words spelling).filter (!qualifiers.contains ·) := by
  have standard : ¬ ("std::" : CodeText) <:+: spelling := fun found =>
    plain (.trans ⟨"std", [], rfl⟩ found)
  rw [tokens, replace_of_free standard, replace_of_free plain]

theorem specifiers_perm {first second : CodeText} (perm : (tokens first).Perm (tokens second)) :
    (specifiers first).Perm (specifiers second) := by
  simp only [specifiers, List.contains_eq_mem, perm.mem_iff]
  split
  · exact perm.erase _
  · exact perm

theorem specifiers_whole {spelling : CodeText} : ∀ word ∈ specifiers spelling, IsWholeWord word := by
  intro word mem
  have token : word ∈ tokens spelling := by
    unfold specifiers at mem
    dsimp only at mem
    split at mem
    · exact List.mem_of_mem_erase mem
    · exact mem
  exact isWholeWord_of_mem_words (List.mem_filter.mp token).1

end Builtin

/-! ## Spellings that a data model knows -/

namespace DataModel

def twoLong : List CodeText := ["long", "long"]

def longDouble : List CodeText := ["long", "double"]

theorem sizes_words : ∀ model ∈ all, ∀ entry ∈ model.sizes,
    (words entry.1).length = 1 ∨ words entry.1 = twoLong ∨ words entry.1 = longDouble := by
  decide +kernel

theorem words_of_builtin? {model : DataModel} (listed : model ∈ all) {canonical : CodeText}
    {layout : Layout} (found : model.builtin? canonical = some layout) :
    (words canonical).length = 1 ∨ words canonical = twoLong ∨ words canonical = longDouble := by
  simp only [builtin?, Option.bind_eq_bind, Option.bind_eq_some_iff] at found
  obtain ⟨name, name_eq, size, size_eq, -⟩ := found
  obtain ⟨chars, chars_eq, rfl⟩ := Option.map_eq_some_iff.mp name_eq
  obtain ⟨before, after, sizes_eq, -⟩ := List.lookup_eq_some_iff.mp size_eq
  have known := sizes_words model listed (String.ofList chars, size) (by simp [sizes_eq])
  rwa [CodeText.ofString, String.toList_ofList, ← Yaml.eq_ofChars_of_chars? chars_eq] at known

end DataModel

namespace Builtin

variable {model : DataModel} {first second : CodeText}

/-- A spelling that a model knows has one deciding word, or two of which only `long double` can
change places. -/
theorem specifiers_of_known (listed : model ∈ DataModel.all) {layout : Layout}
    (found : model.builtin? (canonical first) = some layout) (some : tokens first ≠ []) :
    (specifiers first).length = 1 ∨ specifiers first = DataModel.twoLong ∨
      specifiers first = DataModel.longDouble := by
  have known := DataModel.words_of_builtin? listed found
  rw [canonical_eq, if_neg (by simpa using some), words_joinWith specifiers_whole] at known
  exact known

/-- Two spellings have `long` and `double` for their deciding words, in different order. -/
def Exchanged (first second : CodeText) : Prop :=
  canonical first = "long double" ∧ canonical second = "double long"

/-- A permutation of the words of a known spelling decides alike, or exchanges the two words
`long double`. -/
theorem canonical_eq_or_exchanged (listed : model ∈ DataModel.all) {layout : Layout}
    (perm : (tokens first).Perm (tokens second))
    (found : model.builtin? (canonical first) = some layout) :
    canonical second = canonical first ∨ Exchanged first second := by
  by_cases nothing : tokens first = []
  · have other : tokens second = [] := by simpa [nothing] using perm
    simp [canonical_eq, nothing, other]
  have something : tokens second ≠ [] := fun other => nothing (by simpa [other] using perm)
  have first_eq : canonical first = joinWith " " (specifiers first) := by
    rw [canonical_eq, if_neg (by simpa using nothing)]
  have second_eq : canonical second = joinWith " " (specifiers second) := by
    rw [canonical_eq, if_neg (by simpa using something)]
  have order : specifiers second ∈ (specifiers first).permutations' :=
    List.mem_permutations'.mpr (specifiers_perm perm).symm
  rw [Exchanged, first_eq, second_eq]
  rcases specifiers_of_known listed found nothing with single | twice | pair
  · obtain ⟨word, word_eq⟩ := List.length_eq_one_iff.mp single
    rw [word_eq] at order ⊢
    exact .inl (congrArg _ (List.mem_singleton.mp order))
  · have orders : ∀ words ∈ DataModel.twoLong.permutations', words = DataModel.twoLong := by
      decide +kernel
    rw [twice] at order ⊢
    exact .inl (congrArg _ (orders _ order))
  · have orders : ∀ words ∈ DataModel.longDouble.permutations',
        words = DataModel.longDouble ∨ joinWith " " words = "double long" := by
      decide +kernel
    rw [pair] at order ⊢
    exact (orders _ order).imp (congrArg _) fun exchanged => ⟨rfl, exchanged⟩

theorem builtin?_of_exchanged (listed : model ∈ DataModel.all)
    (exchanged : Exchanged first second) :
    model.builtin? (canonical first) ≠ model.builtin? (canonical second) := by
  have apart : ∀ model ∈ DataModel.all,
      model.builtin? "long double" ≠ model.builtin? "double long" := by decide +kernel
  rw [exchanged.1, exchanged.2]
  exact apart model listed

/-- Two spellings with the same words in any order are the same builtin type, or none, in every
data model; only `long` and `double` are known in one order alone. -/
theorem builtin?_eq_iff_not_exchanged (listed : model ∈ DataModel.all)
    (plain : ¬ ("::" : CodeText) <:+: first) (other : ¬ ("::" : CodeText) <:+: second)
    (perm : (words first).Perm (words second)) :
    model.builtin? (canonical first) = model.builtin? (canonical second) ↔
      ¬ (Exchanged first second ∨ Exchanged second first) := by
  have tokens_perm : (tokens first).Perm (tokens second) := by
    rw [tokens_of_plain plain, tokens_of_plain other]
    exact perm.filter _
  constructor
  · rintro same (exchanged | exchanged)
    · exact builtin?_of_exchanged listed exchanged same
    · exact builtin?_of_exchanged listed exchanged same.symm
  · intro kept
    rw [not_or] at kept
    rcases found : model.builtin? (canonical first) with _ | layout
    · rcases other_found : model.builtin? (canonical second) with _ | layout
      · rfl
      · have same := canonical_eq_or_exchanged listed tokens_perm.symm other_found
        rw [same.resolve_right kept.2, other_found] at found
        cases found
    · have same := canonical_eq_or_exchanged listed tokens_perm found
      rw [same.resolve_right kept.1, found]

theorem shuffledLong_known :
    (words "int long unsigned long").Perm (words "unsigned\tlong long int") ∧
      DataModel.ilp32.builtin? (canonical "unsigned\tlong long int") = some ⟨some 8, some 4⟩ ∧
      DataModel.ilp32.builtin? (canonical "int long unsigned long") =
        DataModel.ilp32.builtin? (canonical "unsigned\tlong long int") := by
  have perm : (words "int long unsigned long").Perm (words "unsigned\tlong long int") := by
    decide +kernel
  have kept : ¬ (Exchanged "int long unsigned long" "unsigned\tlong long int" ∨
      Exchanged "unsigned\tlong long int" "int long unsigned long") := by
    simp only [Exchanged]
    decide +kernel
  refine ⟨perm, by decide +kernel, ?_⟩
  exact (builtin?_eq_iff_not_exchanged (by decide) (by decide +kernel) (by decide +kernel)
    perm).mpr kept

/-- The words of `long double` in the other order are no builtin type. -/
theorem exchangedDouble_unknown :
    (words "const double long").Perm (words "long double const") ∧
      DataModel.lp64.builtin? (canonical "long double const") = some ⟨some 16, some 16⟩ ∧
      DataModel.lp64.builtin? (canonical "const double long") = none := by
  decide +kernel

end Builtin

end TypeCatalog
