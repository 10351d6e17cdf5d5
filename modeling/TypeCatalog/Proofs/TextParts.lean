import Mathlib.Data.List.DropRight
import Mathlib.Data.List.TakeWhile
import TypeCatalog.Text.Blank
import TypeCatalog.Text.WordChar

/-!
# Blanks and pieces of texts

Blanks belong to no word, and taking them off leaves what stands between them.
The pieces between separators are joined to the text that they were split from,
and pieces without a separator are split off again from what they are joined to.
-/

namespace TypeCatalog.Text

/-! ## Blanks and words -/

def blankPoints : List Nat :=
  List.range' 0x09 5 ++ List.range' 0x1c 5 ++ [0x85, 0xa0, 0x1680] ++ List.range' 0x2000 11 ++
    [0x2028, 0x2029, 0x202f, 0x205f, 0x3000]

theorem mem_blankPoints {c : Char} (blank : isBlank c = true) : c.toNat ∈ blankPoints := by
  simp only [isBlank, Bool.or_eq_true, Bool.and_eq_true, decide_eq_true_eq, beq_iff_eq]
    at blank
  simp only [blankPoints, List.mem_append, List.mem_range'_1, List.mem_cons, List.not_mem_nil,
    or_false]
  omega

theorem isWordChar_of_isBlank {c : CodePoint} (blank : c.isBlank = true) :
    c.isWordChar = false := by
  cases c with
  | surrogate => rfl
  | scalar c =>
      have apart : ∀ n ∈ blankPoints, Text.isWordChar (Char.ofNat n) = false := by decide +kernel
      have word := apart c.toNat (mem_blankPoints blank)
      rwa [Char.ofNat_toNat] at word

theorem visible_of_isWordChar {c : CodePoint} (word : c.isWordChar = true) : c.isBlank = false := by
  cases blank : c.isBlank with
  | false => rfl
  | true => rw [isWordChar_of_isBlank blank] at word; cases word

theorem isWordChar_of_isNameStart {c : CodePoint}
    (start : c.isIn (fun c => c.isAlpha || c == '_') = true) : c.isWordChar = true := by
  cases c with
  | surrogate => cases start
  | scalar c =>
      rcases (Bool.or_eq_true _ _).mp start with letter | underscore
      · have ascii : c.toNat < 128 := by
          rcases (Bool.or_eq_true _ _).mp letter with upper | lower
          · have within : c.val ≥ 'A'.val ∧ c.val ≤ 'Z'.val := of_decide_eq_true upper
            exact Nat.lt_of_le_of_lt within.2 (by decide)
          · have within : c.val ≤ 'z'.val := of_decide_eq_true (Bool.and_eq_true_iff.mp lower).2
            exact Nat.lt_of_le_of_lt within (by decide)
        simp only [CodePoint.isWordChar, CodePoint.isIn, Text.isWordChar, ascii, if_true,
          Char.isAlphanum, letter, Bool.true_or]
      · rw [beq_iff_eq.mp underscore]
        decide

/-! ## Blanks at the ends of a text -/

theorem trimLeft_visible {c : CodePoint} (visible : c.isBlank = false) (rest : CodeText) :
    trimLeft (c :: rest) = c :: rest :=
  List.dropWhile_cons_of_neg (by simp [visible])

theorem trimLeft_append {blanks : CodeText} (blank : ∀ c ∈ blanks, c.isBlank = true)
    (rest : CodeText) : trimLeft (blanks ++ rest) = trimLeft rest :=
  List.dropWhile_append_of_pos blank

theorem trimLeft_blanks {blanks : CodeText} (blank : ∀ c ∈ blanks, c.isBlank = true)
    {c : CodePoint} (visible : c.isBlank = false) (rest : CodeText) :
    trimLeft (blanks ++ c :: rest) = c :: rest :=
  (trimLeft_append blank _).trans (trimLeft_visible visible rest)

theorem exists_blanks (text : CodeText) :
    ∃ blanks : CodeText, (∀ c ∈ blanks, c.isBlank = true) ∧ text = blanks ++ trimLeft text :=
  ⟨text.takeWhile CodePoint.isBlank, fun _ mem => List.mem_takeWhile_imp mem,
    List.takeWhile_append_dropWhile.symm⟩

theorem trimLeft_eq_cons {text rest : CodeText} {c : CodePoint}
    (trimmed : trimLeft text = c :: rest) : c.isBlank = false := by
  have head := List.head?_dropWhile_not CodePoint.isBlank text
  rw [← trimLeft, trimmed] at head
  exact head

theorem exists_trail (text : CodeText) :
    ∃ trail : CodeText, (∀ c ∈ trail, c.isBlank = true) ∧ text = trimRight text ++ trail := by
  obtain ⟨blanks, blank, reverse_eq⟩ := exists_blanks text.reverse
  refine ⟨blanks.reverse, fun c mem => blank c (List.mem_reverse.mp mem), ?_⟩
  rw [← List.reverse_inj, reverse_eq, trimRight]
  simp [trimLeft]

theorem trimRight_eq_concat {text : CodeText} {last : CodePoint}
    (ends : (trimRight text).getLast? = some last) : last.isBlank = false := by
  rw [trimRight, List.getLast?_reverse] at ends
  obtain ⟨rest, trimmed⟩ := List.head?_eq_some_iff.mp ends
  exact trimLeft_eq_cons trimmed

theorem trimRight_append {body trail : CodeText} {last : CodePoint}
    (ends : body.getLast? = some last) (visible : last.isBlank = false)
    (blank : ∀ c ∈ trail, c.isBlank = true) : trimRight (body ++ trail) = body := by
  obtain ⟨init, rfl⟩ := List.getLast?_eq_some_iff.mp ends
  rw [trimRight, List.reverse_append,
    List.dropWhile_append_of_pos fun c mem => blank c (List.mem_reverse.mp mem)]
  simp [visible]

theorem exists_visible_ends {text : CodeText} (trimmed : trimLeft text = text)
    (proper : trimRight text ≠ []) :
    (∃ first, (trimRight text).head? = some first ∧ first.isBlank = false) ∧
      ∃ last, (trimRight text).getLast? = some last ∧ last.isBlank = false := by
  obtain ⟨trail, -, text_eq⟩ := exists_trail text
  obtain ⟨first, more, body_eq⟩ := List.exists_cons_of_ne_nil proper
  have ends := List.getLast?_eq_some_getLast proper
  rw [text_eq, body_eq, List.cons_append] at trimmed
  exact ⟨⟨first, by rw [body_eq, List.head?_cons], trimLeft_eq_cons trimmed⟩, _, ends,
    trimRight_eq_concat ends⟩

theorem trim_of_visible {text : CodeText} (visible : ∀ c ∈ text, c.isBlank = false) :
    trim text = text := by
  cases text with
  | nil => rfl
  | cons c rest =>
      have ends := List.getLast?_eq_some_getLast (List.cons_ne_nil c rest)
      have trimmed : trimRight (c :: rest ++ []) = c :: rest :=
        trimRight_append ends (visible _ (List.getLast_mem _)) (by simp)
      rw [List.append_nil] at trimmed
      rw [trim, trimLeft_visible (visible c List.mem_cons_self), trimmed]

/-! ## Parts of a text -/

theorem hasInfix_iff {α : Type} [BEq α] [LawfulBEq α] {needle text : List α} :
    hasInfix needle text = true ↔ needle <:+: text := by
  induction text with
  | nil => simp [hasInfix]
  | cons c rest ih =>
      rw [hasInfix, Bool.or_eq_true, ih, List.isPrefixOf_iff_prefix, List.infix_cons_iff]

/-! ## Pieces between separators -/

section

variable {α : Type} [DecidableEq α] {separator : α}

omit [DecidableEq α] in
theorem splitBy_eq (isSeparator : α → Bool) (text : List α) :
    splitBy isSeparator text = text.splitOnP isSeparator := by
  induction text with
  | nil => rfl
  | cons c rest ih =>
      rw [splitBy, ih, List.splitOnP_cons_eq_if_modifyHead]
      obtain ⟨piece, others, pieces_eq⟩ :=
        List.exists_cons_of_ne_nil (List.splitOnP_ne_nil isSeparator rest)
      rw [pieces_eq]
      rfl

theorem splitOn_eq (separator : α) (text : List α) :
    splitOn separator text = text.splitOn separator := by
  rw [splitOn, splitBy_eq, List.splitOn_eq_splitOnP]

omit [DecidableEq α] in
theorem joinWith_eq (separator : List α) (pieces : List (List α)) :
    joinWith separator pieces = separator.intercalate pieces := by
  induction pieces with
  | nil => rfl
  | cons piece rest ih =>
      cases rest with
      | nil => simp [joinWith]
      | cons next rest => simp [joinWith, ih, List.intercalate]

omit [DecidableEq α] in
theorem joinWith_append (separator : List α) (before : List (List α)) {parts : List (List α)}
    (proper : parts ≠ []) :
    joinWith separator (before ++ parts) =
      if before = [] then joinWith separator parts
      else joinWith separator before ++ separator ++ joinWith separator parts := by
  match before with
  | [] => simp
  | [piece] =>
      obtain ⟨next, rest, rfl⟩ := List.exists_cons_of_ne_nil proper
      simp [joinWith]
  | piece :: next :: rest =>
      have ih := joinWith_append separator (next :: rest) proper
      simp_all [joinWith]

theorem joinWith_splitOn (separator : α) (text : List α) :
    joinWith [separator] (splitOn separator text) = text := by
  rw [joinWith_eq, splitOn_eq, List.intercalate_splitOn]

theorem splitOn_joinWith {pieces : List (List α)} (apart : ∀ piece ∈ pieces, separator ∉ piece)
    (proper : pieces ≠ []) : splitOn separator (joinWith [separator] pieces) = pieces := by
  rw [joinWith_eq, splitOn_eq, List.splitOn_intercalate _ apart proper]

omit [DecidableEq α] in
theorem eq_false_of_mem_splitBy {isSeparator : α → Bool} {text piece : List α}
    (mem : piece ∈ splitBy isSeparator text) : ∀ c ∈ piece, isSeparator c = false := by
  rw [splitBy_eq] at mem
  induction text generalizing piece with
  | nil => simp_all
  | cons c rest ih =>
      obtain ⟨first, others, pieces_eq⟩ :=
        List.exists_cons_of_ne_nil (List.splitOnP_ne_nil isSeparator rest)
      rw [List.splitOnP_cons_eq_if_modifyHead, pieces_eq] at mem
      rw [pieces_eq] at ih
      split at mem
      case isTrue =>
        rcases List.mem_cons.mp mem with rfl | mem
        · simp
        · exact ih mem
      case isFalse other =>
        rcases List.mem_cons.mp mem with rfl | mem
        · exact List.forall_mem_cons.mpr ⟨Bool.eq_false_iff.mpr other, ih List.mem_cons_self⟩
        · exact ih (List.mem_cons_of_mem _ mem)

theorem notMem_of_mem_splitOn {text piece : List α} (mem : piece ∈ splitOn separator text) :
    separator ∉ piece := by
  intro held
  have apart := eq_false_of_mem_splitBy mem separator held
  rw [beq_self_eq_true] at apart
  cases apart

theorem length_splitOn (separator : α) (text : List α) :
    (splitOn separator text).length = text.count separator + 1 := by
  rw [splitOn_eq]
  induction text with
  | nil => rfl
  | cons c rest ih =>
      rw [List.splitOn_cons_eq_if_modifyHead, List.count_cons]
      split <;> simp [ih]

omit [DecidableEq α] in
theorem exists_of_mem_joinWith (separator : α) {pieces : List (List α)} {piece : List α}
    (mem : piece ∈ pieces) :
    ∃ front tail, joinWith [separator] pieces = front ++ piece ++ tail ∧
      ∀ c ∈ front.getLast?, c = separator := by
  induction pieces with
  | nil => cases mem
  | cons first rest ih =>
      cases rest with
      | nil =>
          obtain rfl := List.mem_singleton.mp mem
          exact ⟨[], [], by simp [joinWith], by simp⟩
      | cons next rest =>
          rcases List.mem_cons.mp mem with rfl | mem
          · refine ⟨[], separator :: joinWith [separator] (next :: rest), ?_, by simp⟩
            simp [joinWith]
          · obtain ⟨front, tail, joined, ends⟩ := ih mem
            refine ⟨first ++ separator :: front, tail, by simp [joinWith, joined], fun c last => ?_⟩
            rw [List.getLast?_append, List.getLast?_cons] at last
            cases found : front.getLast? with
            | none => simp_all
            | some d =>
                have same := ends d found
                simp_all

end

end TypeCatalog.Text
