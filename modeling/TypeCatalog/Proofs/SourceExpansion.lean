import Mathlib.Data.List.Forall2
import TypeCatalog.Proofs.AliasDefinitions

/-!
# Expanding a source text line by line

A text is expanded one line at a time, and no line gains or loses a line end:
directives stay, and every other line is what the replacement of invocations
makes of it.  A text in which no tag macro is invoked is not even split; this
makes no difference.
-/

namespace TypeCatalog.Expansion

open Text

/-! ## Parts of a source text -/

theorem Occurs.of_line {names : List CodeText} {source line : CodeText}
    (mem : line ∈ splitOn (.scalar '\n') source) (occurs : Occurs names line) :
    Occurs names source := by
  obtain ⟨front, tail, joined, ends⟩ := exists_of_mem_joinWith (CodePoint.scalar '\n') mem
  rw [joinWith_splitOn] at joined
  rw [joined]
  refine occurs.within front tail ?_
  cases last : front.getLast? with
  | none => rfl
  | some c =>
      rw [ends c last]
      decide

theorem Occurs.of_body {names : List CodeText} {line name body : CodeText}
    (defines : Defines line name body) (occurs : Occurs names body) : Occurs names line := by
  obtain ⟨indent, margin, gap, inside, space, trail, blank, -, proper, rfl⟩ := defines.spelled
  obtain ⟨last, ends⟩ : ∃ last, space.getLast? = some last :=
    ⟨_, List.getLast?_eq_some_getLast proper⟩
  have apart : last.isWordChar = false :=
    isWordChar_of_isBlank (blank space (by simp) last (List.mem_of_getLast? ends))
  have within := occurs.within (indent ++ .scalar '#' :: (margin ++ (("define" : CodeText) ++
    (gap ++ (name ++ .scalar '(' :: (inside ++ .scalar ')' :: space)))))) trail
    (by simp [List.getLast?_append, List.getLast?_cons, ends, apart])
  simpa using within

theorem rewritten_of_free {names : List CodeText} {previous : Option CodePoint} {text : CodeText}
    (free : hasInvocation names previous text = false) : Rewritten names [] previous text text := by
  induction text generalizing previous with
  | nil => exact .nil
  | cons c rest ih =>
      rw [hasInvocation, Bool.or_eq_false_iff, Option.isSome_eq_false_iff,
        Option.isNone_iff_eq_none, invocation?_eq_none_iff] at free
      exact .keep free.1 (by simp [IsFree]) (ih free.2)

theorem Rewritten.flat {tags : List CodeText} {bodies : List (CodeText × CodeText)}
    {previous : Option CodePoint} {text expanded : CodeText}
    (rewritten : Rewritten tags bodies previous text expanded)
    (text_flat : .scalar '\n' ∉ text) (bodies_flat : ∀ entry ∈ bodies, .scalar '\n' ∉ entry.2) :
    .scalar '\n' ∉ expanded := by
  induction rewritten with
  | nil => exact text_flat
  | keep _ _ _ ih => simp_all
  | unclosed => exact text_flat
  | replace _ _ standing _ ih =>
      simp only [List.mem_append, List.mem_cons, not_or] at text_flat ⊢
      obtain ⟨-, -, -, arguments_flat, -, after_flat⟩ := text_flat
      refine ⟨?_, ih after_flat⟩
      cases standing with
      | body mem => exact bodies_flat _ mem
      | tag =>
          simp only [List.mem_append, not_or, arguments_flat, not_false_eq_true, and_true]
          decide

/-! ## Lines of the expanded text -/

inductive Becomes (tags : List CodeText) (bodies : List (CodeText × CodeText)) (line : CodeText) :
    CodeText → Prop
  | directive : isDirective line = true → Becomes tags bodies line line
  | rewritten {expanded : CodeText} : isDirective line = false →
      Rewritten tags bodies none line expanded → Becomes tags bodies line expanded

theorem Becomes.flat {tags : List CodeText} {bodies : List (CodeText × CodeText)}
    {line expanded : CodeText} (becomes : Becomes tags bodies line expanded)
    (line_flat : .scalar '\n' ∉ line) (bodies_flat : ∀ entry ∈ bodies, .scalar '\n' ∉ entry.2) :
    .scalar '\n' ∉ expanded := by
  cases becomes with
  | directive => exact line_flat
  | rewritten _ rewritten => exact rewritten.flat line_flat bodies_flat

theorem flat_of_becomes {tags : List CodeText} {bodies : List (CodeText × CodeText)}
    {lines outcome : List CodeText} (becomes : List.Forall₂ (Becomes tags bodies) lines outcome)
    (lines_flat : ∀ line ∈ lines, .scalar '\n' ∉ line)
    (bodies_flat : ∀ entry ∈ bodies, .scalar '\n' ∉ entry.2) :
    ∀ line ∈ outcome, .scalar '\n' ∉ line := by
  induction becomes with
  | nil => simp
  | cons first _ ih =>
      rw [List.forall_mem_cons] at lines_flat ⊢
      exact ⟨first.flat lines_flat.1 bodies_flat, ih lines_flat.2⟩

theorem Macros.Holds.becomes {macros : Macros} {tags : List CodeText}
    {bodies : List (CodeText × CodeText)} (holds : macros.Holds tags bodies)
    (lines : List CodeText) :
    List.Forall₂ (Becomes tags bodies) lines (expandLines macros lines).1 := by
  induction lines with
  | nil => exact .nil
  | cons line rest ih =>
      rw [expandLines]
      refine .cons ?_ ih
      cases directive : isDirective line with
      | true => exact .directive directive
      | false => exact .rewritten directive (holds.rewritten none line)

theorem holds_collected {names lines : List CodeText} {bodies : List (CodeText × CodeText)}
    (collects : Collects names lines bodies) :
    Macros.Holds { tags := byLength names,
                   bodies := bodies.mergeSort fun a b => b.1.length ≤ a.1.length }
      names bodies where
  tags_mem _ := mem_byLength
  bodies_mem _ := List.mem_mergeSort
  tags_sorted := isSorted_byLength names
  bodies_sorted := isSorted_mergeSort (·.1) bodies
  distinct := ((List.mergeSort_perm _ _).map _).nodup_iff.mpr collects.distinct

theorem Collects.flat {names lines : List CodeText} {bodies : List (CodeText × CodeText)}
    (collects : Collects names lines bodies) (lines_flat : ∀ line ∈ lines, .scalar '\n' ∉ line) :
    ∀ entry ∈ bodies, .scalar '\n' ∉ entry.2 := by
  rintro ⟨name, body⟩ mem
  obtain ⟨before, line, after, own, rfl, ⟨defines, -⟩, rewritten, -⟩ :=
    collects.origin name body mem
  obtain ⟨indent, margin, gap, inside, space, trail, -, -, -, line_eq⟩ := defines.spelled
  refine rewritten.flat (fun within => lines_flat line (by simp) ?_) (by simp)
  simp [line_eq, within]

theorem becomes_of_free {names : List CodeText} {source : CodeText} (free : ¬Occurs names source) :
    Collects names (splitOn (.scalar '\n') source) [] ∧
      ∀ line ∈ splitOn (.scalar '\n') source, Becomes names [] line line := by
  refine ⟨⟨List.nodup_nil, by simp, fun name known => ?_⟩, fun line mem => ?_⟩
  · obtain ⟨line, mem, body, defines, occurs⟩ := known
    exact absurd ((occurs.of_body defines).of_line mem) free
  · cases directive : isDirective line with
    | true => exact .directive directive
    | false =>
        refine .rewritten directive (rewritten_of_free ?_)
        rw [Bool.eq_false_iff, ne_eq, hasInvocation_eq_true_iff]
        exact fun occurs => free (occurs.of_line mem)

theorem exists_becomes (names : List CodeText) (source : CodeText) :
    ∃ bodies, Collects names (splitOn (.scalar '\n') source) bodies ∧
      List.Forall₂ (Becomes names bodies) (splitOn (.scalar '\n') source)
        (splitOn (.scalar '\n') (expand names source).1) := by
  have lines_flat : ∀ line ∈ splitOn (.scalar '\n') source, .scalar '\n' ∉ line :=
    fun _ mem => notMem_of_mem_splitOn mem
  by_cases occurs : Occurs names source
  · have tagged := hasInvocation_byLength.mpr occurs
    have collects : Collects names (splitOn (.scalar '\n') source) _ :=
      Collects.nil.collectBodies _
    have becomes := (holds_collected collects).becomes (splitOn (.scalar '\n') source)
    have apart := flat_of_becomes becomes lines_flat (collects.flat lines_flat)
    have length_eq := becomes.length_eq
    rw [length_splitOn] at length_eq
    have proper := List.ne_nil_of_length_pos (Nat.lt_of_lt_of_eq (Nat.succ_pos _) length_eq)
    rw [← splitOn_joinWith apart proper] at becomes
    refine ⟨_, collects, ?_⟩
    simp only [expand, tagged, if_true]
    exact becomes
  · have untagged : hasInvocation (byLength names) none source = false := by
      rw [Bool.eq_false_iff, ne_eq, hasInvocation_byLength]
      exact occurs
    obtain ⟨collects, stays⟩ := becomes_of_free occurs
    refine ⟨[], collects, ?_⟩
    simp only [expand, untagged, Bool.false_eq_true, if_false]
    exact List.forall₂_same.mpr stays

/-- The expanded text has as many line ends, and every line of it is what becomes of the line with
the same number: directives stay, and in other lines invocations up to their closing parentheses
give way to the attribute or to what their alias stands for. -/
theorem expand_keeps_lines (names : List CodeText) (source : CodeText) :
    (expand names source).1.count (.scalar '\n') = source.count (.scalar '\n') ∧
      ∃ bodies, Collects names (splitOn (.scalar '\n') source) bodies ∧
        List.Forall₂ (Becomes names bodies) (splitOn (.scalar '\n') source)
          (splitOn (.scalar '\n') (expand names source).1) := by
  obtain ⟨bodies, collects, becomes⟩ := exists_becomes names source
  have length_eq := becomes.length_eq
  rw [length_splitOn, length_splitOn] at length_eq
  exact ⟨by omega, bodies, collects, becomes⟩

/-- A digit separator is taken for the mark of a literal, and the group is closed by the
parenthesis inside the next literal. -/
theorem expand_separatedDigits :
    (expand defaultNames "COMPEX_TAG(1'0) char c = ')';").1 =
        "[[compex::tag(1'0) char c = ')]]';" ∧
      (expand defaultNames "COMPEX_TAG(1'0) char c = ')';").1 ≠
        "[[compex::tag(1'0)]] char c = ')';" := by
  decide +kernel

end TypeCatalog.Expansion
