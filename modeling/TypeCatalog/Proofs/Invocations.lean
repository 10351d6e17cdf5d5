import Mathlib.Data.List.Basic
import Mathlib.Data.List.Nodup
import TypeCatalog.Proofs.Parentheses
import TypeCatalog.Proofs.TextParts

/-!
# Invocations and the text that they leave

A name is invoked at a word boundary where blanks and an opening parenthesis
follow it.  Expanding a line goes from left to right: a character at which no
macro is invoked stays, an invocation gives way to what stands for it, and
after one that is not closed everything stays.
-/

namespace TypeCatalog.Expansion

open Text

/-! ## Invocations of a name -/

/-- A text starts with an invocation of a name; `opened` stands behind the parenthesis. -/
structure Invokes (previous : Option CodePoint) (text name opened : CodeText) : Prop where
  boundary : isBoundary previous text.head? = true
  spelled : ∃ blanks : CodeText, (∀ c ∈ blanks, c.isBlank = true) ∧
    text = name ++ (blanks ++ .scalar '(' :: opened)

theorem afterOpening?_eq_some_iff {name text opened : CodeText} :
    afterOpening? name text = some opened ↔
      ∃ blanks : CodeText, (∀ c ∈ blanks, c.isBlank = true) ∧
        text = name ++ (blanks ++ .scalar '(' :: opened) := by
  constructor
  · intro found
    rw [afterOpening?] at found
    split at found
    case isFalse => cases found
    case isTrue starts =>
      obtain ⟨rest, rfl⟩ := List.isPrefixOf_iff_prefix.mp starts
      rw [List.drop_left] at found
      obtain ⟨blanks, blank, rest_eq⟩ := exists_blanks rest
      split at found
      case h_1 opening =>
        cases found
        exact ⟨blanks, blank, by rw [← opening, ← rest_eq]⟩
      case h_2 => cases found
  · rintro ⟨blanks, blank, rfl⟩
    have starts : name.isPrefixOf (name ++ (blanks ++ .scalar '(' :: opened)) = true :=
      List.isPrefixOf_iff_prefix.mpr (List.prefix_append _ _)
    rw [afterOpening?, if_pos starts, List.drop_left]
    simp only [trimLeft_blanks blank (c := .scalar '(') (by decide)]

theorem invokes_iff {previous : Option CodePoint} {text name opened : CodeText} :
    Invokes previous text name opened ↔
      isBoundary previous text.head? = true ∧ afterOpening? name text = some opened := by
  rw [afterOpening?_eq_some_iff]
  exact ⟨fun invokes => ⟨invokes.boundary, invokes.spelled⟩, fun ⟨boundary, spelled⟩ =>
    ⟨boundary, spelled⟩⟩

namespace Invokes

variable {previous : Option CodePoint} {text name opened : CodeText}

theorem opened_unique (invokes : Invokes previous text name opened) {behind : CodeText}
    (again : Invokes previous text name behind) : opened = behind :=
  Option.some.inj ((invokes_iff.mp invokes).2.symm.trans (invokes_iff.mp again).2)

theorem name_unique (invokes : Invokes previous text name opened) {other behind : CodeText}
    (again : Invokes previous text other behind) (length_eq : name.length = other.length) :
    name = other := by
  obtain ⟨blanks, -, text_eq⟩ := invokes.spelled
  obtain ⟨others, -, text_eq'⟩ := again.spelled
  exact List.append_inj_left (text_eq.symm.trans text_eq') length_eq

theorem ne_nil (invokes : Invokes previous text name opened) : text ≠ [] := by
  obtain ⟨blanks, -, rfl⟩ := invokes.spelled
  simp

/-- An invocation stays one in a longer text where the character before it is as much part of a
word. -/
theorem extend (invokes : Invokes previous text name opened) {before : Option CodePoint}
    (alike : before.any CodePoint.isWordChar = previous.any CodePoint.isWordChar)
    (tail : CodeText) : Invokes before (text ++ tail) name (opened ++ tail) := by
  have head_eq : (text ++ tail).head? = text.head? := List.head?_append_of_ne_nil _ invokes.ne_nil
  obtain ⟨blanks, blank, text_eq⟩ := invokes.spelled
  refine ⟨?_, blanks, blank, by simp [text_eq]⟩
  have boundary := invokes.boundary
  rwa [isBoundary, ← alike, ← head_eq] at boundary

end Invokes

/-! ## The invocation that is taken -/

def IsFree (names : List CodeText) (previous : Option CodePoint) (text : CodeText) : Prop :=
  ∀ name ∈ names, ∀ opened, ¬Invokes previous text name opened

structure Leads (names : List CodeText) (previous : Option CodePoint)
    (text name opened : CodeText) : Prop where
  mem : name ∈ names
  invokes : Invokes previous text name opened
  longest : ∀ other ∈ names, ∀ behind, Invokes previous text other behind →
    other.length ≤ name.length

theorem Leads.unique {names : List CodeText} {previous : Option CodePoint}
    {text name other opened behind : CodeText} (leads : Leads names previous text name opened)
    (again : Leads names previous text other behind) : name = other ∧ opened = behind := by
  obtain rfl := leads.invokes.name_unique again.invokes
    (Nat.le_antisymm (again.longest _ leads.mem _ leads.invokes)
      (leads.longest _ again.mem _ again.invokes))
  exact ⟨rfl, leads.invokes.opened_unique again.invokes⟩

def IsSorted (names : List CodeText) : Prop :=
  names.Pairwise fun name other => other.length ≤ name.length

theorem invocation?_eq_none_iff {names : List CodeText} {previous : Option CodePoint}
    {text : CodeText} : invocation? names previous text = none ↔ IsFree names previous text := by
  rw [invocation?]
  split
  case isFalse inside => simp [IsFree, invokes_iff, inside]
  case isTrue boundary =>
    simp only [List.findSome?_eq_none_iff, Option.map_eq_none_iff, IsFree, invokes_iff, boundary,
      true_and, ← ne_eq, ← Option.eq_none_iff_forall_ne_some]

theorem invocation?_eq_some_iff {names : List CodeText} (sorted : IsSorted names)
    {previous : Option CodePoint} {text name opened : CodeText} :
    invocation? names previous text = some (name, opened) ↔
      Leads names previous text name opened := by
  have leads_of_some {name opened : CodeText}
      (found : invocation? names previous text = some (name, opened)) :
      Leads names previous text name opened := by
    rw [invocation?] at found
    split at found
    case isFalse => cases found
    case isTrue boundary =>
      obtain ⟨passed, chosen, left, rfl, read, earlier⟩ := List.findSome?_eq_some_iff.mp found
      obtain ⟨_, opening, same⟩ := Option.map_eq_some_iff.mp read
      cases same
      refine ⟨by simp, invokes_iff.mpr ⟨boundary, opening⟩, fun other mem behind invokes => ?_⟩
      rcases List.mem_append.mp mem with mem | mem
      · have free := earlier other mem
        rw [(invokes_iff.mp invokes).2] at free
        cases free
      · rcases List.mem_cons.mp mem with rfl | mem
        · exact Nat.le_refl _
        · exact (List.pairwise_cons.mp (List.pairwise_append.mp sorted).2.1).1 other mem
  refine ⟨leads_of_some, fun leads => ?_⟩
  cases found : invocation? names previous text with
  | none => exact absurd leads.invokes (invocation?_eq_none_iff.mp found _ leads.mem _)
  | some taken =>
      obtain ⟨name_eq, opened_eq⟩ := (leads_of_some found).unique leads
      rw [← name_eq, ← opened_eq]

theorem mem_byLength {names : List CodeText} {name : CodeText} :
    name ∈ byLength names ↔ name ∈ names :=
  List.mem_mergeSort

theorem isSorted_mergeSort {α : Type} (name : α → CodeText) (entries : List α) :
    IsSorted ((entries.mergeSort fun a b => (name b).length ≤ (name a).length).map name) := by
  have sorted : (entries.mergeSort fun a b => (name b).length ≤ (name a).length).Pairwise
      fun a b => decide ((name b).length ≤ (name a).length) = true :=
    List.pairwise_mergeSort (fun _ _ _ first second => by simp_all; omega)
      (fun _ _ => by simp; omega) entries
  exact List.pairwise_map.mpr (sorted.imp of_decide_eq_true)

theorem isSorted_byLength (names : List CodeText) : IsSorted (byLength names) :=
  List.map_id (byLength names) ▸ isSorted_mergeSort id names

/-! ## Occurrences -/

def Occurs (names : List CodeText) (text : CodeText) : Prop :=
  ∃ before after, text = before ++ after ∧
    ∃ name ∈ names, ∃ opened, Invokes before.getLast? after name opened

theorem not_isFree_iff {names : List CodeText} {previous : Option CodePoint} {text : CodeText} :
    ¬IsFree names previous text ↔ ∃ name ∈ names, ∃ opened, Invokes previous text name opened := by
  simp [IsFree]

theorem getLast?_cons_or (c : CodePoint) (before : CodeText) (previous : Option CodePoint) :
    (c :: before).getLast?.or previous = before.getLast?.or (some c) := by
  rw [List.getLast?_cons]
  cases before.getLast? <;> rfl

theorem hasInvocation_eq_true_iff_from {names : List CodeText} {previous : Option CodePoint}
    {text : CodeText} :
    hasInvocation names previous text = true ↔
      ∃ before after, text = before ++ after ∧
        ¬IsFree names (before.getLast?.or previous) after := by
  have isSome_iff {previous : Option CodePoint} {text : CodeText} :
      (invocation? names previous text).isSome = true ↔ ¬IsFree names previous text := by
    rw [← invocation?_eq_none_iff, ← ne_eq, Option.isSome_iff_ne_none]
  induction text generalizing previous with
  | nil =>
      rw [hasInvocation, isSome_iff]
      constructor
      · exact fun invoked => ⟨[], [], rfl, invoked⟩
      · rintro ⟨before, after, text_eq, invoked⟩
        obtain ⟨rfl, rfl⟩ := List.append_eq_nil_iff.mp text_eq.symm
        exact invoked
  | cons c rest ih =>
      simp only [hasInvocation, Bool.or_eq_true, isSome_iff, ih]
      constructor
      · rintro (invoked | ⟨before, after, rfl, invoked⟩)
        · exact ⟨[], c :: rest, rfl, invoked⟩
        · exact ⟨c :: before, after, rfl, by rwa [getLast?_cons_or]⟩
      · rintro ⟨before, after, text_eq, invoked⟩
        cases before with
        | nil => exact .inl (by rwa [text_eq])
        | cons first before =>
            obtain ⟨rfl, rfl⟩ := List.cons.inj text_eq
            exact .inr ⟨before, after, rfl, by rwa [getLast?_cons_or] at invoked⟩

theorem hasInvocation_eq_true_iff {names : List CodeText} {text : CodeText} :
    hasInvocation names none text = true ↔ Occurs names text := by
  simp only [hasInvocation_eq_true_iff_from, Option.or_none, not_isFree_iff, Occurs]

/-- An invocation in a part of a text is one in the text, unless the part starts within a word. -/
theorem Occurs.within {names : List CodeText} {part : CodeText} (occurs : Occurs names part)
    (front tail : CodeText) (apart : front.getLast?.any CodePoint.isWordChar = false) :
    Occurs names (front ++ part ++ tail) := by
  obtain ⟨before, after, rfl, name, mem, opened, invokes⟩ := occurs
  refine ⟨front ++ before, after ++ tail, by simp, name, mem, opened ++ tail,
    invokes.extend ?_ tail⟩
  rw [List.getLast?_append]
  cases before.getLast? with
  | none => exact apart
  | some c => rfl

/-! ## Replacing invocations -/

/-- The invocation that is replaced: one of a tag macro if there is one, and else one of a macro
with a body. -/
inductive Selects (tags : List CodeText) (bodies : List (CodeText × CodeText))
    (previous : Option CodePoint) (text name opened : CodeText) : Prop
  | tag : Leads tags previous text name opened → Selects tags bodies previous text name opened
  | body : IsFree tags previous text → Leads (bodies.map (·.1)) previous text name opened →
      Selects tags bodies previous text name opened

inductive StandsFor (bodies : List (CodeText × CodeText)) (name arguments : CodeText) :
    CodeText → Prop
  | body {body : CodeText} : (name, body) ∈ bodies → StandsFor bodies name arguments body
  | tag : name ∉ bodies.map (·.1) →
      StandsFor bodies name arguments ("[[" ++ tagAttribute ++ "(" ++ arguments ++ ")]]")

inductive Rewritten (tags : List CodeText) (bodies : List (CodeText × CodeText)) :
    Option CodePoint → CodeText → CodeText → Prop
  | nil {previous : Option CodePoint} : Rewritten tags bodies previous [] []
  | keep {previous : Option CodePoint} {c : CodePoint} {rest expanded : CodeText} :
      IsFree tags previous (c :: rest) → IsFree (bodies.map (·.1)) previous (c :: rest) →
      Rewritten tags bodies (some c) rest expanded →
      Rewritten tags bodies previous (c :: rest) (c :: expanded)
  | unclosed {previous : Option CodePoint} {text name opened : CodeText} :
      Selects tags bodies previous text name opened →
      (∀ inside after, Enclosed inside → opened ≠ inside ++ .scalar ')' :: after) →
      Rewritten tags bodies previous text text
  | replace {previous : Option CodePoint}
      {name blanks arguments after standing expanded : CodeText} :
      Selects tags bodies previous
        (name ++ (blanks ++ .scalar '(' :: (arguments ++ .scalar ')' :: after))) name
        (arguments ++ .scalar ')' :: after) →
      Enclosed arguments → StandsFor bodies name arguments standing →
      Rewritten tags bodies (some ')') after expanded →
      Rewritten tags bodies previous
        (name ++ (blanks ++ .scalar '(' :: (arguments ++ .scalar ')' :: after)))
        (standing ++ expanded)

theorem Leads.congr {names others : List CodeText} (same : ∀ name, name ∈ names ↔ name ∈ others)
    {previous : Option CodePoint} {text name opened : CodeText} :
    Leads names previous text name opened ↔ Leads others previous text name opened := by
  constructor
  · rintro ⟨mem, invokes, longest⟩
    exact ⟨(same name).mp mem, invokes, fun other mem => longest other ((same other).mpr mem)⟩
  · rintro ⟨mem, invokes, longest⟩
    exact ⟨(same name).mpr mem, invokes, fun other mem => longest other ((same other).mp mem)⟩

theorem IsFree.congr {names others : List CodeText} (same : ∀ name, name ∈ names ↔ name ∈ others)
    {previous : Option CodePoint} {text : CodeText} :
    IsFree names previous text ↔ IsFree others previous text := by
  simp [IsFree, same]

theorem Selects.invokes {tags : List CodeText} {bodies : List (CodeText × CodeText)}
    {previous : Option CodePoint} {text name opened : CodeText}
    (selects : Selects tags bodies previous text name opened) :
    Invokes previous text name opened := by
  cases selects with
  | tag leads => exact leads.invokes
  | body _ leads => exact leads.invokes

namespace Macros

structure Holds (macros : Macros) (tags : List CodeText) (bodies : List (CodeText × CodeText)) :
    Prop where
  tags_mem : ∀ name, name ∈ macros.tags ↔ name ∈ tags
  bodies_mem : ∀ entry, entry ∈ macros.bodies ↔ entry ∈ bodies
  tags_sorted : IsSorted macros.tags
  bodies_sorted : IsSorted (macros.bodies.map (·.1))
  distinct : (macros.bodies.map (·.1)).Nodup

section

variable {macros : Macros} {tags : List CodeText} {bodies : List (CodeText × CodeText)}
  (holds : macros.Holds tags bodies)

include holds

theorem Holds.keys_mem (name : CodeText) :
    name ∈ macros.bodies.map (·.1) ↔ name ∈ bodies.map (·.1) := by
  simp [holds.bodies_mem]

theorem Holds.invocation?_eq_none_iff {previous : Option CodePoint} {text : CodeText} :
    macros.invocation? previous text = none ↔
      IsFree tags previous text ∧ IsFree (bodies.map (·.1)) previous text := by
  rw [invocation?, Option.or_eq_none_iff, Expansion.invocation?_eq_none_iff,
    Expansion.invocation?_eq_none_iff, IsFree.congr holds.tags_mem, IsFree.congr holds.keys_mem]

theorem Holds.invocation?_eq_some_iff {previous : Option CodePoint} {text name opened : CodeText} :
    macros.invocation? previous text = some (name, opened) ↔
      Selects tags bodies previous text name opened := by
  rw [invocation?, Option.or_eq_some_iff, Expansion.invocation?_eq_none_iff,
    Expansion.invocation?_eq_some_iff holds.tags_sorted,
    Expansion.invocation?_eq_some_iff holds.bodies_sorted, IsFree.congr holds.tags_mem,
    Leads.congr holds.tags_mem, Leads.congr holds.keys_mem]
  constructor
  · rintro (leads | ⟨free, leads⟩)
    · exact .tag leads
    · exact .body free leads
  · rintro (leads | ⟨free, leads⟩)
    · exact .inl leads
    · exact .inr ⟨free, leads⟩

theorem Holds.replacement_eq_iff {name arguments standing : CodeText} :
    macros.replacement name arguments = standing ↔ StandsFor bodies name arguments standing := by
  rw [replacement]
  cases found : macros.bodies.lookup name with
  | some body =>
      obtain ⟨before, after, bodies_eq, -⟩ := List.lookup_eq_some_iff.mp found
      have mem : (name, body) ∈ macros.bodies := by simp [bodies_eq]
      constructor
      · rintro rfl
        exact .body ((holds.bodies_mem _).mp mem)
      · rintro (own | absent)
        · exact congrArg Prod.snd
            (List.inj_on_of_nodup_map holds.distinct mem ((holds.bodies_mem _).mpr own) rfl)
        · exact absurd ((holds.keys_mem name).mp (List.mem_map_of_mem mem)) absent
  | none =>
      have absent : name ∉ macros.bodies.map (·.1) := by
        intro mem
        obtain ⟨entry, held, rfl⟩ := List.mem_map.mp mem
        simpa using List.lookup_eq_none_iff.mp found entry held
      constructor
      · rintro rfl
        exact .tag fun mem => absent ((holds.keys_mem name).mpr mem)
      · rintro (own | -)
        · exact absurd (List.mem_map_of_mem ((holds.bodies_mem _).mpr own)) absent
        · rfl

end

theorem expandFrom_skip (macros : Macros) (front after : CodeText) (previous : Option CodePoint) :
    macros.expandFrom front.length previous (front ++ after) =
      macros.expandFrom 0 (front.getLast?.or previous) after := by
  induction front generalizing previous with
  | nil => rfl
  | cons c front ih =>
      rw [getLast?_cons_or, ← ih]
      rfl

theorem expandFrom_free {macros : Macros} {previous : Option CodePoint} {c : CodePoint}
    {rest : CodeText} (free : macros.invocation? previous (c :: rest) = none) :
    (macros.expandFrom 0 previous (c :: rest)).1 = c :: (macros.expandFrom 0 (some c) rest).1 := by
  simp only [expandFrom, free]

theorem expandFrom_unclosed {macros : Macros} {previous : Option CodePoint}
    {text name opened : CodeText} (found : macros.invocation? previous text = some (name, opened))
    (unclosed : closeParen 1 none opened = none) :
    (macros.expandFrom 0 previous text).1 = text := by
  cases text with
  | nil => rfl
  | cons c rest => simp only [expandFrom, found, unclosed]

theorem expandFrom_closed {macros : Macros} {previous : Option CodePoint}
    {front name opened arguments after : CodeText}
    (found : macros.invocation? previous (front ++ after) = some (name, opened))
    (closed : closeParen 1 none opened = some (arguments, after))
    (ends : front.getLast? = some (.scalar ')')) :
    (macros.expandFrom 0 previous (front ++ after)).1 =
      macros.replacement name arguments ++ (macros.expandFrom 0 (some ')') after).1 := by
  cases front with
  | nil => cases ends
  | cons c front =>
      have length_eq : (front ++ after).length - after.length = front.length := by simp
      have last : front.getLast?.or (some c) = some (.scalar ')') := by
        rw [← getLast?_cons_or c front none, Option.or_none, ends]
      rw [List.cons_append] at found ⊢
      simp only [expandFrom, found, closed, length_eq, expandFrom_skip, last]

section

variable {macros : Macros} {tags : List CodeText} {bodies : List (CodeText × CodeText)}
  (holds : macros.Holds tags bodies)

include holds

/-- What an invocation spans up to its closing parenthesis is replaced. -/
theorem Holds.expandFrom_replaced {previous : Option CodePoint}
    {name blanks arguments after : CodeText}
    (selects : Selects tags bodies previous
      (name ++ (blanks ++ .scalar '(' :: (arguments ++ .scalar ')' :: after))) name
      (arguments ++ .scalar ')' :: after))
    (enclosed : Enclosed arguments) :
    (macros.expandFrom 0 previous
        (name ++ (blanks ++ .scalar '(' :: (arguments ++ .scalar ')' :: after)))).1 =
      macros.replacement name arguments ++ (macros.expandFrom 0 (some ')') after).1 := by
  have found := holds.invocation?_eq_some_iff.mpr selects
  have closed : closeParen 1 none (arguments ++ .scalar ')' :: after) = some (arguments, after) :=
    closeParen_eq_some_iff.mpr ⟨enclosed, rfl⟩
  have split : name ++ (blanks ++ .scalar '(' :: (arguments ++ .scalar ')' :: after)) =
      (name ++ (blanks ++ .scalar '(' :: (arguments ++ [.scalar ')']))) ++ after := by simp
  have ends : (name ++ (blanks ++ CodePoint.scalar '(' :: (arguments ++ [.scalar ')']))).getLast? =
      some (CodePoint.scalar ')') := by simp [List.getLast?_append, List.getLast?_cons]
  rw [split] at found ⊢
  exact expandFrom_closed found closed ends

theorem Holds.rewritten (previous : Option CodePoint) (text : CodeText) :
    Rewritten tags bodies previous text (macros.expandFrom 0 previous text).1 := by
  cases found : macros.invocation? previous text with
  | none =>
      match text with
      | [] => exact .nil
      | c :: rest =>
          obtain ⟨freeTags, freeBodies⟩ := holds.invocation?_eq_none_iff.mp found
          rw [expandFrom_free found]
          exact .keep freeTags freeBodies (Holds.rewritten (some c) rest)
  | some taken =>
      obtain ⟨name, opened⟩ := taken
      have selects := holds.invocation?_eq_some_iff.mp found
      cases closed : closeParen 1 none opened with
      | none =>
          rw [expandFrom_unclosed found closed]
          refine .unclosed selects fun inside after enclosed opened_eq => ?_
          rw [closeParen_eq_some_iff.mpr ⟨enclosed, opened_eq⟩] at closed
          cases closed
      | some reading =>
          obtain ⟨arguments, after⟩ := reading
          obtain ⟨enclosed, rfl⟩ := closeParen_eq_some_iff.mp closed
          obtain ⟨blanks, -, rfl⟩ := selects.invokes.spelled
          rw [holds.expandFrom_replaced selects enclosed]
          exact .replace selects enclosed (holds.replacement_eq_iff.mp rfl)
            (Holds.rewritten (some ')') after)
termination_by text.length

theorem Holds.rewritten_iff {previous : Option CodePoint} {text expanded : CodeText} :
    Rewritten tags bodies previous text expanded ↔
      (macros.expandFrom 0 previous text).1 = expanded := by
  constructor
  · intro rewritten
    induction rewritten with
    | nil => rfl
    | keep freeTags freeBodies _ ih =>
        rw [expandFrom_free (holds.invocation?_eq_none_iff.mpr ⟨freeTags, freeBodies⟩), ih]
    | unclosed selects unclosed =>
        refine expandFrom_unclosed (holds.invocation?_eq_some_iff.mpr selects) ?_
        rw [Option.eq_none_iff_forall_ne_some]
        rintro ⟨inside, after⟩ closed
        obtain ⟨enclosed, opened_eq⟩ := closeParen_eq_some_iff.mp closed
        exact unclosed inside after enclosed opened_eq
    | replace selects enclosed standing _ ih =>
        rw [holds.expandFrom_replaced selects enclosed, holds.replacement_eq_iff.mpr standing, ih]
  · rintro rfl
    exact holds.rewritten previous text

end

end Macros

end TypeCatalog.Expansion
