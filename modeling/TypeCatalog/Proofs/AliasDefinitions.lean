import TypeCatalog.Proofs.Invocations

/-!
# Aliases of tag macros

A line of a text may define a macro without parameters.  If an invocation of a
tag macro occurs in its body, the macro is an alias, and what stands for it is
its body with the tag macros replaced.  The last line that makes an alias of a
name counts.
-/

namespace TypeCatalog.Expansion

open Text

/-! ## Definitions of macros -/

theorem skipBlanks?_eq_some_iff {text rest : CodeText} :
    skipBlanks? text = some rest ↔
      ∃ blanks : CodeText, blanks ≠ [] ∧ (∀ c ∈ blanks, c.isBlank = true) ∧
        text = blanks ++ rest ∧ trimLeft rest = rest := by
  constructor
  · intro found
    rw [skipBlanks?] at found
    split at found
    case isFalse => cases found
    case isTrue starts =>
      cases found
      obtain ⟨blanks, blank, text_eq⟩ := exists_blanks text
      refine ⟨blanks, ?_, blank, text_eq, List.dropWhile_idempotent _ _⟩
      rintro rfl
      cases text with
      | nil => cases starts
      | cons c more =>
          have visible := trimLeft_eq_cons text_eq.symm
          simp [visible] at starts
  · rintro ⟨blanks, proper, blank, rfl, trimmed⟩
    obtain ⟨c, more, rfl⟩ := List.exists_cons_of_ne_nil proper
    have starts : ((c :: more ++ rest).head?.any CodePoint.isBlank) = true := by
      simpa using blank c (by simp)
    rw [skipBlanks?, if_pos starts, trimLeft_append blank, trimmed]

structure Defines (line name body : CodeText) : Prop where
  start : ∃ first, name.head? = some first ∧ first.isIn (fun c => c.isAlpha || c == '_') = true
  word : ∀ c ∈ name, c.isWordChar = true
  head_visible : ∃ first, body.head? = some first ∧ first.isBlank = false
  last_visible : ∃ last, body.getLast? = some last ∧ last.isBlank = false
  spelled : ∃ indent margin gap inside space trail : CodeText,
    (∀ blanks ∈ [indent, margin, gap, inside, space, trail], ∀ c ∈ blanks, c.isBlank = true) ∧
      gap ≠ [] ∧ space ≠ [] ∧
      line = indent ++ .scalar '#' :: (margin ++ (("define" : CodeText) ++
        (gap ++ (name ++ .scalar '(' :: (inside ++ .scalar ')' :: (space ++ (body ++ trail)))))))

theorem defines_of_definition? {line name body : CodeText}
    (found : definition? line = some (name, body)) : Defines line name body := by
  unfold definition? at found
  simp only [bind, pure] at found
  split at found
  case h_2 => cases found
  case h_1 rest hash =>
    split at found
    case isTrue => cases found
    case isFalse keyword =>
      obtain ⟨afterGap, gap_eq, found⟩ := Option.bind_eq_some_iff.mp found
      obtain ⟨first, head, found⟩ := Option.bind_eq_some_iff.mp found
      split at found
      case isTrue => cases found
      case isFalse start =>
        split at found
        case h_2 => cases found
        case h_1 opened opening =>
          split at found
          case h_2 => cases found
          case h_1 closed closing =>
            obtain ⟨afterSpace, space_eq, found⟩ := Option.bind_eq_some_iff.mp found
            split at found
            case isTrue => cases found
            case isFalse proper =>
              cases found
              obtain ⟨indent, indent_blank, line_eq⟩ := exists_blanks line
              obtain ⟨margin, margin_blank, rest_eq⟩ := exists_blanks rest
              obtain ⟨afterKeyword, keyword_eq⟩ : ("define" : CodeText) <+: trimLeft rest := by
                simpa using keyword
              obtain ⟨gap, gap_proper, gap_blank, afterKeyword_eq, -⟩ :=
                skipBlanks?_eq_some_iff.mp gap_eq
              obtain ⟨inside, inside_blank, opened_eq⟩ := exists_blanks opened
              obtain ⟨space, space_proper, space_blank, closed_eq, trimmed⟩ :=
                skipBlanks?_eq_some_iff.mp space_eq
              obtain ⟨trail, trail_blank, afterSpace_eq⟩ := exists_trail afterSpace
              rw [← keyword_eq, List.drop_left] at afterKeyword_eq
              have afterGap_eq := (List.takeWhile_append_dropWhile
                (p := CodePoint.isWordChar) (l := afterGap)).symm
              have name_start : first.isIn (fun c => c.isAlpha || c == '_') = true := by
                simpa using start
              obtain ⟨head_visible, last_visible⟩ :=
                exists_visible_ends trimmed (by simpa using proper)
              refine ⟨⟨first, ?_, name_start⟩, fun c mem => List.mem_takeWhile_imp mem,
                head_visible, last_visible, indent, margin, gap, inside, space, trail, ?_,
                gap_proper, space_proper, ?_⟩
              · obtain ⟨more, rfl⟩ := List.head?_eq_some_iff.mp head
                rw [List.takeWhile_cons_of_pos (isWordChar_of_isNameStart name_start),
                  List.head?_cons]
              · simpa using ⟨indent_blank, margin_blank, gap_blank, inside_blank, space_blank,
                  trail_blank⟩
              · rw [← afterSpace_eq, ← closed_eq, ← closing, ← opened_eq, ← opening, ← afterGap_eq,
                  ← afterKeyword_eq, keyword_eq, ← rest_eq, ← hash, ← line_eq]

theorem Defines.definition?_eq {line name body : CodeText} (defines : Defines line name body) :
    definition? line = some (name, body) := by
  obtain ⟨⟨first, head, start⟩, word, ⟨initial, body_head, initial_visible⟩,
    ⟨last, ends, last_visible⟩, indent, margin, gap, inside, space, trail, blank, gap_proper,
    space_proper, rfl⟩ := defines
  simp only [List.forall_mem_cons, List.not_mem_nil, IsEmpty.forall_iff, implies_true,
    and_true] at blank
  obtain ⟨indent_blank, margin_blank, gap_blank, inside_blank, space_blank, trail_blank⟩ := blank
  have body_visible : trimLeft (body ++ trail) = body ++ trail := by
    obtain ⟨others, rfl⟩ := List.head?_eq_some_iff.mp body_head
    exact trimLeft_visible initial_visible _
  have proper : body.isEmpty = false := by
    obtain ⟨others, rfl⟩ := List.head?_eq_some_iff.mp body_head
    rfl
  have space_eq := skipBlanks?_eq_some_iff.mpr ⟨space, space_proper, space_blank, rfl, body_visible⟩
  have closing := trimLeft_blanks inside_blank (by decide : CodePoint.isBlank ')' = false)
    (space ++ (body ++ trail))
  generalize opened_eq : inside ++ CodePoint.scalar ')' :: (space ++ (body ++ trail)) = opened at *
  have name_eq : (name ++ .scalar '(' :: opened).takeWhile CodePoint.isWordChar = name := by
    rw [List.takeWhile_append_of_pos word]
    simp [show CodePoint.isWordChar '(' = false by decide]
  have opening : (name ++ .scalar '(' :: opened).dropWhile CodePoint.isWordChar =
      .scalar '(' :: opened := by
    rw [List.dropWhile_append_of_pos word]
    simp [show CodePoint.isWordChar '(' = false by decide]
  have name_head : (name ++ .scalar '(' :: opened).head? = some first := by
    obtain ⟨more, rfl⟩ := List.head?_eq_some_iff.mp head
    rfl
  have name_visible : trimLeft (name ++ .scalar '(' :: opened) = name ++ .scalar '(' :: opened := by
    obtain ⟨more, rfl⟩ := List.head?_eq_some_iff.mp head
    exact trimLeft_visible (visible_of_isWordChar (isWordChar_of_isNameStart start)) _
  have gap_eq := skipBlanks?_eq_some_iff.mpr ⟨gap, gap_proper, gap_blank, rfl, name_visible⟩
  generalize gap ++ (name ++ .scalar '(' :: opened) = afterKeyword at *
  have keyword : trimLeft (margin ++ (("define" : CodeText) ++ afterKeyword)) =
      ("define" : CodeText) ++ afterKeyword :=
    trimLeft_blanks margin_blank (c := 'd') (by decide) _
  have hash := trimLeft_blanks indent_blank (by decide : CodePoint.isBlank '#' = false)
    (margin ++ (("define" : CodeText) ++ afterKeyword))
  have starts : (("define" : CodeText)).isPrefixOf (("define" : CodeText) ++ afterKeyword) = true :=
    List.isPrefixOf_iff_prefix.mpr (List.prefix_append _ _)
  unfold definition?
  simp only [bind, pure, hash, keyword, starts, List.drop_left, gap_eq, Option.bind_some, name_head,
    start, opening, closing, space_eq, name_eq, trimRight_append ends last_visible trail_blank,
    proper, Bool.not_true, Bool.false_eq_true, if_false]

theorem definition?_eq_some_iff {line name body : CodeText} :
    definition? line = some (name, body) ↔ Defines line name body :=
  ⟨defines_of_definition?, Defines.definition?_eq⟩

theorem Defines.unique {line name other body again : CodeText} (defines : Defines line name body)
    (same : Defines line other again) : name = other ∧ body = again :=
  Prod.mk.inj (Option.some.inj (defines.definition?_eq.symm.trans same.definition?_eq))

/-! ## Aliases -/

theorem hasInvocation_byLength {names : List CodeText} {text : CodeText} :
    hasInvocation (byLength names) none text = true ↔ Occurs names text := by
  simp only [hasInvocation_eq_true_iff, Occurs, mem_byLength]

def DefinesAlias (tags : List CodeText) (line name body : CodeText) : Prop :=
  Defines line name body ∧ Occurs tags body

def IsAlias (tags : List CodeText) (lines : List CodeText) (name : CodeText) : Prop :=
  ∃ line ∈ lines, ∃ body, DefinesAlias tags line name body

/-- What the aliases of some lines stand for. -/
structure Collects (tags : List CodeText) (lines : List CodeText)
    (bodies : List (CodeText × CodeText)) : Prop where
  distinct : (bodies.map (·.1)).Nodup
  origin : ∀ name body, (name, body) ∈ bodies → ∃ before line after own,
    lines = before ++ line :: after ∧ DefinesAlias tags line name own ∧
      Rewritten tags [] none own body ∧ ¬IsAlias tags after name
  present : ∀ name, IsAlias tags lines name → name ∈ bodies.map (·.1)

theorem isAlias_append {tags : List CodeText} {lines more : List CodeText} {name : CodeText} :
    IsAlias tags (lines ++ more) name ↔ IsAlias tags lines name ∨ IsAlias tags more name := by
  simp only [IsAlias, List.mem_append, or_and_right, exists_or]

theorem isAlias_singleton {tags : List CodeText} {line name : CodeText} :
    IsAlias tags [line] name ↔ ∃ body, DefinesAlias tags line name body := by
  simp only [IsAlias, List.mem_singleton, exists_eq_left]

namespace Collects

variable {tags : List CodeText} {lines : List CodeText} {bodies : List (CodeText × CodeText)}

theorem mem_keys_iff (collects : Collects tags lines bodies) {name : CodeText} :
    name ∈ bodies.map (·.1) ↔ IsAlias tags lines name := by
  refine ⟨fun mem => ?_, collects.present name⟩
  obtain ⟨⟨_, body⟩, held, rfl⟩ := List.mem_map.mp mem
  obtain ⟨before, line, after, own, rfl, named, -, -⟩ := collects.origin _ body held
  exact ⟨line, by simp, own, named⟩

theorem nil : Collects tags [] [] where
  distinct := List.nodup_nil
  origin := by simp
  present := by simp [IsAlias]

theorem skip (collects : Collects tags lines bodies) {line : CodeText}
    (plain : ∀ name, ¬IsAlias tags [line] name) : Collects tags (lines ++ [line]) bodies where
  distinct := collects.distinct
  origin := by
    intro name body mem
    obtain ⟨before, earlier, after, own, rfl, named, rewritten, last⟩ :=
      collects.origin name body mem
    refine ⟨before, earlier, after ++ [line], own, by simp, named, rewritten, ?_⟩
    rw [isAlias_append]
    exact not_or.mpr ⟨last, plain name⟩
  present := by
    intro name named
    rcases isAlias_append.mp named with named | named
    · exact collects.present name named
    · exact absurd named (plain name)

theorem mem_setBody {bodies : List (CodeText × CodeText)} {name body : CodeText}
    {entry : CodeText × CodeText} :
    entry ∈ setBody bodies name body ↔ entry = (name, body) ∨ entry ∈ bodies ∧ entry.1 ≠ name := by
  simp [setBody]

theorem define (collects : Collects tags lines bodies) {line name own body : CodeText}
    (named : DefinesAlias tags line name own) (rewritten : Rewritten tags [] none own body) :
    Collects tags (lines ++ [line]) (setBody bodies name body) where
  distinct := by
    rw [setBody, List.map_cons, List.nodup_cons]
    constructor
    · simp
    · exact collects.distinct.sublist (List.filter_sublist.map _)
  origin := by
    intro other standing mem
    rcases mem_setBody.mp mem with same | ⟨mem, different⟩
    · cases same
      exact ⟨lines, line, [], own, rfl, named, rewritten, by simp [IsAlias]⟩
    · obtain ⟨before, origin, after, first, rfl, earlier, expanded, last⟩ :=
        collects.origin other standing mem
      refine ⟨before, origin, after ++ [line], first, by simp, earlier, expanded, ?_⟩
      rw [isAlias_append, isAlias_singleton]
      rintro (later | ⟨again, same, -⟩)
      · exact last later
      · exact different (same.unique named.1).1
  present := by
    intro other known
    rcases isAlias_append.mp known with known | known
    · obtain ⟨entry, held, rfl⟩ := List.mem_map.mp (collects.present other known)
      by_cases same : entry.1 = name
      · exact List.mem_map.mpr ⟨(name, body), by simp [setBody], same.symm⟩
      · exact List.mem_map_of_mem (mem_setBody.mpr (.inr ⟨held, same⟩))
    · obtain ⟨again, same, -⟩ := isAlias_singleton.mp known
      exact List.mem_map.mpr ⟨(name, body), by simp [setBody], (named.1.unique same).1⟩

end Collects

theorem holds_tags (names : List CodeText) :
    Macros.Holds { tags := byLength names } names [] where
  tags_mem _ := mem_byLength
  bodies_mem _ := Iff.rfl
  tags_sorted := isSorted_byLength names
  bodies_sorted := List.Pairwise.nil
  distinct := List.nodup_nil

theorem Collects.collectBodies {names : List CodeText} {seen : List CodeText}
    {bodies : List (CodeText × CodeText)} (collects : Collects names seen bodies)
    (lines : List CodeText) :
    Collects names (seen ++ lines) (Expansion.collectBodies (byLength names) bodies lines).1 := by
  induction lines generalizing seen bodies with
  | nil => simpa [Expansion.collectBodies] using collects
  | cons line rest ih =>
      rw [List.append_cons]
      cases defined : definition? line with
      | none =>
          have plain (name : CodeText) : ¬IsAlias names [line] name := by
            rw [isAlias_singleton]
            rintro ⟨body, defines, -⟩
            rw [defines.definition?_eq] at defined
            cases defined
          simpa only [Expansion.collectBodies, defined] using ih (collects.skip plain)
      | some definition =>
          obtain ⟨name, own⟩ := definition
          have defines := definition?_eq_some_iff.mp defined
          by_cases occurs : Occurs names own
          · have tagged := hasInvocation_byLength.mpr occurs
            have rewritten := (holds_tags names).rewritten none own
            simpa only [Expansion.collectBodies, defined, tagged, if_true, Macros.replaceInLine]
              using ih (collects.define ⟨defines, occurs⟩ rewritten)
          · have untagged : hasInvocation (byLength names) none own = false := by
              rw [Bool.eq_false_iff, ne_eq, hasInvocation_byLength]
              exact occurs
            have plain (other : CodeText) : ¬IsAlias names [line] other := by
              rw [isAlias_singleton]
              rintro ⟨body, again, tagged⟩
              rw [(defines.unique again).2] at occurs
              exact occurs tagged
            simpa only [Expansion.collectBodies, defined, untagged, Bool.false_eq_true, if_false]
              using ih (collects.skip plain)

end TypeCatalog.Expansion
