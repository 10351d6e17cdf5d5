import TypeCatalog.Expansion

/-!
# The parenthesis that closes a group

Inside a group stand other groups, literals and anything that is neither a
parenthesis nor a mark.  A literal goes from a mark to the next same mark that
no backslash takes away.  The scan for the closing parenthesis stops after
exactly such an inside.
-/

namespace TypeCatalog.Expansion

open Text

def IsMark (c : CodePoint) : Prop :=
  c = '"' ∨ c = '\''

/-- The inside of a literal: the mark stands in it only after a backslash. -/
inductive Quoted (mark : CodePoint) : CodeText → Prop
  | nil : Quoted mark []
  | plain {c : CodePoint} {rest : CodeText} :
      c ≠ mark → c ≠ '\\' → Quoted mark rest → Quoted mark (c :: rest)
  | escaped (c : CodePoint) {rest : CodeText} :
      Quoted mark rest → Quoted mark (.scalar '\\' :: c :: rest)

inductive Enclosed : CodeText → Prop
  | nil : Enclosed []
  | plain {c : CodePoint} {rest : CodeText} :
      c ≠ '(' → c ≠ ')' → ¬IsMark c → Enclosed rest → Enclosed (c :: rest)
  | literal {mark : CodePoint} {body rest : CodeText} :
      IsMark mark → Quoted mark body → Enclosed rest → Enclosed (mark :: (body ++ mark :: rest))
  | group {inner rest : CodeText} :
      Enclosed inner → Enclosed rest →
        Enclosed (.scalar '(' :: (inner ++ .scalar ')' :: rest))

theorem Quoted.append {mark : CodePoint} {front back : CodeText} (quoted : Quoted mark front)
    (more : Quoted mark back) : Quoted mark (front ++ back) := by
  induction quoted with
  | nil => exact more
  | plain other escape _ ih => exact .plain other escape ih
  | escaped c _ ih => exact .escaped c ih

theorem Enclosed.append {front back : CodeText} (enclosed : Enclosed front)
    (more : Enclosed back) : Enclosed (front ++ back) := by
  induction enclosed with
  | nil => exact more
  | plain opening closing mark _ ih => exact .plain opening closing mark ih
  | literal mark quoted _ ih => simpa using Enclosed.literal mark quoted ih
  | group inner _ _ ih => simpa using Enclosed.group inner ih

/-! ## Steps of the scan -/

def ahead (front : CodeText) (reading : CodeText × CodeText) : CodeText × CodeText :=
  (front ++ reading.1, reading.2)

def Passes (depth : Nat) (quote : Option CodePoint) (front : CodeText) (depth' : Nat)
    (quote' : Option CodePoint) : Prop :=
  ∀ rest, closeParen depth quote (front ++ rest) =
    (closeParen depth' quote' rest).map (ahead front)

theorem Passes.refl (depth : Nat) (quote : Option CodePoint) :
    Passes depth quote [] depth quote := by
  intro rest
  have same : ahead [] = id := rfl
  rw [same, Option.map_id, id, List.nil_append]

theorem Passes.append {depth depth' depth'' : Nat} {quote quote' quote'' : Option CodePoint}
    {front back : CodeText} (first : Passes depth quote front depth' quote')
    (second : Passes depth' quote' back depth'' quote'') :
    Passes depth quote (front ++ back) depth'' quote'' := by
  intro rest
  have joined : ahead front ∘ ahead back = ahead (front ++ back) := by
    funext reading
    simp [ahead]
  rw [List.append_assoc, first, second, Option.map_map, joined]

theorem Passes.cons {depth depth' depth'' : Nat} {quote quote' quote'' : Option CodePoint}
    {c : CodePoint} {back : CodeText} (first : Passes depth quote [c] depth' quote')
    (second : Passes depth' quote' back depth'' quote'') :
    Passes depth quote (c :: back) depth'' quote'' :=
  first.append second

theorem closeParen_unquoted {c : CodePoint} (other : c ≠ ')') (depth : Nat) (rest : CodeText) :
    closeParen depth none (c :: rest) =
      (closeParen (if c == '(' then depth + 1 else depth)
        (if c == '"' || c == '\'' then some c else none) rest).map (ahead [c]) := by
  rw [closeParen.eq_def]
  simp only [beq_iff_eq, other, if_false]
  rfl

theorem closeParen_quoted {mark c : CodePoint} (escape : c ≠ '\\') (depth : Nat) (rest : CodeText) :
    closeParen depth (some mark) (c :: rest) =
      (closeParen depth (if c == mark then none else some mark) rest).map (ahead [c]) := by
  cases rest with
  | nil => simp [closeParen, escape]
  | cons next rest =>
      rw [closeParen]
      · rfl
      · simp
      · simpa using escape

theorem passes_plain {c : CodePoint} (opening : c ≠ '(') (closing : c ≠ ')') (mark : ¬IsMark c)
    (depth : Nat) : Passes depth none [c] depth none := by
  intro rest
  simp only [IsMark, not_or] at mark
  simp [closeParen_unquoted closing, opening, mark]

theorem passes_mark {mark : CodePoint} (isMark : IsMark mark) (depth : Nat) :
    Passes depth none [mark] depth (some mark) := by
  intro rest
  rcases isMark with rfl | rfl <;> simp [closeParen_unquoted]

theorem passes_open (depth : Nat) : Passes depth none [.scalar '('] (depth + 1) none := by
  intro rest
  simp [closeParen_unquoted]

theorem passes_close (depth : Nat) : Passes (depth + 2) none [.scalar ')'] (depth + 1) none :=
  fun _ => rfl

theorem passes_escape {mark : CodePoint} (c : CodePoint) (depth : Nat) :
    Passes depth (some mark) [.scalar '\\', c] depth (some mark) :=
  fun _ => rfl

theorem Quoted.passes {mark : CodePoint} {body : CodeText} (quoted : Quoted mark body)
    (depth : Nat) : Passes depth (some mark) body depth (some mark) := by
  induction quoted with
  | nil => exact .refl _ _
  | plain other escape _ ih =>
      refine .cons (fun rest => ?_) ih
      simp [closeParen_quoted escape, other]
  | escaped c _ ih => exact (passes_escape c depth).append ih

theorem IsMark.ne_escape {mark : CodePoint} (isMark : IsMark mark) : mark ≠ '\\' := by
  rcases isMark with rfl | rfl <;> decide

theorem passes_literal {mark : CodePoint} {body : CodeText} (isMark : IsMark mark)
    (quoted : Quoted mark body) (depth : Nat) :
    Passes depth none (mark :: (body ++ [mark])) depth none := by
  refine .cons (passes_mark isMark depth) ((quoted.passes depth).append fun rest => ?_)
  simp [closeParen_quoted isMark.ne_escape]

theorem Enclosed.passes {inside : CodeText} (enclosed : Enclosed inside) (depth : Nat) :
    Passes (depth + 1) none inside (depth + 1) none := by
  induction enclosed generalizing depth with
  | nil => exact .refl _ _
  | plain opening closing mark _ ih => exact .cons (passes_plain opening closing mark _) (ih depth)
  | literal mark quoted _ ih => simpa using (passes_literal mark quoted _).append (ih depth)
  | group _ _ inner after =>
      exact .cons (passes_open _)
        ((inner (depth + 1)).append (.cons (passes_close depth) (after depth)))

/-! ## What the scan has passed -/

/-- The texts that lead from a state of the scan to the last parenthesis: a literal is read to its
end first, and each open group but the last is closed. -/
inductive Closes : Nat → Option CodePoint → CodeText → Prop
  | last {inside : CodeText} : Enclosed inside → Closes 1 none inside
  | layer {depth : Nat} {inner rest : CodeText} :
      Enclosed inner → Closes depth none rest →
        Closes (depth + 1) none (inner ++ .scalar ')' :: rest)
  | literal {depth : Nat} {mark : CodePoint} {body rest : CodeText} :
      Quoted mark body → Closes depth none rest → Closes depth (some mark) (body ++ mark :: rest)

namespace Closes

variable {depth : Nat} {mark : CodePoint} {text : CodeText}

theorem enclosed (closes : Closes 1 none text) : Enclosed text := by
  cases closes with
  | last inside => exact inside
  | layer _ rest => nomatch rest

theorem prepend {front : CodeText} (enclosed : Enclosed front) (closes : Closes depth none text) :
    Closes depth none (front ++ text) := by
  cases closes with
  | last inside => exact .last (enclosed.append inside)
  | layer inner rest =>
      rw [← List.append_assoc]
      exact .layer (enclosed.append inner) rest

theorem quoted {front : CodeText} (quoted : Quoted mark front)
    (closes : Closes depth (some mark) text) : Closes depth (some mark) (front ++ text) := by
  cases closes with
  | literal body rest =>
      rw [← List.append_assoc]
      exact .literal (quoted.append body) rest

theorem marked (isMark : IsMark mark) (closes : Closes depth (some mark) text) :
    Closes depth none (mark :: text) := by
  cases closes with
  | literal body rest => simpa using prepend (.literal isMark body .nil) rest

theorem opened (positive : 0 < depth) (closes : Closes (depth + 1) none text) :
    Closes depth none (.scalar '(' :: text) := by
  cases closes with
  | last => cases positive
  | layer inner rest => simpa using prepend (.group inner .nil) rest

end Closes

theorem exists_of_ahead (front : CodeText) {reading : Option (CodeText × CodeText)}
    {inside after : CodeText} (read : reading.map (ahead front) = some (inside, after)) :
    ∃ inner, reading = some (inner, after) ∧ inside = front ++ inner := by
  obtain ⟨⟨inner, rest⟩, found, same⟩ := Option.map_eq_some_iff.mp read
  cases same
  exact ⟨inner, found, rfl⟩

theorem closes_of_closeParen {depth : Nat} {quote : Option CodePoint} {text inside after : CodeText}
    (positive : 0 < depth) (read : closeParen depth quote text = some (inside, after)) :
    Closes depth quote inside ∧ text = inside ++ .scalar ')' :: after := by
  fun_induction closeParen depth quote text generalizing inside after with
  | case1 => cases read
  | case2 => cases read
  | case3 depth mark c rest ih =>
      obtain ⟨inner, found, rfl⟩ := exists_of_ahead [.scalar '\\', c] read
      obtain ⟨closes, rfl⟩ := ih positive found
      exact ⟨closes.quoted (.escaped c .nil), rfl⟩
  | case4 depth mark c rest lone escape ih =>
      obtain ⟨inner, found, rfl⟩ := exists_of_ahead [c] read
      obtain ⟨closes, rfl⟩ := ih positive found
      have escape : c ≠ '\\' := by
        rintro rfl
        cases inner <;> simp_all
      refine ⟨?_, rfl⟩
      by_cases same : c = mark
      · subst same
        exact .literal .nil (by simpa using closes)
      · exact Closes.quoted (.plain same escape .nil) (by simpa [same] using closes)
  | case5 => cases positive
  | case6 c rest closing =>
      cases read
      exact ⟨.last .nil, by rw [eq_of_beq closing, List.nil_append]⟩
  | case7 c rest closing depth deep ih =>
      obtain ⟨inner, found, rfl⟩ := exists_of_ahead [c] read
      obtain ⟨closes, rfl⟩ := ih (Nat.pos_of_ne_zero deep) found
      rw [eq_of_beq closing]
      exact ⟨.layer .nil closes, rfl⟩
  | case8 depth c rest closing deeper =>
      rename_i ih
      obtain ⟨inner, found, rfl⟩ := exists_of_ahead [c] read
      obtain ⟨closes, rfl⟩ := ih (by grind) found
      simp only [deeper] at closes
      refine ⟨?_, rfl⟩
      by_cases opening : c = '('
      · subst opening
        exact Closes.opened positive (by simpa using closes)
      by_cases mark : IsMark c
      · rcases mark with rfl | rfl <;>
          exact Closes.marked (by simp [IsMark]) (by simpa using closes)
      · have single : Enclosed [c] := .plain opening (by simpa using closing) mark .nil
        simp only [IsMark, not_or] at mark
        exact Closes.prepend single (by simpa [opening, mark] using closes)

theorem closeParen_eq_some_iff {text inside after : CodeText} :
    closeParen 1 none text = some (inside, after) ↔
      Enclosed inside ∧ text = inside ++ .scalar ')' :: after := by
  constructor
  · intro read
    obtain ⟨closes, text_eq⟩ := closes_of_closeParen Nat.one_pos read
    exact ⟨closes.enclosed, text_eq⟩
  · rintro ⟨enclosed, rfl⟩
    rw [enclosed.passes 0]
    simp [closeParen, ahead]

end TypeCatalog.Expansion
