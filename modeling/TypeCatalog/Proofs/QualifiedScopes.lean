import TypeCatalog.Proofs.ConstructorKinds
import TypeCatalog.Proofs.LookingParts
import TypeCatalog.Proofs.RecordNames

/-!
# Scopes of records with qualified names

A namespace `A::B` opens two scopes, but a record `A::B` opens one for its
members: what stands in `A` alone is not looked up there, unless it stands
further out as well.
-/

namespace TypeCatalog

open Text (CodeText joinWith joinWith_append)

/-! ## The greatest depth with a value -/

/-- The value at the greatest depth up to a bound that has one; at depth zero there is none. -/
def innermost? {α : Type} (value? : Nat → Option α) : Nat → Option α
  | 0 => none
  | depth + 1 => (value? (depth + 1)).or (innermost? value? depth)

section Innermost

variable {α : Type} {value? : Nat → Option α} {bound : Nat} {value : α}

theorem innermost?_eq_none_iff : innermost? value? bound = none ↔
    ∀ depth, 0 < depth → depth ≤ bound → value? depth = none := by
  induction bound with
  | zero => simp [innermost?]; omega
  | succ bound ih =>
      rw [innermost?, Option.or_eq_none_iff, ih]
      constructor
      · rintro ⟨last, before⟩ depth positive bounded
        rcases Nat.lt_or_eq_of_le bounded with less | rfl
        · exact before depth positive (by omega)
        · exact last
      · intro all
        exact ⟨all _ (by omega) (by omega), fun depth positive bounded =>
          all depth positive (by omega)⟩

theorem innermost?_eq_some_iff : innermost? value? bound = some value ↔
    ∃ depth, 0 < depth ∧ depth ≤ bound ∧ value? depth = some value ∧
      ∀ deeper, depth < deeper → deeper ≤ bound → value? deeper = none := by
  induction bound with
  | zero => simp [innermost?]
  | succ bound ih =>
      rw [innermost?, Option.or_eq_some_iff, ih]
      constructor
      · rintro (last | ⟨last, depth, positive, bounded, found, deeper⟩)
        · exact ⟨_, by omega, le_rfl, last, by omega⟩
        · refine ⟨depth, positive, by omega, found, fun other above below => ?_⟩
          rcases Nat.lt_or_eq_of_le below with less | rfl
          · exact deeper other above (by omega)
          · exact last
      · rintro ⟨depth, positive, bounded, found, deeper⟩
        rcases Nat.lt_or_eq_of_le bounded with less | rfl
        · exact .inr ⟨deeper _ less le_rfl, depth, positive, by omega, found,
            fun other above below => deeper other above (by omega)⟩
        · exact .inl found

theorem innermost?_add (value? : Nat → Option α) (outer inner : Nat) :
    innermost? value? (outer + inner) =
      (innermost? (fun depth => value? (outer + depth)) inner).or (innermost? value? outer) := by
  induction inner with
  | zero => rfl
  | succ inner ih =>
      rw [← Nat.add_assoc, innermost?, innermost?, ih, Option.or_assoc]
      rfl

end Innermost

/-! ## Scopes from the inside out -/

theorem joinWith_part {α : Type} (separator : List α) (before : List (List α))
    {parts : List (List α)} (proper : parts ≠ []) (after : List (List α)) :
    joinWith separator (before ++ ([joinWith separator parts] ++ after)) =
      joinWith separator (before ++ (parts ++ after)) := by
  rcases eq_or_ne after [] with rfl | others
  · rw [List.append_nil, List.append_nil, joinWith_append separator before proper,
      joinWith_concat]
  · have joined : joinWith separator ([joinWith separator parts] ++ after) =
        joinWith separator (parts ++ after) := by
      rw [joinWith_append separator _ others, joinWith_append separator _ others, if_neg proper]
      rfl
    rw [joinWith_append separator before (by simp), joined,
      joinWith_append separator before (by simp [proper])]

namespace KnownTypes

def inScope (scope : List CodeText) (name : CodeText) : CodeText :=
  let outer := joinWith Name.scopeSeparator scope
  if outer.isEmpty then name else outer ++ Name.scopeSeparator ++ name

variable {table : KnownTypes} {scope parts inner : List CodeText} {name : CodeText}

theorem candidates_concat (scope : List CodeText) (part name : CodeText) :
    candidates (scope ++ [part]) name =
      inScope (scope ++ [part]) name :: candidates scope name := by
  have inside : ∀ depth ∈ (List.range (scope.length + 1)).reverse,
      (scope ++ [part]).take depth = scope.take depth := by
    intro depth mem
    have bound : depth ≤ scope.length := by simpa [Nat.lt_succ_iff] using mem
    exact List.take_append_of_le_length bound
  have whole : (scope ++ [part]).take (scope.length + 1) = scope ++ [part] :=
    List.take_of_length_le (by simp)
  rw [candidates, candidates, List.length_append, List.length_singleton, List.range_succ,
    List.reverse_append, List.reverse_singleton, List.singleton_append, List.map_cons, whole]
  refine congrArg _ (List.map_congr_left fun depth mem => ?_)
  rw [inside depth mem]

def atDepth? (table : KnownTypes) (scope further : List CodeText) (name : CodeText) (depth : Nat) :
    Option KnownType :=
  table.find? (inScope (scope ++ further.take depth) (Name.normalize name))

theorem findSome?_candidates (table : KnownTypes) (scope further : List CodeText)
    (name : CodeText) {depth : Nat} (bounded : depth ≤ further.length) :
    (candidates (scope ++ further.take depth) (Name.normalize name)).findSome? table.find? =
      (innermost? (table.atDepth? scope further name) depth).or
        ((candidates scope (Name.normalize name)).findSome? table.find?) := by
  induction depth with
  | zero => simp [innermost?]
  | succ depth ih =>
      have taken : scope ++ further.take (depth + 1) =
          scope ++ further.take depth ++ [further[depth]] := by
        rw [List.take_succ_eq_append_getElem bounded, List.append_assoc]
      rw [taken, candidates_concat, ← taken, List.findSome?_cons, ih (by omega), innermost?,
        atDepth?]
      split <;> rename_i found <;> simp [found]

theorem lookup_of_relative (relative : ¬ Name.scopeSeparator <+: Name.normalize name) :
    table.lookup name scope = (candidates scope (Name.normalize name)).findSome? table.find? := by
  rw [lookup]
  split
  · rename_i rest spelled
    exact absurd ⟨rest, spelled.symm⟩ relative
  · rfl

theorem lookup_of_absolute (absolute : Name.scopeSeparator <+: Name.normalize name)
    (other : List CodeText) : table.lookup name scope = table.lookup name other := by
  obtain ⟨rest, spelled⟩ := absolute
  rw [lookup, lookup, ← spelled]
  rfl

theorem lookup_append (relative : ¬ Name.scopeSeparator <+: Name.normalize name)
    (further : List CodeText) :
    table.lookup name (scope ++ further) =
      (innermost? (table.atDepth? scope further name) further.length).or
        (table.lookup name scope) := by
  rw [lookup_of_relative relative, lookup_of_relative relative,
    ← findSome?_candidates _ _ _ _ le_rfl, List.take_length]

theorem atDepth?_joined (proper : parts ≠ []) (depth : Nat) :
    table.atDepth? scope ([joinWith Name.scopeSeparator parts] ++ inner) name (1 + depth) =
      table.atDepth? scope (parts ++ inner) name (parts.length + depth) := by
  have part := @List.take_length_add_append _ [joinWith Name.scopeSeparator parts] inner depth
  rw [List.length_singleton] at part
  rw [atDepth?, atDepth?, part, List.take_length_add_append, inScope, inScope,
    joinWith_part Name.scopeSeparator scope proper]

def inside? (table : KnownTypes) (scope parts inner : List CodeText) (name : CodeText) :
    Option KnownType :=
  (innermost? (fun depth => table.atDepth? scope (parts ++ inner) name (parts.length + depth))
    inner.length).or (table.atDepth? scope (parts ++ inner) name parts.length)

theorem inside?_eq_none_iff : table.inside? scope parts inner name = none ↔
    ∀ depth, parts.length ≤ depth → depth ≤ (parts ++ inner).length →
      table.atDepth? scope (parts ++ inner) name depth = none := by
  rw [inside?, Option.or_eq_none_iff, innermost?_eq_none_iff, List.length_append]
  constructor
  · rintro ⟨further, own⟩ depth least bounded
    rcases Nat.eq_or_lt_of_le least with rfl | less
    · exact own
    · obtain ⟨more, rfl⟩ := Nat.exists_eq_add_of_le least
      exact further more (by omega) (by omega)
  · intro all
    exact ⟨fun depth _ bounded => all _ (by omega) (by omega), all _ le_rfl (by omega)⟩

theorem lookup_joined (relative : ¬ Name.scopeSeparator <+: Name.normalize name)
    (proper : parts ≠ []) (inner : List CodeText) :
    table.lookup name (scope ++ ([joinWith Name.scopeSeparator parts] ++ inner)) =
      (table.inside? scope parts inner name).or (table.lookup name scope) := by
  rw [lookup_append relative, List.length_append, List.length_singleton, innermost?_add]
  simp only [atDepth?_joined proper]
  rw [innermost?, innermost?, Option.or_none]
  exact congrArg (fun own => (Option.or _ own).or _) (atDepth?_joined proper 0)

theorem lookup_parts (relative : ¬ Name.scopeSeparator <+: Name.normalize name) {last : Nat}
    (length_eq : parts.length = last + 1) (inner : List CodeText) :
    table.lookup name (scope ++ (parts ++ inner)) =
      (table.inside? scope parts inner name).or
        ((innermost? (table.atDepth? scope (parts ++ inner) name) last).or
          (table.lookup name scope)) := by
  rw [lookup_append relative, List.length_append, innermost?_add, inside?, length_eq, innermost?,
    Option.or_assoc, Option.or_assoc, Option.or_assoc]

/-- A name is missed if the parts of the name of a record count as one scope: the innermost scope
that has it is one between them, and further out it does not stand for the same type. -/
structure Misses (table : KnownTypes) (scope parts inner : List CodeText) (name : CodeText) :
    Prop where
  relative : ¬ Name.scopeSeparator <+: Name.normalize name
  between : ∃ depth entry, 0 < depth ∧ depth < parts.length ∧
    table.atDepth? scope (parts ++ inner) name depth = some entry ∧
    (∀ deeper, depth < deeper → deeper ≤ (parts ++ inner).length →
      table.atDepth? scope (parts ++ inner) name deeper = none) ∧
    table.lookup name scope ≠ some entry

theorem misses_iff (relative : ¬ Name.scopeSeparator <+: Name.normalize name) {last : Nat}
    (length_eq : parts.length = last + 1) :
    table.Misses scope parts inner name ↔ table.inside? scope parts inner name = none ∧
      ∃ entry, innermost? (table.atDepth? scope (parts ++ inner) name) last = some entry ∧
        table.lookup name scope ≠ some entry := by
  simp only [inside?_eq_none_iff, innermost?_eq_some_iff]
  have least : parts.length ≤ (parts ++ inner).length := by simp
  constructor
  · rintro ⟨-, depth, entry, positive, bounded, found, deeper, other⟩
    exact ⟨fun further above below => deeper further (by omega) below, entry,
      ⟨depth, positive, by omega, found, fun further above below =>
        deeper further above (by omega)⟩, other⟩
  · rintro ⟨within, entry, ⟨depth, positive, bounded, found, deeper⟩, other⟩
    refine ⟨relative, depth, entry, positive, by omega, found, fun further above below => ?_, other⟩
    rcases Nat.lt_or_ge last further with beyond | between
    · exact within further (by omega) below
    · exact deeper further above between

/-- Joining the parts of a name loses what is missed and nothing else. -/
theorem lookup_joined_eq_iff (proper : parts ≠ []) :
    table.lookup name (scope ++ ([joinWith Name.scopeSeparator parts] ++ inner)) =
        table.lookup name (scope ++ (parts ++ inner)) ↔
      ¬ table.Misses scope parts inner name := by
  by_cases absolute : Name.scopeSeparator <+: Name.normalize name
  · exact iff_of_true (lookup_of_absolute absolute _) fun missed => missed.relative absolute
  obtain ⟨last, length_eq⟩ := Nat.exists_eq_succ_of_ne_zero (mt List.length_eq_zero_iff.mp proper)
  rw [lookup_joined absolute proper, lookup_parts absolute length_eq,
    misses_iff absolute length_eq]
  cases table.inside? scope parts inner name with
  | some entry => simp
  | none =>
      cases innermost? (table.atDepth? scope (parts ++ inner) name) last with
      | none => simp
      | some entry => simp

end KnownTypes

/-! ## The members of a record -/

theorem proper_of_mem_scopeParts {text part : CodeText} (mem : part ∈ scopeParts text) :
    part ≠ [] := by
  simpa using List.of_mem_filter mem

namespace SessionPart

variable {scope : List CodeText} {given : Option CodeText} {node body nameNode : SyntaxNode}
  {session after : Session} {built : RecordReading} {text : CodeText}

theorem RecordRun.memberScope_eq
    (run : RecordRun scope given node body session built after)
    (named : node.child? "name" = some nameNode) (written : nameNode.text = .ok text) :
    run.head.memberScope scope = scope ++ (Text.proper? (some (Name.normalize text))).toList := by
  have own : run.head.writtenName = node.writtenName given :=
    recordHead_writtenName _ _ _ _ _ _ run.heads
  rw [RecordHead.memberScope, RecordHead.ownName, own, SyntaxNode.writtenName, named]
  simp [written, Except.toOption]

/-- Among the members of a record whose name consists of several parts, a name stands for what it
stands for in a namespace of that name, unless it is missed. -/
theorem lookup_memberScope_eq_iff (found : node.child? "body" = some body)
    (ran : (readRecord scope given node).run session = (.ok built, after))
    (named : node.child? "name" = some nameNode) (written : nameNode.text = .ok text)
    (separated : joinWith Name.scopeSeparator (scopeParts text) = Name.normalize text) :
    ∃ run : RecordRun scope given node body session built after,
      ∀ (table : KnownTypes) (inner : List CodeText) (name : CodeText),
        table.lookup name (run.head.memberScope scope ++ inner) =
            table.lookup name (scope ++ scopeParts text ++ inner) ↔
          ¬ table.Misses scope (scopeParts text) inner name := by
  obtain ⟨run⟩ := nonempty_recordRun found ran
  refine ⟨run, fun table inner name => ?_⟩
  rw [run.memberScope_eq named written, ← separated]
  rcases eq_or_ne (scopeParts text) [] with unnamed | proper
  · rw [unnamed]
    refine iff_of_true (by simp [joinWith, Text.proper?, Option.filter]) fun missed => ?_
    obtain ⟨depth, -, -, bounded, -⟩ := missed.between
    exact absurd bounded (Nat.not_lt_zero depth)
  · have nonempty : joinWith Name.scopeSeparator (scopeParts text) ≠ [] :=
      mt (joinWith_eq_nil fun _ => proper_of_mem_scopeParts).mp proper
    have own : Text.proper? (some (joinWith Name.scopeSeparator (scopeParts text))) =
        some (joinWith Name.scopeSeparator (scopeParts text)) := by
      simp [Text.proper?, nonempty]
    rw [own, Option.toList_some, List.append_assoc, List.append_assoc]
    exact KnownTypes.lookup_joined_eq_iff proper

def nestedName : SyntaxNode :=
  .mk { kind := "qualified_identifier", field := "name", named := true,
        bytes := some [65, 58, 58, 66] } []

def nestedBody : SyntaxNode :=
  .mk { kind := "field_declaration_list", field := "body", named := true } [fieldNode 84]

/-- `struct A::B { T x; };` -/
def nestedRecord : SyntaxNode :=
  .mk { kind := "struct_specifier", named := true } [nestedName, nestedBody]

def knowsOuter : Session where
  file := "t.h"
  types := ({ model := .lp64 } : KnownTypes).define
    { name := "A::T", kind := .record, layout := ⟨some 4, some 4⟩ }

theorem nestedRecord_read : ∃ built after,
    (readRecord [] none nestedRecord).run knowsOuter = (.ok built, after) ∧
      built.record.fields.items.map (·.type.size) = [none] ∧
      after.types.lookup "T" ["A::B"] = none ∧
      (after.types.lookup "T" ["A", "B"]).map (·.layout) = some ⟨some 4, some 4⟩ := by
  have read : ((readRecord [] none nestedRecord).run knowsOuter).1.toOption.map
        (fun built => built.record.fields.items.map (·.type.size)) = some [none] ∧
      ((readRecord [] none nestedRecord).run knowsOuter).2.types.lookup "T" ["A::B"] = none ∧
      (((readRecord [] none nestedRecord).run knowsOuter).2.types.lookup "T" ["A", "B"]).map
        (·.layout) = some ⟨some 4, some 4⟩ := by
    rw [@readRecord_single nestedRecord nestedBody (fieldNode 84)
      (letterNode "type_identifier" "type" 84) [] none rfl rfl rfl rfl rfl]
    decide +kernel
  rcases ran : (readRecord [] none nestedRecord).run knowsOuter with ⟨fault | built, after⟩ <;>
    rw [ran] at read
  · cases read.1
  · exact ⟨built, after, rfl, Option.some.inj read.1, read.2⟩

theorem nestedName_text : nestedName.text = .ok "A::B" := by
  decide +kernel

theorem nestedRecord_lookup :
    ∃ (built : RecordReading) (after : Session)
      (run : RecordRun [] none nestedRecord nestedBody knowsOuter built after),
      ∀ (table : KnownTypes) (inner : List CodeText) (name : CodeText),
        table.lookup name (run.head.memberScope [] ++ inner) =
            table.lookup name ([] ++ scopeParts "A::B" ++ inner) ↔
          ¬ table.Misses [] (scopeParts "A::B") inner name := by
  obtain ⟨built, after, ran, -⟩ := nestedRecord_read
  exact ⟨built, after, lookup_memberScope_eq_iff rfl ran rfl nestedName_text (by decide +kernel)⟩

/-- `T x;` in `struct A::B` is not `A::T`. -/
theorem outerName_missed :
    ∃ (built : RecordReading) (after : Session)
      (run : RecordRun [] none nestedRecord nestedBody knowsOuter built after),
      built.record.fields.items.map (·.type.size) = [none] ∧
        after.types.lookup "T" (run.head.memberScope []) = none ∧
        (after.types.lookup "T" ["A", "B"]).map (·.layout) = some ⟨some 4, some 4⟩ := by
  obtain ⟨built, after, ran, sizes, missed, other⟩ := nestedRecord_read
  obtain ⟨run⟩ := nonempty_recordRun rfl ran
  refine ⟨built, after, run, sizes, ?_, other⟩
  rwa [run.memberScope_eq rfl nestedName_text]

end SessionPart

end TypeCatalog
