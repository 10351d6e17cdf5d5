import TypeCatalog.Proofs.NormalForm
import TypeCatalog.Proofs.RecordRuns
import TypeCatalog.Proofs.TextParts

/-!
# Copy and move constructors

A constructor is taken for a copy or move constructor if its parameter is a
reference to a type with the last name of the record.  A type in another scope
may have that name too.  If the type is written without any scope, and no type
inside the record has the name, it is the record itself.
-/

namespace TypeCatalog

open Text

/-! ## Names without scopes -/

namespace Name

structure IsPlain (name : CodeText) : Prop where
  single : splitLast? name = none
  bare : .scalar '<' ∉ name

theorem simple_of_plain {name : CodeText} (plain : IsPlain name)
    (visible : ∀ c ∈ name, c.isBlank = false) : simple name = name := by
  have whole : name.takeWhile (· != .scalar '<') = name := by
    rw [List.takeWhile_eq_self_iff]
    intro c mem
    simpa using fun same : c = .scalar '<' => plain.bare (same ▸ mem)
  simp [simple, whole, plain.single, trim_of_visible visible]

theorem spaced_of_visible {name : CodeText} (visible : ∀ c ∈ name, c.isBlank = false) :
    spaced false name = name.map (false, ·) := by
  induction name with
  | nil => rfl
  | cons c rest ih =>
      rw [spaced_visible (visible c List.mem_cons_self),
        ih fun d later => visible d (List.mem_cons_of_mem _ later)]
      rfl

theorem shown_of_tight {row : Row} (tight : ∀ point ∈ row, point.1 = false) :
    shown row = row.map (·.2) := by
  induction row with
  | nil => rfl
  | cons point rest ih =>
      obtain ⟨gap, c⟩ := point
      have first : gap = false := tight (gap, c) List.mem_cons_self
      rw [shown_cons, ih fun other later => tight other (List.mem_cons_of_mem _ later), first]
      rfl

theorem Tighter.none_of_none {tight loose : Row} (closed : Tighter tight loose)
    (none : ∀ point ∈ loose, point.1 = false) : ∀ point ∈ tight, point.1 = false := by
  induction closed with
  | nil => exact none
  | cons point _ ih =>
      rw [List.forall_mem_cons] at none ⊢
      exact ⟨Bool.eq_false_iff.mpr fun gap => by simp [point.1 gap] at none, ih none.2⟩

theorem normalize_of_visible {name : CodeText} (visible : ∀ c ∈ name, c.isBlank = false) :
    normalize name = name := by
  have row_eq : rowOf name = name.map (false, ·) := by
    rw [rowOf, spaced_of_visible visible]
    cases name <;> rfl
  have closed := tighter_tighten (rowOf name)
  have tight : ∀ point ∈ tighten (rowOf name), point.1 = false :=
    closed.none_of_none (by simp [row_eq])
  rw [normalize_eq, shown_of_tight tight, closed.map_eq, row_eq, List.map_map]
  exact List.map_id name

end Name

/-! ## References -/

theorem visible_dropQualifiers (inWord : Bool) (skip : Nat) (text : CodeText) :
    ∀ c ∈ dropQualifiers inWord skip text, c.isBlank = false := by
  fun_induction dropQualifiers inWord skip text <;> simp_all

theorem eq_take_append_replicate {text : CodeText} {mark : CodePoint} {count : Nat}
    (counted : (text.reverse.takeWhile (· == mark)).length = count) :
    text = text.take (text.length - count) ++ List.replicate count mark := by
  have marks : text.reverse.takeWhile (· == mark) = List.replicate count mark := by
    rw [List.eq_replicate_iff]
    exact ⟨counted, fun c mem => by simpa using List.mem_takeWhile_imp mem⟩
  have parts := List.takeWhile_append_dropWhile (p := (· == mark)) (l := text.reverse)
  rw [marks] at parts
  obtain ⟨front, rfl⟩ : ∃ front, text = front ++ List.replicate count mark :=
    ⟨(text.reverse.dropWhile (· == mark)).reverse,
      by simpa using (congrArg List.reverse parts).symm⟩
  simp

def ConstructorKind.marks : ConstructorKind → CodeText
  | .default => []
  | .copy => "&"
  | .move => "&&"

/-- A constructor that is not the default one is told by its parameter, which refers to a type with
the last name of the record. -/
theorem reference_of_constructorKind? {list : ParameterList} {className : CodeText}
    {kind : ConstructorKind} (kind_eq : constructorKind? list className = some kind)
    (other : kind ≠ .default) :
    ∃ parameter others referred, list.parameters = parameter :: others ∧
      dropQualifiers false 0 (parameter.type.name.getD "") = referred ++ kind.marks ∧
      Name.simple referred = Name.simple className := by
  unfold constructorKind? at kind_eq
  split at kind_eq
  · cases kind_eq
    exact absurd rfl other
  split at kind_eq
  · cases kind_eq
  dsimp only at kind_eq
  generalize compact_eq :
    dropQualifiers false 0 ((list.parameters.head?.bind (·.type.name)).getD "") = compact at kind_eq
  split at kind_eq
  · cases kind_eq
  rename_i same
  rw [Bool.not_eq_true, bne_eq_false_iff_eq] at same
  have reference {marks : Nat}
      (counted : (compact.reverse.takeWhile (· == .scalar '&')).length = marks + 1) :
      ∃ parameter others referred, list.parameters = parameter :: others ∧
        dropQualifiers false 0 (parameter.type.name.getD "") =
          referred ++ List.replicate (marks + 1) (.scalar '&') ∧
        Name.simple referred = Name.simple className := by
    rw [counted] at same
    rcases parameters_eq : list.parameters with _ | ⟨parameter, others⟩
    · have nothing : compact = [] := by rw [← compact_eq, parameters_eq]; rfl
      simp [nothing] at counted
    · rw [parameters_eq] at compact_eq
      exact ⟨parameter, others, _, rfl, compact_eq.trans (eq_take_append_replicate counted), same⟩
  split at kind_eq
  · rename_i single
    cases kind_eq
    exact reference (beq_iff_eq.mp single)
  split at kind_eq
  · rename_i double
    cases kind_eq
    exact reference (beq_iff_eq.mp double)
  · cases kind_eq

/-! ## Looking up the record from its members -/

theorem joinWith_concat {α : Type} (separator : List α) (pieces : List (List α)) (last : List α) :
    joinWith separator (pieces ++ [last]) =
      if pieces = [] then last else joinWith separator pieces ++ separator ++ last := by
  induction pieces with
  | nil => rfl
  | cons piece rest ih =>
      cases rest with
      | nil => simp [joinWith]
      | cons next rest => simpa [joinWith] using ih

theorem joinWith_eq_nil {α : Type} {separator : List α} {pieces : List (List α)}
    (proper : ∀ piece ∈ pieces, piece ≠ []) : joinWith separator pieces = [] ↔ pieces = [] := by
  match pieces with
  | [] => simp [joinWith]
  | [piece] => simpa [joinWith] using proper
  | piece :: next :: rest =>
      have first := proper piece List.mem_cons_self
      simp [joinWith, first]

namespace KnownTypes

variable {table : KnownTypes} {scope : List CodeText} {own : CodeText}

/-- From the scope of its members a record is found under its own name, unless a type inside the
record has that name. -/
theorem lookup_own {entry : KnownType} (proper : ∀ part ∈ scope ++ [own], part ≠ [])
    (plain : Name.IsPlain own) (visible : ∀ c ∈ own, c.isBlank = false)
    (unhidden : table.find? (joinWith Name.scopeSeparator (scope ++ [own, own])) = none)
    (found : table.find? (joinWith Name.scopeSeparator (scope ++ [own])) = some entry) :
    table.lookup own (scope ++ [own]) = some entry := by
  have key (outer : List CodeText) (listed : ∀ part ∈ outer, part ≠ []) :
      (if (joinWith Name.scopeSeparator outer).isEmpty then own
        else joinWith Name.scopeSeparator outer ++ Name.scopeSeparator ++ own) =
        joinWith Name.scopeSeparator (outer ++ [own]) := by
    rw [joinWith_concat]
    simp only [List.isEmpty_iff, joinWith_eq_nil listed]
  have outside : ∀ part ∈ scope, part ≠ [] := fun part mem => proper part (by simp [mem])
  have first : (candidates (scope ++ [own]) own).findSome? table.find? = some entry := by
    have depths : (List.range ((scope ++ [own]).length + 1)).reverse =
        (scope.length + 1) :: scope.length :: (List.range scope.length).reverse := by
      simp [List.range_succ]
    have whole : (scope ++ [own]).take (scope.length + 1) = scope ++ [own] :=
      List.take_of_length_le (by simp)
    have outer : (scope ++ [own]).take scope.length = scope := List.take_left
    rw [candidates, depths]
    simp only [List.map_cons, whole, outer, key _ proper, key _ outside, List.findSome?_cons]
    rw [List.append_assoc, List.singleton_append, unhidden, found]
  rw [lookup, Name.normalize_of_visible visible]
  split
  · -- a leading separator is one
    have single := plain.single
    rw [Name.splitLast?] at single
    split at single <;> cases single
  · exact first

end KnownTypes

/-- The name of a record is entered as it is written: the names of the scopes and its own make up a
normal form. -/
structure RecordHead.WrittenIn (head : RecordHead) (scope : List CodeText) (own : CodeText) :
    Prop where
  named : head.ownName = some own
  plain : Name.IsPlain own
  visible : ∀ c ∈ own, c.isBlank = false
  proper : ∀ part ∈ scope, part ≠ []
  normal : Name.normalize (joinWith Name.scopeSeparator (scope ++ [own])) =
    joinWith Name.scopeSeparator (scope ++ [own])

theorem RecordHead.WrittenIn.own_ne_nil {head : RecordHead} {scope : List CodeText}
    {own : CodeText} (written : head.WrittenIn scope own) : own ≠ [] := by
  simpa using (Option.filter_eq_some_iff.mp written.named).2

namespace SessionPart

variable {scope : List CodeText} {given : Option CodeText} {node body : SyntaxNode}
  {session after : Session} {built : RecordReading}

namespace RecordRun

variable (run : RecordRun scope given node body session built after) {own : CodeText}
include run

theorem record_name (written : run.head.WrittenIn scope own) :
    Text.proper? built.record.name = some (joinWith Name.scopeSeparator (scope ++ [own])) := by
  have qualified : built.record.name = some (joinWith Name.scopeSeparator (scope ++ [own])) := by
    rw [run.record_eq]
    change run.plan.head.qualified = _
    rw [run.head_qualified, run.plan_head, written.named, Option.map_some, Name.qualify,
      written.normal]
  have proper : ∀ part ∈ scope ++ [own], part ≠ [] := by
    simpa [or_imp, forall_and] using ⟨written.proper, written.own_ne_nil⟩
  rw [qualified, Text.proper?, Option.filter_eq_some_iff]
  simp [joinWith_eq_nil proper]

/-- A name without scopes that has the last part of the name of the record is the own name of the
record, and names the record among its members. -/
theorem lookup_of_plain (written : run.head.WrittenIn scope own) {referred : CodeText}
    (plain : Name.IsPlain referred) (visible : ∀ c ∈ referred, c.isBlank = false)
    (same : Name.simple referred = Name.simple own)
    (unhidden : after.types.find? (joinWith Name.scopeSeparator (scope ++ [own, own])) = none) :
    ∃ entry, run.plan.entry? run.state = some entry ∧
      after.types.lookup referred (run.head.memberScope scope) = some entry := by
  rw [Name.simple_of_plain plain visible, Name.simple_of_plain written.plain written.visible]
    at same
  subst same
  have named := run.record_name written
  have entered := run.find?_entry named
  rw [written.normal, run.entry?_eq named] at entered
  refine ⟨_, run.entry?_eq named, ?_⟩
  have scope_eq : run.head.memberScope scope = scope ++ [referred] := by
    rw [RecordHead.memberScope, written.named]
    rfl
  have proper : ∀ part ∈ scope ++ [referred], part ≠ [] := by
    simpa [or_imp, forall_and] using ⟨written.proper, written.own_ne_nil⟩
  rw [scope_eq]
  exact KnownTypes.lookup_own proper plain visible unhidden entered

end RecordRun

/-- A copy or move constructor has a reference to a type with the last name of the record as its
first parameter.  If that type is written without any scope and without template arguments, the
name of the record is as well, and no type inside the record has that name, the type is the
record. -/
theorem copies_refer_to_record (found : node.child? "body" = some body)
    (ran : (readRecord scope given node).run session = (.ok built, after)) :
    ∃ run : RecordRun scope given node body session built after,
      ∀ own, run.head.ownName = some own → ∀ method ∈ built.record.methods.items,
        ∀ kind, method.constructorKind = some kind → kind ≠ .default →
          ∃ parameter others referred, method.parameters.items = parameter :: others ∧
            dropQualifiers false 0 (parameter.type.name.getD "") = referred ++ kind.marks ∧
            Name.simple referred = Name.simple own ∧
            (run.head.WrittenIn scope own → Name.IsPlain referred →
              after.types.find? (joinWith Name.scopeSeparator (scope ++ [own, own])) = none →
              ∃ entry, run.plan.entry? run.state = some entry ∧
                after.types.lookup referred (run.head.memberScope scope) = some entry) := by
  obtain ⟨run⟩ := nonempty_recordRun found ran
  refine ⟨run, fun own named method listed kind kind_eq other => ?_⟩
  have className : run.head.writtenName.getD "" = own := by
    rw [(Option.filter_eq_some_iff.mp named).1]
    rfl
  obtain ⟨_, _, _, _, _, _, _, read⟩ := run.methods_declared method listed
  obtain ⟨list, parameters_eq, unkind | list_kind⟩ := read.kind
  · rw [unkind] at kind_eq
    cases kind_eq
  rw [className, kind_eq] at list_kind
  obtain ⟨parameter, others, referred, list_eq, spelled, same⟩ :=
    reference_of_constructorKind? list_kind.symm other
  refine ⟨parameter, others, referred, parameters_eq.trans list_eq, spelled, same, ?_⟩
  have visible : ∀ c ∈ referred, c.isBlank = false := by
    intro c mem
    refine visible_dropQualifiers false 0 (parameter.type.name.getD "") c ?_
    rw [spelled]
    exact List.mem_append_left _ mem
  exact fun written plain unhidden => run.lookup_of_plain written plain visible same unhidden

def knowsNamesake : Session where
  file := "t.h"
  types := ({ model := .lp64 } : KnownTypes).define
    { name := "o::S", kind := .record, layout := ⟨some 1, some 1⟩, empty := true }

/-- `S(T &);` with a type that is named by a node of a kind and some bytes. -/
def copyingMember (kind : String) (type : List UInt8) : SyntaxNode :=
  .mk { kind := "declaration", named := true }
    [.mk { kind := "function_declarator", field := "declarator", named := true }
      [letterNode "identifier" "declarator" 83,
        .mk { kind := "parameter_list", field := "parameters", named := true }
          [.mk { kind := "parameter_declaration", named := true }
            [.mk { kind, field := "type", named := true, bytes := some type } [],
              .mk { kind := "abstract_reference_declarator", field := "declarator", named := true,
                    bytes := some [38] } []]]]]

def copyingBody (kind : String) (type : List UInt8) : SyntaxNode :=
  .mk { kind := "field_declaration_list", field := "body", named := true }
    [copyingMember kind type]

/-- `struct S { S(T &); };` -/
def copyingRecord (kind : String) (type : List UInt8) : SyntaxNode :=
  .mk { kind := "struct_specifier", named := true }
    [letterNode "type_identifier" "name" 83, copyingBody kind type]

theorem readRecord_copying (scope : List CodeText) {kind : String} {type : List UInt8} :
    readRecord scope none (copyingRecord kind type) = (do
      let head ← recordHead scope none (copyingRecord kind type)
      let plan ← recordPlan scope head (copyingRecord kind type) (copyingBody kind type)
      let state ← readDeclarators (head.memberScope scope) head.writtenName
        (copyingMember kind type) { spelling := "" } (plan.start (← types).model)
      finishRecord plan state) := by
  have items_eq : (copyingBody kind type).items = [copyingMember kind type] := rfl
  have member_eq (scope : List CodeText) (className : Option CodeText) (state : MemberState) :
      readMember scope className state (copyingMember kind type) =
        readDeclarators scope className (copyingMember kind type) { spelling := "" } state := by
    rw [readMember]
    rfl
  rw [@readRecord_eq scope none _ (copyingBody kind type) rfl]
  simp only [items_eq, List.foldlM_cons, List.foldlM_nil, member_eq, bind_pure]

def constructors (built : RecordReading) :
    List (Option ConstructorKind × List (Option CodeText)) :=
  built.record.methods.items.map fun method =>
    (method.constructorKind, method.parameters.items.map (·.type.name))

def copyingRun (scope : List CodeText) (kind : String) (type : List UInt8) :
    Except SessionFault RecordReading × Session :=
  (readRecord scope none (copyingRecord kind type)).run knowsNamesake

theorem ownReference_copied :
    ∃ built after, copyingRun ["n"] "type_identifier" [83] = (.ok built, after) ∧
      (∃ method ∈ built.record.methods.items, method.constructorKind = some .copy) ∧
      ∃ (run : RecordRun ["n"] none (copyingRecord "type_identifier" [83])
          (copyingBody "type_identifier" [83]) knowsNamesake built after) (entry : KnownType),
        run.plan.entry? run.state = some entry ∧
          after.types.lookup "S" ["n", "S"] = some entry := by
  have read : (copyingRun ["n"] "type_identifier" [83]).1.toOption.map constructors =
        some [(some .copy, [some ("S &" : CodeText)])] ∧
      (copyingRun ["n"] "type_identifier" [83]).2.types.find? "n::S::S" = none := by
    rw [copyingRun, readRecord_copying]
    decide +kernel
  rcases ran : copyingRun ["n"] "type_identifier" [83] with ⟨fault | built, after⟩ <;>
    rw [ran] at read
  · cases read.1
  obtain ⟨copying, unhidden⟩ := read
  have listed := List.mem_singleton_self (some ConstructorKind.copy, [some ("S &" : CodeText)])
  rw [← Option.some.inj copying] at listed
  obtain ⟨method, listed, pair_eq⟩ := List.mem_map.mp listed
  obtain ⟨kind_eq, types_eq⟩ := Prod.mk.inj pair_eq
  obtain ⟨run, refers⟩ := copies_refer_to_record rfl ran
  have named : ∀ head headed, (recordHead ["n"] none (copyingRecord "type_identifier" [83])).run
      knowsNamesake = (.ok head, headed) → head.ownName = some ("S" : CodeText) := by
    rintro head headed heads
    cases heads
    decide +kernel
  have written : run.head.WrittenIn ["n"] "S" :=
    ⟨named _ _ run.heads, ⟨by decide, by decide⟩, by decide, by decide, by decide⟩
  obtain ⟨parameter, others, referred, parameters_eq, spelled, -, denotes⟩ :=
    refers "S" written.named method listed .copy kind_eq nofun
  have spelling : parameter.type.name = some ("S &" : CodeText) := by
    rw [parameters_eq] at types_eq
    exact (List.cons.inj types_eq).1
  have compact : dropQualifiers false 0 "S &" = ("S" : CodeText) ++ ConstructorKind.copy.marks := by
    decide
  rw [spelling, Option.getD_some, compact] at spelled
  have referred_eq : referred = ("S" : CodeText) := (List.append_cancel_right spelled).symm
  subst referred_eq
  have scope_eq : run.head.memberScope ["n"] = (["n", "S"] : List CodeText) := by
    rw [RecordHead.memberScope, written.named]
    rfl
  obtain ⟨entry, entry_eq, found⟩ := denotes written written.plain unhidden
  exact ⟨built, after, rfl, ⟨method, listed, kind_eq⟩, run, entry, entry_eq, scope_eq ▸ found⟩

/-- `struct S { S(o::S &); };` has a copy constructor although its parameter is another record. -/
theorem namesake_copied :
    (copyingRun [] "qualified_identifier" [111, 58, 58, 83]).1.toOption.map constructors =
        some [(some .copy, [some ("o::S &" : CodeText)])] ∧
      ((copyingRun [] "qualified_identifier" [111, 58, 58, 83]).2.types.lookup "o::S" ["S"]).map
        (·.name) = some ("o::S" : CodeText) ∧
      (copyingRun [] "qualified_identifier" [111, 58, 58, 83]).1.toOption.map (·.record.name) =
        some (some ("S" : CodeText)) := by
  rw [copyingRun, readRecord_copying]
  decide +kernel

end SessionPart

end TypeCatalog
