import TypeCatalog.Proofs.Accounting
import TypeCatalog.Proofs.Coverage
import TypeCatalog.Proofs.RoundTrip

/-!
# Functions that are taken for the same

A function is passed over as a repetition if text has been written for an
earlier function with the same name and the same names of parameter types, and
only then.  Whether the two take further arguments makes no difference.
-/

namespace TypeCatalog

open Document
open Text (CodeText)

/-! ## Signatures seen -/

theorem Ledger.Documents.dumpAll_eq {before after : Ledger} {declaration : Declaration}
    {result : Except WalkFault Bool} {blocks : List Block}
    (documented : before.Documents declaration result after blocks) :
    after.dumpAll = before.dumpAll := by
  cases documented with
  | ignored | unread | ineligible | aborted | repeated | entered => rfl
  | forward => exact await_dumpAll _ _ _
  | @passed record own _ reading complete decided =>
      rcases define_none decided with ⟨-, rfl⟩ | ⟨-, -, rfl⟩
      · rfl
      · exact identify_dumpAll _ _
  | @defined record own next header entries ordinal result reading complete decided =>
      obtain ⟨-, -, published⟩ := define_some decided
      cases published
      exact identify_dumpAll _ _

theorem Ledger.Documents.signatures_iff {before after : Ledger} {declaration : Declaration}
    {result : Except WalkFault Bool} {blocks : List Block}
    (documented : before.Documents declaration result after blocks) (signature : Signature) :
    signature ∈ after.signatures ↔ signature ∈ before.signatures ∨
      blocks ≠ [] ∧ ∃ function, declaration = .function function ∧
        function.signature = signature := by
  cases documented with
  | ignored | unread | ineligible | aborted | repeated => simp
  | forward => simp
  | @passed record own _ reading complete decided =>
      rcases define_none decided with ⟨-, rfl⟩ | ⟨-, -, rfl⟩ <;> simp
  | @defined record own next header entries ordinal result reading complete decided =>
      obtain ⟨-, -, published⟩ := define_some decided
      cases published
      simp
  | @entered function own entries ordinal result =>
      simp [enter, or_comm, eq_comm]

namespace DeclarationCall

def writesText (call : DeclarationCall) : Prop :=
  Event.written call.step.events ≠ []

def isOf (call : DeclarationCall) (signature : Signature) : Prop :=
  ∃ function, call.declaration = .function function ∧ function.signature = signature

def isRepeated (call : DeclarationCall) : Prop :=
  call.step.result = .ok false ∧
    call.step.catalog.stats.duplicates = call.catalog.stats.duplicates + 1

theorem writesText_iff {blocks : List Block} {call : DeclarationCall}
    (text_eq : Event.written call.step.events = blocks.flatMap Block.text) :
    call.writesText ↔ blocks ≠ [] := by
  rw [writesText, text_eq]
  cases blocks with
  | nil => simp
  | cons block rest => simp [block.text_ne_nil]

end DeclarationCall

structure Catalog.Remembers (dumpAll : Bool) (names : List CodeText) (past : List DeclarationCall)
    (catalog : Catalog) : Prop where
  ground : catalog.writer.depth = 0
  dumpAll_eq : catalog.dumpAll = dumpAll
  names_eq : catalog.tagNames = names
  signatures_iff : ∀ signature, signature ∈ catalog.signatures ↔
    ∃ earlier ∈ past, earlier.isOf signature ∧ earlier.writesText

namespace Catalog.Remembers

variable {dumpAll : Bool} {names : List CodeText} {past : List DeclarationCall} {catalog : Catalog}

theorem fresh (dumpAll : Bool) (names : List CodeText) :
    Catalog.Remembers dumpAll names [] { dumpAll, tagNames := names } where
  ground := rfl
  dumpAll_eq := rfl
  names_eq := rfl
  signatures_iff := by simp

theorem step (remembers : catalog.Remembers dumpAll names past) (declaration : Declaration) :
    (catalog.documentDeclaration declaration).catalog.Remembers dumpAll names
      (past ++ [⟨catalog, declaration⟩]) := by
  obtain ⟨ground, -, blocks, text_eq, documented⟩ :=
    (Walk.documentDeclaration_writes declaration remembers.ground).perform
  refine ⟨ground, documented.dumpAll_eq.trans remembers.dumpAll_eq,
    documented.names.trans remembers.names_eq, fun signature => ?_⟩
  have written := @DeclarationCall.writesText_iff blocks ⟨catalog, declaration⟩ text_eq
  rw [show signature ∈ (catalog.documentDeclaration declaration).catalog.signatures ↔ _ from
    documented.signatures_iff signature, ← written]
  simp only [List.mem_append, List.mem_singleton, or_and_right, exists_or, exists_eq_left,
    ← remembers.signatures_iff]
  exact or_congr_right and_comm

theorem of_callsFor (remembers : catalog.Remembers dumpAll names past)
    {declarations : List Declaration} {early late : List DeclarationCall} {call : DeclarationCall}
    (place : catalog.callsFor declarations = early ++ call :: late) :
    call.catalog.Remembers dumpAll names (past ++ early) := by
  induction declarations generalizing catalog past early with
  | nil => cases early <;> cases place
  | cons declaration rest ih =>
      cases early with
      | nil =>
          obtain ⟨rfl, -⟩ := List.cons.inj place
          simpa using remembers
      | cons first early =>
          obtain ⟨rfl, later⟩ := List.cons.inj place
          simpa using ih (remembers.step declaration) later

end Catalog.Remembers

/-! ## Verdicts on functions -/

/-- Whether there is a reason to document a function and nothing against it. -/
structure Function.IsDue (dumpAll : Bool) (names : List CodeText) (function : Function) : Prop where
  readable : ∃ own, (Tag.ofAttributes names function.attributes).result = .ok own
  chosen : IsChosen dumpAll names function.attributes
  calm : function.parameters.fault = none

section

variable {before after : Ledger} {function : Function} {blocks : List Block}

theorem Ledger.Documents.blocks_ne_nil_iff {result : Except WalkFault Bool}
    (documented : before.Documents (.function function) result after blocks) :
    blocks ≠ [] ↔
      function.IsDue before.dumpAll before.names ∧ function.signature ∉ before.signatures := by
  cases documented with
  | ignored _ notFunction => exact absurd rfl (notFunction function)
  | unread documentable reading =>
      refine iff_of_false (by simp) ?_
      rintro ⟨⟨⟨own, readable⟩, -, -⟩, -⟩
      cases reading.symm.trans readable
  | ineligible reading skipped =>
      refine iff_of_false (by simp) ?_
      rintro ⟨⟨-, chosen, -⟩, -⟩
      rw [(isEligible_iff reading).mpr chosen] at skipped
      cases skipped
  | aborted reading fault =>
      refine iff_of_false (by simp) ?_
      rintro ⟨⟨-, -, calm⟩, -⟩
      rw [fault] at calm
      cases calm
  | repeated reading calm seen => exact iff_of_false (by simp) fun due => due.2 seen
  | entered reading eligible calm fresh =>
      have due : function.IsDue before.dumpAll before.names :=
        ⟨⟨_, reading⟩, (isEligible_iff reading).mp eligible, calm⟩
      exact iff_of_true (by simp) ⟨due, fresh⟩

theorem Ledger.Documents.exists_tags {value : Bool}
    (documented : before.Documents (.function function) (.ok value) after blocks) :
    ∃ own, (Tag.ofAttributes before.names function.attributes).result = .ok own := by
  cases documented with
  | ignored _ notFunction => exact absurd rfl (notFunction function)
  | ineligible reading | aborted reading | repeated reading | entered reading => exact ⟨_, reading⟩

end

theorem Walk.documentFunction_lifted {function : Function} {start : Catalog} {passing : Passing}
    (passes : (documentFunction function).Passes start passing) :
    (documentDeclaration (.function function)).Passes start passing := by
  rw [documentDeclaration_eq]
  apply Writes.catalog_bind
  apply Writes.tryCatch
  refine Writes.mono passes ?_
  rintro result after text ⟨rfl, rfl, rfl⟩
  exact ⟨rfl, rfl, rfl⟩

namespace DeclarationCall

variable {call : DeclarationCall} {function : Function}

theorem writesText_iff_fresh (ground : call.catalog.writer.depth = 0)
    (isFunction : call.declaration = .function function) :
    call.writesText ↔ function.IsDue call.catalog.dumpAll call.catalog.tagNames ∧
      function.signature ∉ call.catalog.signatures := by
  obtain ⟨-, -, blocks, text_eq, documented⟩ :=
    (Walk.documentDeclaration_writes call.declaration ground).perform
  rw [writesText_iff text_eq]
  rw [isFunction] at documented
  exact documented.blocks_ne_nil_iff

theorem isRepeated_of_seen (isFunction : call.declaration = .function function)
    (due : function.IsDue call.catalog.dumpAll call.catalog.tagNames)
    (seen : function.signature ∈ call.catalog.signatures) : call.isRepeated := by
  obtain ⟨⟨own, reading⟩, chosen, calm⟩ := due
  obtain ⟨result_eq, after_eq, -⟩ := (Walk.documentFunction_lifted (Walk.passes_repeatedFunction
    reading ((isEligible_iff reading).mpr chosen) calm seen)).perform
  rw [← isFunction] at result_eq after_eq
  refine ⟨result_eq, ?_⟩
  change (call.catalog.perform _).catalog.stats.duplicates = _
  rw [after_eq]
  rfl

theorem not_isRepeated_of_writesText (ground : call.catalog.writer.depth = 0)
    (written : call.writesText) : ¬call.isRepeated := by
  rintro ⟨result_eq, -⟩
  obtain ⟨verdict, settles, writes_eq, -⟩ := exists_verdict ground result_eq
  exact written (settles.silent writes_eq).1

theorem isDue_of_isRepeated (ground : call.catalog.writer.depth = 0)
    (isFunction : call.declaration = .function function) (repeated : call.isRepeated) :
    function.IsDue call.catalog.dumpAll call.catalog.tagNames := by
  obtain ⟨result_eq, counted⟩ := repeated
  change (call.catalog.perform (Walk.documentDeclaration call.declaration)).result = _ at result_eq
  change (call.catalog.perform (Walk.documentDeclaration call.declaration)).catalog.stats.duplicates
    = _ at counted
  rw [isFunction] at result_eq counted
  obtain ⟨-, -, blocks, -, documented⟩ :=
    (Walk.documentDeclaration_writes (.function function) ground).perform
  rw [result_eq] at documented
  obtain ⟨own, reading⟩ := documented.exists_tags
  rcases eligible : Tag.isEligible own call.catalog.dumpAll with _ | _
  · obtain ⟨-, after_eq, -⟩ :=
      (Walk.documentFunction_lifted (Walk.passes_ineligibleFunction reading eligible)).perform
    rw [after_eq] at counted
    exact absurd counted (Nat.ne_of_lt (Nat.lt_succ_self _))
  · rcases lost : function.parameters.fault with _ | message
    · exact ⟨⟨own, reading⟩, (isEligible_iff reading).mp eligible, lost⟩
    · obtain ⟨-, -, after_eq⟩ := documentFunction_interrupted reading eligible lost
      rw [← Catalog.documentDeclaration, after_eq] at counted
      exact absurd counted (Nat.ne_of_lt (Nat.lt_succ_self _))

theorem isRepeated_iff_seen (ground : call.catalog.writer.depth = 0)
    (isFunction : call.declaration = .function function) :
    call.isRepeated ↔ function.IsDue call.catalog.dumpAll call.catalog.tagNames ∧
      function.signature ∈ call.catalog.signatures := by
  constructor
  · intro repeated
    have due := isDue_of_isRepeated ground isFunction repeated
    refine ⟨due, by_contra fun fresh => ?_⟩
    exact not_isRepeated_of_writesText ground
      ((writesText_iff_fresh ground isFunction).mpr ⟨due, fresh⟩) repeated
  · rintro ⟨due, seen⟩
    exact isRepeated_of_seen isFunction due seen

end DeclarationCall

/-- Of calls in a row, one for a function is passed over as a repetition just if the function is
due and text was written for an earlier function with the same name and parameter types, and text
is written for it just if it is due and there was none. -/
theorem function_repeated_iff_signature_written (dumpAll : Bool) (tagNames : List CodeText)
    (declarations : List Declaration) (early late : List DeclarationCall) (call : DeclarationCall)
    (function : Function)
    (place : Catalog.callsFor { dumpAll, tagNames } declarations = early ++ call :: late)
    (isFunction : call.declaration = .function function) :
    (call.isRepeated ↔ function.IsDue dumpAll tagNames ∧
      ∃ earlier ∈ early, earlier.isOf function.signature ∧ earlier.writesText) ∧
    (call.writesText ↔ function.IsDue dumpAll tagNames ∧
      ∀ earlier ∈ early, earlier.isOf function.signature → ¬earlier.writesText) := by
  have remembers := (Catalog.Remembers.fresh dumpAll tagNames).of_callsFor place
  have repeated := DeclarationCall.isRepeated_iff_seen remembers.ground isFunction
  have written := DeclarationCall.writesText_iff_fresh remembers.ground isFunction
  rw [remembers.dumpAll_eq, remembers.names_eq, remembers.signatures_iff, List.nil_append]
    at repeated written
  refine ⟨repeated, written.trans ?_⟩
  simp only [not_exists, not_and]

def takingInt : Function where
  name := some "f"
  location := ⟨"t.h", 1⟩
  parameters := { items := [{ name := some "n", type := { name := some "int" } }] }

theorem emptyOverload_written :
    let start : Catalog := { dumpAll := true }
    let call : DeclarationCall :=
      ⟨(start.documentDeclaration (.function takingInt)).catalog,
        .function { takingInt with parameters := {} }⟩
    start.callsFor [.function takingInt, call.declaration] =
        [⟨start, .function takingInt⟩] ++ [call] ∧ call.writesText := by
  intro start call
  refine ⟨rfl, (function_repeated_iff_signature_written true Tag.defaultNames
    [.function takingInt, call.declaration] [⟨start, .function takingInt⟩] [] call _ rfl
    rfl).2.mpr ⟨⟨⟨[], rfl⟩, .inl rfl, rfl⟩, ?_⟩⟩
  rintro earlier mem ⟨other, isFunction, same⟩
  obtain rfl := List.mem_singleton.mp mem
  cases isFunction
  exact absurd same (by decide)

/-- The functions `f(int n)` and `f(int n, ...)` are taken for the same. -/
theorem variadicOverload_repeated :
    let start : Catalog := { dumpAll := true }
    let first := start.documentDeclaration (.function takingInt)
    let second := first.catalog.documentDeclaration
      (.function { takingInt with flags := { variadic := true } })
    takingInt.flags.variadic = false ∧ first.result = .ok true ∧ second.result = .ok false ∧
      second.catalog.stats.duplicates = 1 := by
  decide +kernel

end TypeCatalog
