import TypeCatalog.Document.Operation
import TypeCatalog.Proofs.DistinctKeys

/-!
# Open blocks and the lines inside them

A program opens blocks and leaves them, several at once if a fault ends them.
Each open block remembers the depth outside of it, so leaving restores what
was there before, and the depth is the number of blocks that are open.  Every
operation that writes shows that depth by the spaces before its line.

A line is a single one as long as no name on it ends with a line feed, which
the checks of names let pass.
-/

namespace TypeCatalog

open Text
open Yaml

namespace Document

/-! ## Names -/

def Operation.names : Operation → List CodeText
  | .reference _ anchor => [anchor]
  | .mapping _ tag anchor => anchor.toList ++ tag.toList
  | .item tag => tag.toList
  | _ => []

def EndsLine (name : CodeText) : Prop :=
  name.getLast? = some (.scalar '\n')

theorem break_mem_name {allowed : Char → Bool} (refused : allowed '\n' = false) {name : CodeText}
    {chars : List Char} (accepted : name.chars?.filter (isNameOf allowed) = some chars) :
    '\n' ∈ chars ↔ EndsLine name := by
  obtain ⟨chars_eq, accepted⟩ := Option.filter_eq_some_iff.mp accepted
  have last : EndsLine name ↔ chars.getLast? = some '\n' := by
    rw [EndsLine, eq_ofChars_of_chars? chars_eq]
    simp [CodeText.ofChars]
  rw [last]
  refine ⟨fun mem => ?_, List.mem_of_getLast?⟩
  by_contra inside
  have parts : chars ≠ [] ∧ ∀ c ∈ chars, allowed c = true := by
    simpa [isNameOf, inside] using accepted
  simp [parts.2 '\n' mem] at refused

theorem break_mem_anchor {name : CodeText} {chars : List Char}
    (accepted : anchorName name = .ok chars) : '\n' ∈ chars ↔ EndsLine name := by
  unfold anchorName at accepted
  split at accepted
  · cases accepted
    exact break_mem_name rfl (by assumption)
  · cases accepted

theorem break_mem_tag {name : CodeText} {chars : List Char}
    (accepted : tagName name = .ok chars) : '\n' ∈ chars ↔ EndsLine name := by
  unfold tagName at accepted
  split at accepted
  · cases accepted
    exact break_mem_name rfl (by assumption)
  · cases accepted

theorem break_mem_properties {tag anchor : Option CodeText} {properties : List Char}
    (accepted : nodeProperties tag anchor = .ok properties) :
    '\n' ∈ properties ↔ ∃ name ∈ anchor.toList ++ tag.toList, EndsLine name := by
  have start : '\n' ∉ tagStart.toList := by decide
  rcases anchor with _ | anchor <;> rcases tag with _ | tag
  · cases accepted
    simp [joinWith]
  · rcases read : tagName tag with fault | chars <;>
      simp only [nodeProperties, read, bind, Except.bind, pure, Except.pure] at accepted <;>
      cases accepted
    simp [joinWith, start, break_mem_tag read]
  · rcases read : anchorName anchor with fault | chars <;>
      simp only [nodeProperties, read, bind, Except.bind, pure, Except.pure] at accepted <;>
      cases accepted
    simp [joinWith, break_mem_anchor read]
  · rcases read : anchorName anchor with fault | chars <;>
      simp only [nodeProperties, read, bind, Except.bind, pure, Except.pure] at accepted
    · cases accepted
    rcases other : tagName tag with fault | others <;> rw [other] at accepted <;> cases accepted
    simp [joinWith, start, break_mem_anchor read, break_mem_tag other]

/-! ## The line of an operation -/

def Operation.isUnsetFlag : Operation → Bool
  | .flag _ enabled => !enabled
  | _ => false

theorem Operation.opensBlock_of_unset {operation : Operation}
    (unset : operation.isUnsetFlag = true) : operation.opensBlock = false := by
  cases operation with
  | flag key enabled => rfl
  | _ => cases unset

/-- What an operation writes after the indentation.  It starts with no space, and goes over the
end of a line only with a name that does. -/
structure Operation.Shows (operation : Operation) (content : List Char) : Prop where
  solid : ∃ first rest, content = first :: rest ∧ first ≠ ' '
  breaks : '\n' ∈ content ↔ ∃ name ∈ operation.names, EndsLine name

namespace Operation.Shows

variable {operation : Operation} {more : List Char}

theorem key (key : CodeText) (breaks : '\n' ∈ more ↔ ∃ name ∈ operation.names, EndsLine name) :
    operation.Shows (Scalar.writtenText key ++ ':' :: more) where
  solid := by
    have solid := @head_writtenText_ne key (':' :: more) ' ' rfl (by decide)
    rcases content_eq : Scalar.writtenText key ++ ':' :: more with _ | ⟨first, rest⟩
    · simp at content_eq
    · exact ⟨first, rest, rfl, by simpa [content_eq] using solid⟩
  breaks := by
    have flat : '\n' ∉ Scalar.writtenText key := fun mem => flat_writtenText key _ mem rfl
    rw [← breaks]
    simp [flat]

theorem dash (breaks : '\n' ∈ more ↔ ∃ name ∈ operation.names, EndsLine name) :
    operation.Shows ('-' :: more) where
  solid := ⟨'-', more, rfl, by decide⟩
  breaks := by
    rw [← breaks]
    simp

end Operation.Shows

theorem break_not_mem_scalar {value : Scalar} {text : List Char}
    (written : scalarText value = .ok text) : '\n' ∉ text := by
  unfold scalarText at written
  split at written <;> cases written
  rename_i written_eq
  exact fun mem => flat_of_isBreak ((writtenWith_scalar written_eq).flat mem).2 rfl

def Operation.Writes (operation : Operation) (writer : LineWriter)
    (written : String × LineWriter) : Prop :=
  ∃ content, operation.Shows content ∧ written.1.toList = lineText writer.depth content ∧
    written.2.depth = writer.depth + if operation.opensBlock then 1 else 0

namespace Operation

variable {operation : Operation} {writer : LineWriter} {content : List Char}

theorem Writes.line (plain : operation.opensBlock = false) (shows : operation.Shows content) :
    operation.Writes writer (writer.line content) :=
  ⟨content, shows, by simp [LineWriter.line, lineText, indentation],
    by simp [LineWriter.line, plain]⟩

theorem Writes.block (opens : operation.opensBlock = true) (shows : operation.Shows content) :
    operation.Writes writer (writer.openBlock content) :=
  ⟨content, shows, by simp [LineWriter.openBlock, LineWriter.line, lineText, indentation],
    by simp [LineWriter.openBlock, LineWriter.line, LineWriter.enter, opens]⟩

theorem scalar_writes {written : String × LineWriter} {key : CodeText} {value : Scalar}
    (plain : operation.opensBlock = false) (unnamed : operation.names = [])
    (performed : writer.scalar key value = .ok written) : operation.Writes writer written := by
  rcases text_eq : scalarText value with fault | text <;>
    rw [LineWriter.scalar, text_eq] at performed <;> cases performed
  have flat := break_not_mem_scalar text_eq
  refine .line plain ?_
  rw [List.append_assoc]
  exact .key key (by simp [flat, unnamed])

end Operation

/-- Every operation but an unset flag writes a line, if it is not refused. -/
theorem LineWriter.perform_writes {writer : LineWriter} {operation : Operation}
    {written : String × LineWriter} (performed : writer.perform operation = .ok written)
    (shown : operation.isUnsetFlag = false) : operation.Writes writer written := by
  cases operation with
  | scalar key value => exact Operation.scalar_writes rfl rfl performed
  | flag key enabled =>
    obtain rfl : enabled = true := by simpa [Operation.isUnsetFlag] using shown
    exact Operation.scalar_writes rfl rfl performed
  | reference key anchor =>
    rcases read : anchorName anchor with fault | chars <;>
      rw [perform, reference, read] at performed <;> cases performed
    refine .line rfl ?_
    rw [List.append_assoc]
    exact .key key (by simp [break_mem_anchor read, Operation.names])
  | emptyList key =>
    cases performed
    have shows : (Operation.emptyList key).Shows (Scalar.writtenText key ++ ':' :: " []".toList) :=
      .key key (by simp [Operation.names])
    exact .line rfl shows
  | scalarItem value =>
    rcases text_eq : scalarText value with fault | text <;>
      rw [perform, scalarItem, text_eq] at performed <;> cases performed
    have flat := break_not_mem_scalar text_eq
    exact .line rfl (.dash (by simp [flat, Operation.names]))
  | mapping key tag anchor =>
    rcases read : nodeProperties tag anchor with fault | properties <;>
      rw [perform, mapping, read] at performed <;> cases performed
    have breaks := break_mem_properties read
    refine .block rfl ?_
    rcases properties with _ | ⟨first, rest⟩
    · exact .key key breaks
    · have shows : (Operation.mapping key tag anchor).Shows
          (Scalar.writtenText key ++ ':' :: ' ' :: first :: rest) :=
        .key key (by simpa [Operation.names] using breaks)
      simpa using shows
  | sequence key =>
    cases performed
    exact .block rfl (.key key (by simp [Operation.names]))
  | item tag =>
    rcases read : nodeProperties tag none with fault | properties <;>
      rw [perform, item, read] at performed <;> cases performed
    have breaks := break_mem_properties read
    refine .block rfl ?_
    rcases properties with _ | ⟨first, rest⟩
    · exact .dash breaks
    · exact .dash (by simpa [Operation.names] using breaks)

/-! ## Programs -/

def blocksAfter (blocks : Nat) : ProgramStep × StepAnswer → Nat
  | (.leave left, _) => blocks - left
  | (.operation operation, answer) =>
    if operation.opensBlock && answer.fault.isNone then blocks + 1 else blocks

def openBlocks (steps : List (ProgramStep × StepAnswer)) : Nat :=
  steps.foldl blocksAfter 0

namespace BlockWriter

def run (state : BlockWriter) : List ProgramStep → List StepAnswer × BlockWriter
  | [] => ([], state)
  | step :: rest =>
    let (answer, middle) := state.take step
    let (answers, last) := middle.run rest
    (answer :: answers, last)

inductive Performs (state : BlockWriter) (operation : Operation) :
    StepAnswer × BlockWriter → Prop
  | refused (fault : LineFault) : Performs state operation ({ fault := some fault }, state)
  | unset (silent : operation.isUnsetFlag = true) : Performs state operation ({}, state)
  | written {text : String} {after : LineWriter} (shown : operation.isUnsetFlag = false)
      (writes : operation.Writes state.writer (text, after)) :
      Performs state operation ({ text },
        { writer := after,
          entries := if operation.opensBlock then state.depth :: state.entries
            else state.entries })

theorem take_performs (state : BlockWriter) (operation : Operation) :
    state.Performs operation (state.take (.operation operation)) := by
  rcases unset : operation.isUnsetFlag with _ | _
  · rcases performed : state.writer.perform operation with fault | ⟨text, after⟩ <;>
      simp only [take, performed]
    · exact .refused fault
    · exact .written unset (LineWriter.perform_writes performed unset)
  · cases operation with
    | flag key enabled =>
      obtain rfl : enabled = false := by simpa [Operation.isUnsetFlag] using unset
      exact .unset rfl
    | _ => cases unset

/-- Each open block remembers how many blocks were open outside of it. -/
def IsNested (state : BlockWriter) : Prop :=
  state.entries = (List.range state.depth).reverse

variable {state : BlockWriter}

theorem IsNested.leaveBlock (nested : state.IsNested) :
    state.leaveBlock.IsNested ∧ state.leaveBlock.depth = state.depth - 1 := by
  obtain ⟨⟨depth, lines⟩, entries⟩ := state
  obtain rfl : entries = (List.range depth).reverse := nested
  rcases depth with _ | depth
  · exact ⟨rfl, rfl⟩
  · rw [List.range_succ, List.reverse_append, List.reverse_singleton, List.singleton_append]
    exact ⟨rfl, rfl⟩

theorem IsNested.leave (nested : state.IsNested) (blocks : Nat) :
    (state.leave blocks).IsNested ∧ (state.leave blocks).depth = state.depth - blocks := by
  induction blocks generalizing state with
  | zero => exact ⟨nested, rfl⟩
  | succ blocks ih =>
    obtain ⟨left, depth_eq⟩ := nested.leaveBlock
    obtain ⟨last, last_eq⟩ := ih left
    exact ⟨last, by rw [BlockWriter.leave, last_eq, depth_eq, Nat.sub_sub, Nat.add_comm]⟩

/-- A step keeps the blocks nested, and the depth follows the blocks that are open. -/
theorem IsNested.take (nested : state.IsNested) (step : ProgramStep) :
    (state.take step).2.IsNested ∧
      (state.take step).2.depth = blocksAfter state.depth (step, (state.take step).1) := by
  cases step with
  | leave blocks => exact nested.leave blocks
  | operation operation =>
    generalize came : state.take (.operation operation) = result
    have performs := came ▸ take_performs state operation
    cases performs with
    | refused fault => exact ⟨nested, by simp [blocksAfter]⟩
    | unset silent =>
      have closed := Operation.opensBlock_of_unset silent
      exact ⟨nested, by simp [blocksAfter, closed]⟩
    | @written text after shown writes =>
      obtain ⟨content, -, -, depth_eq⟩ := writes
      change after.depth = state.depth + _ at depth_eq
      change _ = (List.range after.depth).reverse ∧ after.depth = _
      rw [depth_eq]
      rcases opens : operation.opensBlock with _ | _
      · exact ⟨nested, by simp [blocksAfter, opens]⟩
      · refine ⟨?_, by simp [blocksAfter, opens]⟩
        simp only [↓reduceIte, List.range_succ, List.reverse_append, List.reverse_singleton,
          List.singleton_append]
        exact congrArg _ nested

theorem IsNested.run (nested : state.IsNested) (steps : List ProgramStep) :
    (state.run steps).2.depth = (steps.zip (state.run steps).1).foldl blocksAfter state.depth := by
  induction steps generalizing state with
  | nil => rfl
  | cons step rest ih =>
    obtain ⟨kept, depth_eq⟩ := nested.take step
    rw [BlockWriter.run, List.zip_cons_cons, List.foldl_cons, ← depth_eq]
    exact ih kept

end BlockWriter

theorem Operation.Writes.indented {operation : Operation} {writer : LineWriter}
    {written : String × LineWriter} (writes : operation.Writes writer written) :
    ∃ first rest, written.1.toList = List.replicate (2 * writer.depth) ' ' ++ first :: rest ∧
      first ≠ ' ' := by
  obtain ⟨content, shows, text_eq, -⟩ := writes
  obtain ⟨first, rest, rfl, solid⟩ := shows.solid
  exact ⟨first, rest ++ ['\n'], by simp [text_eq, lineText, indentation_eq], solid⟩

end Document

open Document

theorem Catalog.callAll_ground {catalog : Catalog} (ground : catalog.depth = 0)
    (calls : List WalkCall) : (catalog.callAll calls).1.depth = 0 := by
  induction calls generalizing catalog with
  | nil => exact ground
  | cons call rest ih => exact ih (call_claims ground call).1

/-- Whatever a program does, and wherever a fault takes it out of its blocks: the depth is the
number of blocks that are open, an operation that is refused writes and changes nothing, and each
other one, but for an unset flag, indents its line by two spaces for every open block and goes on
with something else.  So a catalog is at the top level between any two calls. -/
theorem depth_eq_openBlocks (steps : List ProgramStep) :
    let ran := BlockWriter.run {} steps
    let opened := openBlocks (steps.zip ran.1)
    ran.2.depth = opened ∧
      (∀ operation,
        let answer := (ran.2.take (.operation operation)).1
        let after := (ran.2.take (.operation operation)).2
        if answer.fault.isSome then answer.text = "" ∧ after = ran.2
        else
          after.depth = opened + (if operation.opensBlock then 1 else 0) ∧
            if operation.isUnsetFlag then answer.text = ""
            else ∃ first rest, answer.text.toList =
              List.replicate (2 * opened) ' ' ++ first :: rest ∧ first ≠ ' ') ∧
      ∀ dumpAll tagNames identities calls,
        (Catalog.callAll { dumpAll, tagNames, identities } calls).1.depth = 0 := by
  intro ran opened
  have nested : BlockWriter.IsNested {} := rfl
  have depth_eq : ran.2.depth = opened := nested.run steps
  refine ⟨depth_eq, fun operation => ?_, fun _ _ _ calls => Catalog.callAll_ground rfl calls⟩
  generalize came : ran.2.take (.operation operation) = result
  have performs := came ▸ ran.2.take_performs operation
  rw [← depth_eq]
  cases performs with
  | refused fault => simp
  | unset silent => simp [silent, Operation.opensBlock_of_unset silent]
  | written shown writes =>
    obtain ⟨first, rest, text_eq, solid⟩ := writes.indented
    obtain ⟨-, -, -, after_eq⟩ := writes
    simp only [Option.isSome_none, Bool.false_eq_true, ↓reduceIte, shown]
    exact ⟨after_eq, first, rest, text_eq, solid⟩

/-! ## Single lines -/

theorem Document.Operation.Writes.single_line_iff {operation : Operation} {writer : LineWriter}
    {written : String × LineWriter} (writes : operation.Writes writer written) :
    (∃ line, written.1.toList = line ++ ['\n'] ∧ '\n' ∉ line) ↔
      ∀ name ∈ operation.names, ¬EndsLine name := by
  obtain ⟨content, shows, text_eq, -⟩ := writes
  have spaces : '\n' ∉ indentation writer.depth := by simp [indentation_eq]
  have flat : '\n' ∉ indentation writer.depth ++ content ↔
      ∀ name ∈ operation.names, ¬EndsLine name := by
    simp [spaces, shows.breaks]
  rw [text_eq, lineText, ← flat]
  constructor
  · rintro ⟨line, same, single⟩
    rwa [List.append_cancel_right same]
  · exact fun single => ⟨_, rfl, single⟩

/-- An operation at any depth writes nothing if it is refused, nor does an unset flag.  Any other
writes a single line if and only if no anchor or tag of it ends with a line feed. -/
theorem operation_single_line_iff (state : BlockWriter) (operation : Operation) :
    let answer := (state.take (.operation operation)).1
    if answer.fault.isSome then answer.text = "" ∧ (state.take (.operation operation)).2 = state
    else if operation.isUnsetFlag then answer.text = ""
    else (∃ line, answer.text.toList = line ++ ['\n'] ∧ '\n' ∉ line) ↔
      ∀ name ∈ operation.names, ¬EndsLine name := by
  intro answer
  generalize came : state.take (.operation operation) = result
  have performs := came ▸ state.take_performs operation
  rw [show answer = result.1 from congrArg Prod.fst came]
  cases performs with
  | refused fault => simp
  | unset silent => simp [silent]
  | written shown writes =>
    simp only [Option.isSome_none, Bool.false_eq_true, ↓reduceIte, shown]
    exact writes.single_line_iff

/-- A reference to an anchor with a final line feed is not refused, and an empty line follows. -/
theorem brokenReference_writes_two_lines :
    let answer := (BlockWriter.take {} (.operation (.reference "k" "a\n"))).1
    answer.fault = none ∧ answer.text = "k: *a\n\n" ∧
      ¬∃ line, answer.text.toList = line ++ ['\n'] ∧ '\n' ∉ line := by
  have text_eq : (BlockWriter.take {} (.operation (.reference "k" "a\n"))).1 =
      { text := "k: *a\n\n" } := by decide +kernel
  rw [text_eq]
  refine ⟨rfl, rfl, ?_⟩
  rintro ⟨line, same, single⟩
  have written : "k: *a\n\n".toList = ['k', ':', ' ', '*', 'a', '\n'] ++ ['\n'] := by decide
  rw [← List.append_cancel_right (written.symm.trans same)] at single
  exact single (by decide)

end TypeCatalog
