import TypeCatalog.Proofs.TreeScanning

/-!
# Keys in the lines of a document

A mapping can be seen in the lines of a text without reading the text as a
tree: two lines belong to the same block if they are indented alike and no
line between them is indented less.  What a key is written with ends at its
closing quotation mark or at the colon after it, and no two keys are written
alike, so trees with different keys give lines with different keys.
-/

namespace TypeCatalog.Document

open Text
open Yaml

/-! ## Lines -/

structure Line where
  indent : Nat
  content : List Char
  deriving DecidableEq, Repr

def Line.ofText (text : List Char) : Line :=
  ⟨(text.takeWhile (· == ' ')).length, text.dropWhile (· == ' ')⟩

def lines (text : List Char) : List Line :=
  (splitOn '\n' text).map .ofText

def upToQuote : List Char → List Char
  | [] => []
  | ['\\'] => ['\\']
  | '\\' :: c :: rest => '\\' :: c :: upToQuote rest
  | c :: rest => if c == '"' then ['"'] else c :: upToQuote rest

def upToColon : List Char → List Char
  | [] => []
  | c :: rest =>
    if c == ':' && (rest.isEmpty || rest.head? == some ' ') then [] else c :: upToColon rest

/-- What the key of a line is written with; items of lists and empty lines have no key. -/
def writtenKey? : List Char → Option (List Char)
  | [] | '-' :: _ => none
  | '"' :: rest => some ('"' :: upToQuote rest)
  | content => some (upToColon content)

namespace Line

def key? (line : Line) : Option (List Char) :=
  writtenKey? line.content

def siblings (line : Line) (rest : List Line) : List Line :=
  (rest.takeWhile (line.indent ≤ ·.indent)).filter (·.indent == line.indent)

end Line

def KeysDiffer : List Line → Prop
  | [] => True
  | line :: rest =>
    (∀ key ∈ line.key?, ∀ other ∈ line.siblings rest, other.key? ≠ some key) ∧ KeysDiffer rest

instance decidableKeysDiffer : (lines : List Line) → Decidable (KeysDiffer lines)
  | [] => isTrue trivial
  | _ :: rest =>
    have := decidableKeysDiffer rest
    inferInstanceAs (Decidable (_ ∧ _))

/-- The second `a` at the left is the one that is refused. -/
example : ¬KeysDiffer (lines "a: 1\nb:\n  a: 2\na: 3\n".toList) := by decide +kernel

/-! ## Written keys -/

theorem upToColon_plain {text : List Char} (body : PlainBody text) {more : List Char}
    (ends : more = [] ∨ more.head? = some ' ') : upToColon (text ++ ':' :: more) = text := by
  induction text with
  | nil => rcases ends with rfl | space <;> simp [upToColon, *]
  | cons c rest ih =>
      have later := ih (@PlainBody.of_append [c] rest body)
      have open_colon : (c == ':' &&
          ((rest ++ ':' :: more).isEmpty || (rest ++ ':' :: more).head? == some ' ')) = false := by
        rw [Bool.eq_false_iff]
        intro closed
        simp only [Bool.and_eq_true, beq_iff_eq] at closed
        obtain ⟨rfl, closed⟩ := closed
        rcases rest with _ | ⟨d, rest⟩
        · exact (body.last ':' rfl).1 rfl
        · have space : d = ' ' := by simpa using closed
          subst space
          have found := body.colons
          simp [hasInfix] at found
      rw [List.cons_append, upToColon, open_colon, later]
      rfl

theorem upToQuote_literal {c : Char} (quote : c ≠ '"') (slash : c ≠ '\\') (rest : List Char) :
    upToQuote (c :: rest) = c :: upToQuote rest := by
  rw [upToQuote]
  · simp [quote]
  · simp [slash]
  · simp [slash]

theorem upToQuote_literals {chars : List Char} (proper : ∀ c ∈ chars, c ≠ '"' ∧ c ≠ '\\')
    (rest : List Char) : upToQuote (chars ++ rest) = chars ++ upToQuote rest := by
  induction chars with
  | nil => rfl
  | cons c chars ih =>
      obtain ⟨quote, slash⟩ := proper c (by simp)
      rw [List.cons_append, upToQuote_literal quote slash,
        ih fun d mem => proper d (by simp [mem])]
      rfl

theorem upToQuote_point (point : CodePoint) (rest : List Char) :
    upToQuote (Scalar.quotedPoint point ++ rest) = Scalar.quotedPoint point ++ upToQuote rest := by
  rcases quotedPoint_cases point with ⟨letter, written, -⟩ | ⟨written, -⟩ |
    ⟨c, -, written, quote, slash, -⟩ <;> rw [written]
  · rfl
  · have digits : ∀ c ∈ hexDigits 4 point.value, c ≠ '"' ∧ c ≠ '\\' := by
      intro c mem
      have member := isAnchorChar_of_mem_hexDigits mem
      constructor <;> rintro rfl <;> cases member
    rw [Scalar.unicodeEscape, List.cons_append, List.cons_append, upToQuote,
      upToQuote_literals digits]
    rfl
  · exact upToQuote_literal quote slash rest

theorem upToQuote_quoted (text : CodeText) (more : List Char) :
    upToQuote (text.flatMap Scalar.quotedPoint ++ '"' :: more) =
      text.flatMap Scalar.quotedPoint ++ ['"'] := by
  induction text with
  | nil => rfl
  | cons point rest ih =>
      rw [List.flatMap_cons, List.append_assoc, upToQuote_point, ih, List.append_assoc]

theorem key?_written (indent : Nat) (key : CodeText) {more : List Char}
    (ends : more = [] ∨ more.head? = some ' ') :
    Line.key? ⟨indent, Scalar.writtenText key ++ ':' :: more⟩ =
      some (Scalar.writtenText key) := by
  rcases chars_eq : key.chars? with _ | chars
  · simp [Line.key?, writtenKey?, Scalar.writtenText, chars_eq, Scalar.quoted, upToQuote_quoted]
  · rcases plain : Scalar.isPlain chars with _ | _
    · simp [Line.key?, writtenKey?, Scalar.writtenText, chars_eq, plain, Scalar.quoted, upToQuote_quoted]
    · have read := upToColon_plain (PlainBody.of_isPlain plain) ends
      obtain ⟨first, rest, rfl, start, -⟩ := isPlain_cons plain
      have dash := ne_of_isPlainStart start '-' rfl
      have quote := ne_of_isPlainStart start '"' rfl
      simp only [Scalar.writtenText, chars_eq, plain, ↓reduceIte, List.cons_append] at read ⊢
      rw [Line.key?, writtenKey?]
      · exact congrArg some read
      · simp
      · simp [dash]
      · simp [quote]

theorem writtenText_injective {first second : CodeText}
    (same : Scalar.writtenText first = Scalar.writtenText second) : first = second := by
  have quote_ne {written : List Char} (plain : PlainText written) (text : CodeText) :
      written ≠ Scalar.quoted text := by
    obtain ⟨c, rest, rfl, start⟩ := plain.start
    rintro ⟨⟩
    rcases start with start | ⟨start, -⟩ <;> cases start
  rcases writtenWith_text first with ⟨plain, first_eq, -⟩ | ⟨first_eq, -⟩ <;>
    rcases writtenWith_text second with ⟨other, second_eq, -⟩ | ⟨second_eq, -⟩
  · rw [first_eq, second_eq, same]
  · exact absurd (same.trans second_eq) (quote_ne plain second)
  · exact absurd (same.symm.trans first_eq) (quote_ne other first)
  · -- the reader of quoted texts gives both of them back
    have quoted_eq : Scalar.quoted first = Scalar.quoted second := by rw [← first_eq, same, second_eq]
    have read (text : CodeText) := @readQuoted_quoted { rest := Scalar.quoted text } [] text (by simp)
    have both := read first
    rw [quoted_eq, read second] at both
    simpa using both.symm

/-! ## Lines of trees -/

structure IsContent (text : List Char) : Prop where
  flat : ∀ c ∈ text, c ≠ '\n'
  solid : text.head? ≠ some ' '

theorem splitOn_line {text : List Char} (flat : ∀ c ∈ text, c ≠ '\n') (rest : List Char) :
    splitOn '\n' (text ++ '\n' :: rest) = text :: splitOn '\n' rest := by
  have apart : ∀ c ∈ text, (c == '\n') = false :=
    fun c mem => beq_eq_false_iff_ne.mpr (flat c mem)
  rw [splitOn, splitBy_eq, List.splitOnP_append_cons_of_forall_mem apart _ rfl, ← splitBy_eq,
    splitOn]

theorem lines_lineText (depth : Nat) {text : List Char} (content : IsContent text)
    (rest : List Char) : lines (lineText depth text ++ rest) = ⟨2 * depth, text⟩ :: lines rest := by
  have spaces : ∀ c ∈ List.replicate (2 * depth) ' ', (c == ' ') = true := by
    intro c mem
    simp [List.eq_of_mem_replicate mem]
  have flat : ∀ c ∈ List.replicate (2 * depth) ' ' ++ text, c ≠ '\n' := by
    intro c mem
    rcases List.mem_append.mp mem with mem | mem
    · rw [List.eq_of_mem_replicate mem]
      decide
    · exact content.flat c mem
  have stops : text.takeWhile (· == ' ') = [] ∧ text.dropWhile (· == ' ') = text := by
    rcases text with _ | ⟨c, others⟩
    · simp
    · have solid := content.solid
      simp_all
  rw [lineText, indentation_eq, List.append_assoc, List.singleton_append, lines, splitOn_line flat]
  simp [Line.ofText, List.takeWhile_append_of_pos spaces, List.dropWhile_append_of_pos spaces,
    stops, lines]

namespace Line

variable {line other : Line} (rest : List Line)

theorem siblings_deeper (deeper : line.indent < other.indent) :
    line.siblings (other :: rest) = line.siblings rest := by
  simp [siblings, Nat.le_of_lt deeper, Nat.ne_of_gt deeper]

theorem siblings_beside (beside : line.indent = other.indent) :
    line.siblings (other :: rest) = other :: line.siblings rest := by
  simp [siblings, beside]

theorem siblings_outside (outside : other.indent < line.indent) :
    line.siblings (other :: rest) = [] := by
  simp [siblings, outside]

end Line

def Leaves (depth : Nat) (text : List Char) : Prop :=
  ∃ line rest, lines text = line :: rest ∧ line.indent < 2 * depth

theorem Leaves.siblings_eq {depth : Nat} {text : List Char} (leaves : Leaves depth text)
    {line : Line} (inside : line.indent = 2 * depth) : line.siblings (lines text) = [] := by
  obtain ⟨first, rest, lines_eq, outside⟩ := leaves
  rw [lines_eq, Line.siblings_outside rest (inside ▸ outside)]

theorem Leaves.deeper {depth : Nat} {text : List Char} (leaves : Leaves depth text) :
    Leaves (depth + 1) text := by
  obtain ⟨first, rest, lines_eq, outside⟩ := leaves
  exact ⟨first, rest, lines_eq, by omega⟩

def entryLine (depth : Nat) (entry : Entry) : Line :=
  ⟨2 * depth, Scalar.writtenText entry.1 ++ ':' :: entry.2.headText⟩

theorem flat_of_isBreak {c : Char} (flat : isBreak c = false) : c ≠ '\n' := by
  rintro rfl
  cases flat

theorem flat_writtenText (text : CodeText) : ∀ c ∈ Scalar.writtenText text, c ≠ '\n' :=
  fun _ mem => flat_of_isBreak ((writtenWith_text text).flat mem).2

theorem flat_anchor {anchor : CodeText} (proper : IsAnchor anchor) :
    ∀ c ∈ anchor.toChars, c ≠ '\n' := by
  obtain ⟨chars, rfl, -, all⟩ := proper
  rw [toChars_ofChars]
  exact fun c mem => flat_of_isBreak (flat_of_isAnchorChar (all c mem)).2

theorem flat_of_all {text : List Char} (all : text.all (· != '\n') = true) :
    ∀ c ∈ text, c ≠ '\n' :=
  fun c mem => bne_iff_ne.mp (List.all_eq_true.mp all c mem)

theorem flat_propertyText (kind : Kind) {anchor : Option CodeText}
    (anchored : ∀ name, anchor = some name → IsAnchor name) :
    ∀ c ∈ propertyText kind anchor, c ≠ '\n' := by
  have tag : ∀ c ∈ tagStart.toList ++ kind.name.toList, c ≠ '\n' := by
    cases kind <;> exact flat_of_all (by decide)
  cases anchor with
  | none => exact tag
  | some name =>
      have named := flat_anchor (anchored name rfl)
      simp only [propertyText, List.cons_append, List.append_assoc, List.mem_cons, List.mem_append]
      rintro c (rfl | mem | rfl | mem)
      · decide
      · exact named c mem
      · decide
      · exact tag c (List.mem_append.mpr mem)

theorem isContent_key (key : CodeText) {more : List Char} (flat : ∀ c ∈ more, c ≠ '\n') :
    IsContent (Scalar.writtenText key ++ ':' :: more) where
  flat c mem := by
    rcases List.mem_append.mp mem with mem | mem
    · exact flat_writtenText key c mem
    · rcases List.mem_cons.mp mem with rfl | mem
      · decide
      · exact flat c mem
  solid := head_writtenText_ne key _ rfl (by decide)

namespace Tree

variable {known : List CodeText}

theorem flat_headText {tree : Tree} (proper : tree.WellFormed known) :
    ∀ c ∈ tree.headText, c ≠ '\n' := by
  cases tree with
  | scalar value =>
      obtain ⟨written, written_eq⟩ := Option.isSome_iff_exists.mp proper
      rw [headText, written_eq]
      intro c mem
      rcases List.mem_cons.mp mem with rfl | mem
      · decide
      · exact flat_of_isBreak ((writtenWith_scalar written_eq).flat mem).2
  | reference anchor =>
      simp only [headText, List.mem_cons]
      rintro c (rfl | rfl | mem)
      · decide
      · decide
      · exact flat_anchor proper.1 c mem
  | emptyList => exact flat_of_all (by decide)
  | list items => simp [headText]
  | record kind entries =>
      simp only [headText, List.mem_cons]
      rintro c (rfl | mem)
      · decide
      · exact flat_propertyText kind (by simp) c mem

theorem headText_ends (tree : Tree) : tree.headText = [] ∨ tree.headText.head? = some ' ' := by
  cases tree <;> simp [headText]

theorem isContent_item {tree : Tree} (proper : tree.WellFormed known) :
    IsContent ('-' :: tree.headText) where
  flat c mem := by
    rcases List.mem_cons.mp mem with rfl | mem
    · decide
    · exact flat_headText proper c mem
  solid := by simp

theorem lines_items {depth : Nat} {tree : Tree} (proper : tree.WellFormed known)
    (items : List Tree) (text : List Char) :
    lines (itemsText depth (tree :: items) ++ text) =
      ⟨2 * depth, '-' :: tree.headText⟩ ::
        lines (tree.bodyText depth ++ (itemsText depth items ++ text)) := by
  simp only [itemsText, List.append_assoc]
  exact lines_lineText depth (isContent_item proper) _

theorem lines_entries {depth : Nat} {entry : Entry} (proper : entry.2.WellFormed known)
    (entries : List Entry) (text : List Char) :
    lines (entriesText depth (entry :: entries) ++ text) =
      entryLine depth entry ::
        lines (entry.2.bodyText depth ++ (entriesText depth entries ++ text)) := by
  simp only [entriesText, List.append_assoc]
  exact lines_lineText depth (isContent_key entry.1 (flat_headText proper)) _

theorem leaves_items {depth : Nat} {items : List Tree} (proper : ItemsWellFormed known items)
    {text : List Char} (leaves : Leaves (depth + 1) text) :
    Leaves (depth + 1) (itemsText depth items ++ text) := by
  cases items with
  | nil => exact leaves
  | cons tree rest => exact ⟨_, _, lines_items proper.2.1 rest text, by simp⟩

theorem leaves_entries {depth : Nat} {entries : List Entry}
    (proper : EntriesWellFormed known entries) {text : List Char}
    (leaves : Leaves (depth + 1) text) : Leaves (depth + 1) (entriesText depth entries ++ text) := by
  cases entries with
  | nil => exact leaves
  | cons entry rest => exact ⟨_, _, lines_entries proper.1 rest text, by simp [entryLine]⟩

/-! ## Siblings -/

mutual

theorem siblings_body {line : Line} (tree : Tree) (proper : tree.WellFormed known) {depth : Nat}
    (outside : line.indent ≤ 2 * depth) (text : List Char) :
    line.siblings (lines (tree.bodyText depth ++ text)) = line.siblings (lines text) := by
  cases tree with
  | scalar | reference | emptyList => rfl
  | list items => exact siblings_items items proper (by omega) text
  | record kind entries => exact siblings_entries entries proper.2 (by omega) text

theorem siblings_items {line : Line} (items : List Tree) (proper : ItemsWellFormed known items)
    {depth : Nat} (outside : line.indent < 2 * depth) (text : List Char) :
    line.siblings (lines (itemsText depth items ++ text)) = line.siblings (lines text) := by
  cases items with
  | nil => rfl
  | cons tree rest =>
      obtain ⟨-, tree_proper, rest_proper⟩ := proper
      rw [lines_items tree_proper, Line.siblings_deeper _ outside,
        siblings_body tree tree_proper (Nat.le_of_lt outside),
        siblings_items rest rest_proper outside]

theorem siblings_entries {line : Line} (entries : List Entry)
    (proper : EntriesWellFormed known entries) {depth : Nat} (outside : line.indent < 2 * depth)
    (text : List Char) :
    line.siblings (lines (entriesText depth entries ++ text)) = line.siblings (lines text) := by
  cases entries with
  | nil => rfl
  | cons entry rest =>
      obtain ⟨tree_proper, rest_proper⟩ := proper
      rw [lines_entries tree_proper, Line.siblings_deeper _ outside,
        siblings_body entry.2 tree_proper (Nat.le_of_lt outside),
        siblings_entries rest rest_proper outside]

end

theorem siblings_beside {line : Line} {entries : List Entry}
    (proper : EntriesWellFormed known entries) {depth : Nat} (beside : line.indent = 2 * depth)
    (text : List Char) :
    line.siblings (lines (entriesText depth entries ++ text)) =
      entries.map (entryLine depth) ++ line.siblings (lines text) := by
  induction entries with
  | nil => rfl
  | cons entry rest ih =>
      obtain ⟨tree_proper, rest_proper⟩ := proper
      rw [lines_entries tree_proper, Line.siblings_beside _ beside,
        siblings_body entry.2 tree_proper (Nat.le_of_eq beside), ih rest_proper]
      rfl

/-! ## Different keys -/

theorem key?_entryLine (depth : Nat) (entry : Entry) :
    (entryLine depth entry).key? = some (Scalar.writtenText entry.1) :=
  key?_written _ _ (headText_ends entry.2)

mutual

theorem keysDiffer_body (tree : Tree) (proper : tree.WellFormed known) {depth : Nat}
    {text : List Char} (leaves : Leaves (depth + 1) text) (later : KeysDiffer (lines text)) :
    KeysDiffer (lines (tree.bodyText depth ++ text)) := by
  cases tree with
  | scalar | reference | emptyList => exact later
  | list items => exact keysDiffer_items items proper leaves later
  | record kind entries => exact keysDiffer_entries entries proper.1 proper.2 leaves later

theorem keysDiffer_items (items : List Tree) (proper : ItemsWellFormed known items) {depth : Nat}
    {text : List Char} (leaves : Leaves depth text) (later : KeysDiffer (lines text)) :
    KeysDiffer (lines (itemsText depth items ++ text)) := by
  cases items with
  | nil => exact later
  | cons tree rest =>
      obtain ⟨-, tree_proper, rest_proper⟩ := proper
      rw [lines_items tree_proper]
      refine ⟨by simp [Line.key?, writtenKey?], ?_⟩
      exact keysDiffer_body tree tree_proper (leaves_items rest_proper leaves.deeper)
        (keysDiffer_items rest rest_proper leaves later)

theorem keysDiffer_entries (entries : List Entry) (different : (entries.map (·.1)).Nodup)
    (proper : EntriesWellFormed known entries) {depth : Nat} {text : List Char}
    (leaves : Leaves depth text) (later : KeysDiffer (lines text)) :
    KeysDiffer (lines (entriesText depth entries ++ text)) := by
  cases entries with
  | nil => exact later
  | cons entry rest =>
      obtain ⟨tree_proper, rest_proper⟩ := proper
      rw [List.map_cons, List.nodup_cons] at different
      rw [lines_entries tree_proper]
      refine ⟨?_, keysDiffer_body entry.2 tree_proper (leaves_entries rest_proper leaves.deeper)
        (keysDiffer_entries rest different.2 rest_proper leaves later)⟩
      rintro key key_eq other mem
      rw [siblings_body entry.2 tree_proper (Nat.le_refl _), siblings_beside rest_proper rfl,
        leaves.siblings_eq rfl, List.append_nil] at mem
      obtain ⟨sibling, held, rfl⟩ := List.mem_map.mp mem
      rw [key?_entryLine] at key_eq ⊢
      rintro same
      cases key_eq
      refine different.1 (List.mem_map.mpr ⟨sibling, held, ?_⟩)
      exact writtenText_injective (Option.some.inj same)

end

end Tree

end TypeCatalog.Document
