import TypeCatalog.Proofs.ValueConstruction

/-!
# Scalars on a line of their own

A written scalar is read as the value it was written for, after the colon of a
key and after the dash of an item.  The line may end with a line feed or with
the text.
-/

namespace TypeCatalog.Document

open Text
open Yaml

/-! ## Tokens -/

section Lines

variable {value : Scalar} {written ending : List Char} (written_eq : value.written? = some written)
  (ended : ending = [] ∨ ending = ['\n'])

include written_eq ended

theorem yields_lastLine {cursor : Cursor} {tokens : List Token} {allowKey : Bool}
    (rest_eq : cursor.rest = ' ' :: (written ++ ending)) (bare : cursor.beyond = none)
    (inside : 0 < cursor.column) :
    (Scan.between cursor tokens [0] allowKey).Yields
      (.blockEnd :: .scalar (readText value).1 (readText value).2 :: tokens).reverse := by
  have is_written := writtenWith_scalar written_eq
  rcases ended with rfl | rfl
  · exact LineYields.lastScalar is_written (by rwa [List.append_nil] at rest_eq) bare inside
  · exact LineYields.scalar (LineYields.finish _) is_written (.inl ⟨rfl, rfl⟩) (by simp [Unmarked])
      (Nat.le_refl 0) rest_eq bare inside

theorem isAllowed_lastLine : IsAllowed (' ' :: (written ++ ending)) := by
  refine .cons rfl (.append (fun c mem => ((writtenWith_scalar written_eq).flat mem).1) ?_)
  rcases ended with rfl | rfl <;> decide

theorem tokens_entry {key : CodeText} (short : IsShortKey key) :
    Yaml.tokens (.ofText (Scalar.writtenText key ++ ':' :: ' ' :: (written ++ ending))) =
      ⟨[.blockMappingStart, .key, .scalar key (isWrittenPlain key), .value,
        .scalar (readText value).1 (readText value).2, .blockEnd], none⟩ := by
  refine tokens_of_lines
    (.append (isAllowed_writtenText key) (.cons rfl (isAllowed_lastLine written_eq ended)))
    (head_writtenText_ne key _ (by decide) (by decide)) ?_
  exact @LineYields.key [] [.blockMappingStart] _ [] [] 0 _ key (.inr ⟨rfl, rfl, rfl⟩) short rfl
    fun cursor rest_eq bare inside => yields_lastLine written_eq ended rest_eq bare inside

theorem tokens_item :
    Yaml.tokens (.ofText ('-' :: ' ' :: (written ++ ending))) =
      ⟨[.blockSequenceStart, .blockEntry, .scalar (readText value).1 (readText value).2, .blockEnd],
        none⟩ := by
  refine tokens_of_lines (.cons rfl (isAllowed_lastLine written_eq ended)) (by simp) ?_
  exact @LineYields.item [] [.blockSequenceStart] _ [] [] 0 _ (.inr ⟨rfl, rfl, rfl⟩) rfl (by simp)
    fun cursor rest_eq bare inside => yields_lastLine written_eq ended rest_eq bare inside

/-! ## Nodes -/

def entryGraph (key : CodeText) (value : Scalar) : Graph :=
  #[⟨StandardType.map.tag, .mapping [(1, 2)]⟩, scalarNode (.text key), scalarNode value]

def itemGraph (value : Scalar) : Graph :=
  #[⟨StandardType.seq.tag, .sequence [1]⟩, scalarNode value]

open Reading Reader in
theorem compose_entry {key : CodeText} (short : IsShortKey key) :
    compose (.ofText (Scalar.writtenText key ++ ':' :: ' ' :: (written ++ ending))) =
      .ok (some 0, entryGraph key value) := by
  -- six tokens leave 28 steps for the root, and four tokens 20
  have entries := @blockEntries_cons
    [.scalar (readText value).1 (readText value).2, .blockEnd] []
    #[⟨StandardType.map.tag, .mapping []⟩] 22 key _ _ _ _ (nodeUnless_scalar value (by simp))
    blockEntries_nil
  have root : node 28 { block := true } (readingAt
      [.blockMappingStart, .key, .scalar key (isWrittenPlain key), .value,
        .scalar (readText value).1 (readText value).2, .blockEnd] [] #[]) =
      .ok (0, readingAt [] [] (entryGraph key value)) :=
    (node_plain (by trivial)).trans
      (@content_mapping _ [] #[] 26 _ {} _ _ _ [scalarNode (.text key), scalarNode value] rfl
        (by simp) entries)
  exact compose_of_node (tokens_entry written_eq ended short) (.inl rfl) root

open Reading Reader in
theorem compose_item :
    compose (.ofText ('-' :: ' ' :: (written ++ ending))) = .ok (some 0, itemGraph value) := by
  have items := @blockItems_cons [.scalar (readText value).1 (readText value).2, .blockEnd] []
    #[⟨StandardType.seq.tag, .sequence []⟩] 17 _ _ _ _ (nodeUnless_scalar value (by simp))
    blockItems_nil
  have root : node 20 { block := true } (readingAt [.blockSequenceStart, .blockEntry,
      .scalar (readText value).1 (readText value).2, .blockEnd] [] #[]) =
      .ok (0, readingAt [] [] (itemGraph value)) :=
    (node_plain (by trivial)).trans
      (@content_sequence _ [] #[] 18 _ _ _ [scalarNode value] rfl items)
  exact compose_of_node (tokens_item written_eq ended) (.inr rfl) root

/-! ## Values -/

open Construct in
theorem load_entry {key : CodeText} (short : IsShortKey key) :
    Yaml.load mark (.ofText (Scalar.writtenText key ++ ':' :: ' ' :: (written ++ ending))) =
      .ok { root := .object 0
            objects := #[.mapping none [(.text key, .scalar (readValue value))]] } := by
  have writable : value.written?.isSome = true := by simp [written_eq]
  have key_eq := @value_scalar
    { graph := entryGraph key value, objects := #[.mapping none []], values := [(0, .object 0)] }
    1 3 false (.text key) rfl rfl rfl (by simp)
  have value_eq := @value_scalar
    { graph := entryGraph key value, objects := #[.mapping none []]
      values := [(1, .scalar (.text key)), (0, .object 0)] }
    2 3 false value writable rfl rfl (by simp)
  have entry_eq := @addEntry_eq _ _ [] (1, 2) _ _ _ _ (by simp) key_eq value_eq
  have texts : ∀ entry ∈ [((1, 2) : NodeEntry)],
      (entryGraph key value).tagOf entry.1 = StandardType.str.tag := by
    rintro entry mem
    rw [List.mem_singleton.mp mem]
    rfl
  exact @load_of_root _ _ _ _ _ _ [] _ (compose_entry written_eq ended short) rfl rfl
    (bind_eq (@mappingEntries_eq _ _ _ _ _ _ _ rfl texts (bind_eq entry_eq)))

open Construct in
theorem load_item :
    Yaml.load mark (.ofText ('-' :: ' ' :: (written ++ ending))) =
      .ok { root := .object 0, objects := #[.list [.scalar (readValue value)]] } := by
  have writable : value.written?.isSome = true := by simp [written_eq]
  have value_eq := @value_scalar
    { graph := itemGraph value, objects := #[.list []], values := [(0, .object 0)] }
    1 2 false value writable rfl rfl (by simp)
  have items_read : [1].mapM (Yaml.Construct.value mark 3 false)
      { graph := itemGraph value, objects := #[.list []], values := [(0, .object 0)] } =
        .ok ([.scalar (readValue value)],
          { graph := itemGraph value, objects := #[.list []]
            values := [(1, .scalar (readValue value)), (0, .object 0)] }) := by
    rw [List.mapM_cons]
    exact bind_eq value_eq
  exact @load_of_root _ _ _ _ _ _ [] _ (compose_item written_eq ended) rfl rfl
    (bind_eq (@items_eq _ _ _ _ _ _ _ rfl items_read))

end Lines

theorem readValue_injective {first second : Scalar} (same : readValue first = readValue second) :
    first = second := by
  cases first <;> cases second <;> simp_all [readValue]

theorem exists_written {value : Scalar}
    (digits : ∀ n : Int, value = .int n → n.natAbs < 10 ^ Integer.digitLimit) :
    ∃ written, value.written? = some written := by
  cases value with
  | int n =>
      have writable := isWritable_iff.mpr (digits n rfl)
      exact ⟨_, by rw [Scalar.written?, if_pos writable]⟩
  | null | bool | text => exact ⟨_, rfl⟩

/-- A scalar is written on one line, and read as itself from the line of a key and from that of
an item.  So no two scalars are written alike. -/
theorem scalar_reads_back (value : Scalar)
    (digits : ∀ n : Int, value = .int n → n.natAbs < 10 ^ Integer.digitLimit) :
    ∃ written, value.written? = some written ∧
      (∀ c ∈ written, isAllowed c = true ∧ isBreak c = false) ∧
      (∀ ending : List Char, ending = [] ∨ ending = ['\n'] →
        load (.ofChars ("k: ".toList ++ written ++ ending)) =
            .ok { root := .object 0
                  objects := #[.mapping none [(.text "k", .scalar (readValue value))]] } ∧
          Yaml.load (some tagStart) (.ofText ("- ".toList ++ written ++ ending)) =
            .ok { root := .object 0, objects := #[.list [.scalar (readValue value)]] }) ∧
      ∀ other : Scalar, other.written? = some written → other = value := by
  obtain ⟨written, written_eq⟩ := exists_written digits
  refine ⟨written, written_eq, fun c mem => (writtenWith_scalar written_eq).flat mem,
    fun ending ended => ⟨?_, load_item written_eq ended⟩, fun other other_eq => ?_⟩
  · have text_eq : "k: ".toList ++ written ++ ending =
        Scalar.writtenText "k" ++ ':' :: ' ' :: (written ++ ending) := by
      have key_eq : Scalar.writtenText "k" = ['k'] := by decide +kernel
      simp [key_eq]
    have short : IsShortKey "k" := by decide +kernel
    have loaded := load_entry written_eq ended short
    rw [← text_eq] at loaded
    rw [load, chars?_ofChars]
    simp only [loaded]
    rfl
  · have own := load_item written_eq (.inl rfl)
    rw [load_item other_eq (.inl rfl)] at own
    exact readValue_injective (by simpa using own)

theorem negative_reads_back :
    (∀ n : Int, Scalar.int (-17) = .int n → n.natAbs < 10 ^ Integer.digitLimit) ∧
      load "k: -17\n" =
        .ok { root := .object 0, objects := #[.mapping none [(.text "k", .scalar (.int (-17)))]] } ∧
      Yaml.load (some tagStart) (.ofText "- -17".toList) =
        .ok { root := .object 0, objects := #[.list [.scalar (.int (-17))]] } := by
  have digits : ∀ n : Int, Scalar.int (-17) = .int n → n.natAbs < 10 ^ Integer.digitLimit := by
    rintro n ⟨⟩
    decide +kernel
  have numeral : (Scalar.int (-17)).written? = some "-17".toList := by decide +kernel
  obtain ⟨written, written_eq, -, lines, -⟩ := scalar_reads_back (.int (-17)) digits
  obtain rfl : "-17".toList = written := Option.some.inj (numeral.symm.trans written_eq)
  exact ⟨digits, (lines ['\n'] (.inr rfl)).1, (lines [] (.inl rfl)).2⟩

end TypeCatalog.Document
