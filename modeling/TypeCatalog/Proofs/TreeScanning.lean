import TypeCatalog.Proofs.LineScanning

/-!
# Scanning documents

The tokens of a document follow its trees: every list and every record is a
block, opened by its first line and closed before the first line that is not
part of it.
-/

namespace TypeCatalog.Document

open Text
open Yaml

/-! ## Tokens of trees -/

def blockTokens (start : Token) (inside : List Token) : List Token :=
  if inside.isEmpty then [] else start :: inside ++ [.blockEnd]

namespace Tree

mutual

def tokens : Tree → List Token
  | scalar value => [.scalar (readText value).1 (readText value).2]
  | reference anchor => [.reference (String.ofList anchor.toChars)]
  | emptyList => [.flowSequenceStart, .flowSequenceEnd]
  | list items => blockTokens .blockSequenceStart (itemTokens items)
  | record kind entries =>
    .tag (kindTag kind) :: blockTokens .blockMappingStart (entryTokens entries)

def itemTokens : List Tree → List Token
  | [] => []
  | tree :: rest => .blockEntry :: tree.tokens ++ itemTokens rest

def entryTokens : List Entry → List Token
  | [] => []
  | (key, tree) :: rest =>
    .key :: .scalar key (isWrittenPlain key) :: .value :: tree.tokens ++ entryTokens rest

end

theorem tokens_list {items : List Tree} (shown : items ≠ []) :
    (list items).tokens = .blockSequenceStart :: itemTokens items ++ [.blockEnd] := by
  cases items with
  | nil => exact absurd rfl shown
  | cons => rfl

theorem tokens_record {entries : List Entry} (kind : Kind) (shown : entries ≠ []) :
    (record kind entries).tokens =
      .tag (kindTag kind) :: .blockMappingStart :: entryTokens entries ++ [.blockEnd] := by
  cases entries with
  | nil => exact absurd rfl shown
  | cons => rfl

mutual

def keys : Tree → List CodeText
  | scalar _ | reference _ | emptyList => []
  | list items => itemKeys items
  | record _ entries => entryKeys entries

def itemKeys : List Tree → List CodeText
  | [] => []
  | tree :: rest => tree.keys ++ itemKeys rest

def entryKeys : List Entry → List CodeText
  | [] => []
  | (key, tree) :: rest => key :: tree.keys ++ entryKeys rest

end

/-! ## Trees that can be read -/

mutual

/-- A tree whose parts can be written, with different keys and references to known anchors
only. -/
def WellFormed (known : List CodeText) : Tree → Prop
  | scalar value => value.written?.isSome = true
  | reference anchor => IsAnchor anchor ∧ anchor ∈ known
  | emptyList => True
  | list items => ItemsWellFormed known items
  | record _ entries => (entries.map (·.1)).Nodup ∧ EntriesWellFormed known entries

def ItemsWellFormed (known : List CodeText) : List Tree → Prop
  | [] => True
  | tree :: rest => tree ≠ .emptyList ∧ tree.WellFormed known ∧ ItemsWellFormed known rest

def EntriesWellFormed (known : List CodeText) : List Entry → Prop
  | [] => True
  | (_, tree) :: rest => tree.WellFormed known ∧ EntriesWellFormed known rest

end

end Tree

def IsShortKey (key : CodeText) : Prop :=
  (Scalar.writtenText key).length ≤ keyReach

instance (key : CodeText) : Decidable (IsShortKey key) :=
  inferInstanceAs (Decidable (_ ≤ _))

theorem indentation_eq (depth : Nat) : indentation depth = List.replicate (2 * depth) ' ' := by
  induction depth with
  | zero => rfl
  | succ depth ih =>
      rw [Nat.mul_succ, List.replicate_succ', List.replicate_succ', ← ih]
      simp [indentation, List.replicate_succ']

/-! ## Lines -/

def StartsWithin (limit : Nat) (text : List Char) : Prop :=
  ∃ indent, indent ≤ limit ∧ IsLine indent text ∧ Unmarked text

theorem StartsWithin.mono {limit other : Nat} {text : List Char} (starts : StartsWithin limit text)
    (le : limit ≤ other) : StartsWithin other text := by
  obtain ⟨indent, inside, line⟩ := starts
  exact ⟨indent, Nat.le_trans inside le, line⟩

theorem unmarked_indented {depth : Nat} (positive : 0 < depth) (text : List Char) :
    Unmarked (List.replicate (2 * depth) ' ' ++ text) := by
  obtain ⟨n, rfl⟩ := Nat.exists_eq_add_one_of_ne_zero (Nat.ne_of_gt positive)
  rw [Nat.mul_succ, List.replicate_succ, List.cons_append]
  exact ⟨by simp, by simp⟩

theorem startsWithin_items {depth : Nat} (positive : 0 < depth) (items : List Tree)
    {text : List Char} (starts : StartsWithin (2 * depth) text) :
    StartsWithin (2 * depth) (Tree.itemsText depth items ++ text) := by
  cases items with
  | nil => exact starts
  | cons tree rest =>
      simp only [Tree.itemsText, lineText, indentation_eq, List.append_assoc]
      exact ⟨2 * depth, Nat.le_refl _, .inr ⟨'-', _, rfl, by decide, by decide, by decide⟩,
        unmarked_indented positive _⟩

theorem startsWithin_entries {depth : Nat} (positive : 0 < depth) (entries : List Entry)
    {text : List Char} (starts : StartsWithin (2 * depth) text) :
    StartsWithin (2 * depth) (Tree.entriesText depth entries ++ text) := by
  cases entries with
  | nil => exact starts
  | cons entry rest =>
      obtain ⟨c, others, shown, solid⟩ := (writtenWith_text entry.1).exists_cons
      simp only [Tree.entriesText, lineText, indentation_eq, List.append_assoc, shown]
      exact ⟨2 * depth, Nat.le_refl _, .inr ⟨c, _, rfl, solid⟩, unmarked_indented positive _⟩

/-! ## From trees to tokens -/

namespace Tree

theorem endsWord_headText (tree : Tree) (more : List Char) :
    endsWord (tree.headText ++ '\n' :: more).head? = true ∧
      (tree.headText ++ '\n' :: more).head? ≠ some '-' := by
  cases tree <;> exact ⟨rfl, by simp [headText]⟩

variable {known : List CodeText} {whole : List Token}

mutual

theorem scan_tree (tree : Tree) (proper : tree.WellFormed known)
    (short : ∀ key ∈ tree.keys, IsShortKey key) {cursor : Cursor}
    {toks : List Token} {outer : List Nat} {depth : Nat} {text : List Char} {allowKey : Bool}
    (later : LineYields text (tree.tokens.reverse ++ toks) (2 * depth :: outer) whole)
    (starts : StartsWithin (2 * depth) text)
    (rest_eq : cursor.rest = tree.headText ++ '\n' :: (tree.bodyText depth ++ text))
    (bare : cursor.beyond = none) (inside : 2 * depth < cursor.column)
    (placed : allowKey = true → tree ≠ .emptyList) :
    (Scan.between cursor toks (2 * depth :: outer) allowKey).Yields whole := by
  obtain ⟨indent, within, line, unmarked⟩ := id starts
  cases tree with
  | scalar value =>
      obtain ⟨written, written_eq⟩ := Option.isSome_iff_exists.mp proper
      rw [headText, written_eq] at rest_eq
      exact later.scalar (writtenWith_scalar written_eq) line unmarked within rest_eq bare inside
  | reference anchor =>
      obtain ⟨⟨chars, rfl, shown, all⟩, -⟩ := proper
      simp only [tokens, toChars_ofChars] at later
      simp only [headText, toChars_ofChars] at rest_eq
      exact later.reference shown all line rest_eq bare inside
  | emptyList =>
      cases allowKey with
      | false => exact later.emptyList line rest_eq bare inside
      | true => exact absurd rfl (placed rfl)
  | list items =>
      have deeper := startsWithin_items (Nat.succ_pos depth) items (starts.mono (by omega))
      obtain ⟨_, -, first_line, -⟩ := deeper
      refine LineYields.newline ?_ first_line rest_eq bare rfl ⟨none, rfl, by simp⟩
      change LineYields _ toks (2 * depth :: outer) whole
      by_cases shown : items = []
      · subst shown
        exact later
      · refine scan_items items proper short (Nat.succ_pos depth) (.inr ⟨rfl, by simp, rfl⟩)
          (.inl shown) ?_ (starts.mono (by omega))
        refine LineYields.close ?_ line (by omega)
        simpa [tokens_list shown] using later
  | record kind entries =>
      have deeper := startsWithin_entries (Nat.succ_pos depth) entries (starts.mono (by omega))
      obtain ⟨_, -, first_line, -⟩ := deeper
      refine LineYields.tag ?_ first_line rest_eq bare inside
      by_cases shown : entries = []
      · subst shown
        exact later
      · refine scan_entries entries proper.2 short (Nat.succ_pos depth) (.inr ⟨rfl, by simp, rfl⟩)
          (.inl shown) ?_ (starts.mono (by omega))
        refine LineYields.close ?_ line (by omega)
        simpa [tokens_record kind shown] using later

theorem scan_items (items : List Tree) (proper : ItemsWellFormed known items)
    (short : ∀ key ∈ itemKeys items, IsShortKey key)
    {toks opened : List Token} {indents outer : List Nat} {depth : Nat} {text : List Char}
    (positive : 0 < depth)
    (opens : Opens .blockSequenceStart (2 * depth) toks indents opened outer)
    (shown : items ≠ [] ∨ indents = 2 * depth :: outer ∧ opened = toks)
    (later : LineYields text ((itemTokens items).reverse ++ opened) (2 * depth :: outer) whole)
    (starts : StartsWithin (2 * depth) text) :
    LineYields (itemsText depth items ++ text) toks indents whole := by
  cases items with
  | nil =>
      rcases shown with absurd_nil | ⟨rfl, rfl⟩
      · exact absurd rfl absurd_nil
      · exact later
  | cons tree rest =>
      obtain ⟨placed, tree_proper, rest_proper⟩ := proper
      have rest_starts := startsWithin_items positive rest starts
      simp only [itemsText, lineText, indentation_eq, List.append_assoc, List.cons_append,
        List.nil_append]
      obtain ⟨blank, apart⟩ := endsWord_headText tree
        (tree.bodyText depth ++ (itemsText depth rest ++ text))
      refine LineYields.item opens blank apart fun cursor rest_eq bare inside => ?_
      refine scan_tree tree tree_proper (fun key mem => short key (by simp [itemKeys, mem])) ?_
        rest_starts rest_eq bare inside fun _ => placed
      refine scan_items rest rest_proper (fun key mem => short key (by simp [itemKeys, mem]))
        positive (.inl ⟨rfl, rfl⟩) (.inr ⟨rfl, rfl⟩) ?_ starts
      simpa [itemTokens] using later

theorem scan_entries (entries : List Entry) (proper : EntriesWellFormed known entries)
    (short : ∀ key ∈ entryKeys entries, IsShortKey key)
    {toks opened : List Token} {indents outer : List Nat} {depth : Nat} {text : List Char}
    (positive : 0 < depth)
    (opens : Opens .blockMappingStart (2 * depth) toks indents opened outer)
    (shown : entries ≠ [] ∨ indents = 2 * depth :: outer ∧ opened = toks)
    (later : LineYields text ((entryTokens entries).reverse ++ opened) (2 * depth :: outer) whole)
    (starts : StartsWithin (2 * depth) text) :
    LineYields (entriesText depth entries ++ text) toks indents whole := by
  cases entries with
  | nil =>
      rcases shown with absurd_nil | ⟨rfl, rfl⟩
      · exact absurd rfl absurd_nil
      · exact later
  | cons entry rest =>
      obtain ⟨key, tree⟩ := entry
      obtain ⟨tree_proper, rest_proper⟩ := proper
      have rest_starts := startsWithin_entries positive rest starts
      simp only [entriesText, lineText, indentation_eq, List.append_assoc, List.cons_append,
        List.nil_append]
      obtain ⟨blank, -⟩ := endsWord_headText tree
        (tree.bodyText depth ++ (entriesText depth rest ++ text))
      refine LineYields.key opens (short key (by simp [entryKeys])) blank
        fun cursor rest_eq bare inside => ?_
      refine scan_tree tree tree_proper (fun key mem => short key (by simp [entryKeys, mem])) ?_
        rest_starts rest_eq bare inside (by simp)
      refine scan_entries rest rest_proper (fun key mem => short key (by simp [entryKeys, mem]))
        positive (.inl ⟨rfl, rfl⟩) (.inr ⟨rfl, rfl⟩) ?_ starts
      simpa [entryTokens] using later

end

end Tree

/-! ## Blocks -/

namespace Block

def anchorTokens (block : Block) : List Token :=
  (block.anchor.map fun anchor => Token.anchor (String.ofList anchor.toChars)).toList

def tokens (block : Block) : List Token :=
  .key :: .scalar block.key (isWrittenPlain block.key) :: .value :: block.anchorTokens ++
    (Tree.record block.kind block.entries).tokens

def keys (block : Block) : List CodeText :=
  block.key :: Tree.entryKeys block.entries

structure WellFormed (known : List CodeText) (block : Block) : Prop where
  short : ∀ key ∈ block.keys, IsShortKey key
  anchored : ∀ anchor, block.anchor = some anchor → IsAnchor anchor
  inside : (Tree.record block.kind block.entries).WellFormed known

theorem startsWithin_text (block : Block) (more : List Char) :
    StartsWithin 0 (block.text ++ more) := by
  obtain ⟨c, others, shown, solid⟩ := (writtenWith_text block.key).exists_cons
  have unmarked := unmarked_writtenText block.key
    (':' :: ' ' :: propertyText block.kind block.anchor ++
      (['\n'] ++ (Tree.entriesText 1 block.entries ++ more)))
  simp only [Block.text, lineText, indentation_eq, List.append_assoc, shown] at unmarked ⊢
  exact ⟨0, Nat.le_refl _, .inr ⟨c, _, rfl, solid⟩, unmarked⟩

variable {known : List CodeText} {block : Block} {toks opened whole : List Token}
  {indents : List Nat} {text : List Char}

theorem scan_block (proper : block.WellFormed known)
    (opens : Opens .blockMappingStart 0 toks indents opened [])
    (later : LineYields text (block.tokens.reverse ++ opened) [0] whole)
    (starts : StartsWithin 0 text) : LineYields (block.text ++ text) toks indents whole := by
  obtain ⟨key, kind, anchor, entries⟩ := block
  obtain ⟨short, anchored, proper⟩ := proper
  have text_eq : Block.text ⟨key, kind, anchor, entries⟩ ++ text =
      List.replicate 0 ' ' ++ (Scalar.writtenText key ++ ':' ::
        (' ' :: propertyText kind anchor ++ '\n' :: (Tree.entriesText 1 entries ++ text))) := by
    simp [Block.text, lineText, indentation]
  rw [text_eq]
  refine LineYields.key opens (short key (by simp [keys])) rfl fun cursor rest_eq bare inside => ?_
  have inner (key : CodeText) (mem : key ∈ Tree.entryKeys entries) : IsShortKey key :=
    short key (by simp [keys, mem])
  cases anchor with
  | none =>
      refine @Tree.scan_tree known whole (.record kind entries) proper inner cursor _ [] 0 text false ?_
        starts rest_eq bare inside (by simp)
      simpa [Block.tokens, anchorTokens] using later
  | some anchor =>
      obtain ⟨chars, rfl, shown, all⟩ := anchored anchor rfl
      have rest_eq : cursor.rest = ' ' :: ('&' :: chars ++ ' ' ::
          (propertyText kind none ++ '\n' :: (Tree.entriesText 1 entries ++ text))) := by
        simpa [propertyText, toChars_ofChars] using rest_eq
      refine LineYields.anchor shown all rest_eq bare inside fun after after_eq bare inside => ?_
      refine @Tree.scan_tree known whole (.record kind entries) proper inner after _ [] 0 text false ?_
        starts after_eq bare inside (by simp)
      simpa [Block.tokens, anchorTokens, toChars_ofChars] using later

theorem startsWithin_texts (blocks : List Block) :
    StartsWithin 0 (blocks.flatMap Block.text) := by
  rcases blocks with _ | ⟨next, others⟩
  · exact ⟨0, Nat.le_refl _, .inl ⟨rfl, rfl⟩, by simp [Unmarked]⟩
  · exact startsWithin_text next _

/-- Blocks in a row give their tokens, once the first one has opened the document. -/
theorem scan_blocks (blocks : List Block)
    (proper : ∀ block ∈ blocks, ∃ known, block.WellFormed known) :
    LineYields (blocks.flatMap Block.text) toks [0]
      (.blockEnd :: ((blocks.flatMap Block.tokens).reverse ++ toks)).reverse := by
  induction blocks generalizing toks with
  | nil => exact LineYields.finish toks
  | cons block rest ih =>
      obtain ⟨known, first⟩ := proper block (by simp)
      rw [List.flatMap_cons]
      refine scan_block first (.inl ⟨rfl, rfl⟩) ?_ (startsWithin_texts rest)
      have later := @ih (block.tokens.reverse ++ toks) fun other mem => proper other (by simp [mem])
      simpa using later

end Block

def documentTokens (blocks : List Block) : List Token :=
  if blocks.isEmpty then []
  else .blockMappingStart :: blocks.flatMap Block.tokens ++ [.blockEnd]

/-! ## Characters of documents -/

def IsAllowed (text : List Char) : Prop :=
  ∀ c ∈ text, isAllowed c = true

instance (text : List Char) : Decidable (IsAllowed text) :=
  decidable_of_iff (text.all isAllowed = true) List.all_eq_true

theorem IsAllowed.append {first second : List Char} (early : IsAllowed first)
    (late : IsAllowed second) : IsAllowed (first ++ second) := by
  intro c mem
  rcases List.mem_append.mp mem with mem | mem
  · exact early c mem
  · exact late c mem

theorem IsAllowed.cons {c : Char} {text : List Char} (first : isAllowed c = true)
    (late : IsAllowed text) : IsAllowed (c :: text) := by
  simpa [IsAllowed] using ⟨first, late⟩

theorem IsAllowed.line {text : List Char} (allowed : IsAllowed text) (depth : Nat) :
    IsAllowed (lineText depth text) := by
  refine .append (.append ?_ allowed) (by decide)
  intro c mem
  rw [indentation_eq] at mem
  rw [List.eq_of_mem_replicate mem]
  rfl

theorem isAllowed_writtenText (text : CodeText) : IsAllowed (Scalar.writtenText text) :=
  fun _ mem => ((writtenWith_text text).flat mem).1

theorem isAllowed_anchor {anchor : CodeText} (proper : IsAnchor anchor) :
    IsAllowed anchor.toChars := by
  obtain ⟨chars, rfl, -, all⟩ := proper
  rw [toChars_ofChars]
  exact fun c mem => (flat_of_isAnchorChar (all c mem)).1

theorem isAllowed_propertyText (kind : Kind) {anchor : Option CodeText}
    (anchored : ∀ name, anchor = some name → IsAnchor name) :
    IsAllowed (propertyText kind anchor) := by
  have tag : IsAllowed (tagStart.toList ++ kind.name.toList) := by
    cases kind <;> decide
  cases anchor with
  | none => exact tag
  | some name =>
      rw [propertyText, List.append_assoc, List.cons_append]
      exact .cons rfl (.append (isAllowed_anchor (anchored name rfl)) (.cons rfl tag))

namespace Tree

theorem isAllowed_headText {known : List CodeText} {tree : Tree} (proper : tree.WellFormed known) :
    IsAllowed tree.headText := by
  cases tree with
  | scalar value =>
      obtain ⟨written, written_eq⟩ := Option.isSome_iff_exists.mp proper
      rw [headText, written_eq]
      exact .cons rfl fun c mem => ((writtenWith_scalar written_eq).flat mem).1
  | reference anchor => exact .cons rfl (.cons rfl (isAllowed_anchor proper.1))
  | emptyList => decide
  | list items => simp [headText, IsAllowed]
  | record kind entries => exact .cons rfl (isAllowed_propertyText kind (by simp))

mutual

theorem isAllowed_bodyText {known : List CodeText} (tree : Tree) (proper : tree.WellFormed known)
    (depth : Nat) : IsAllowed (tree.bodyText depth) := by
  cases tree with
  | scalar | reference | emptyList => simp [bodyText, IsAllowed]
  | list items => exact isAllowed_itemsText items proper (depth + 1)
  | record kind entries => exact isAllowed_entriesText entries proper.2 (depth + 1)

theorem isAllowed_itemsText {known : List CodeText} (items : List Tree)
    (proper : ItemsWellFormed known items) (depth : Nat) : IsAllowed (itemsText depth items) := by
  cases items with
  | nil => simp [itemsText, IsAllowed]
  | cons tree rest =>
      obtain ⟨-, tree_proper, rest_proper⟩ := proper
      exact .append (.append (.line (.cons rfl (isAllowed_headText tree_proper)) depth)
        (isAllowed_bodyText tree tree_proper depth)) (isAllowed_itemsText rest rest_proper depth)

theorem isAllowed_entriesText {known : List CodeText} (entries : List Entry)
    (proper : EntriesWellFormed known entries) (depth : Nat) :
    IsAllowed (entriesText depth entries) := by
  cases entries with
  | nil => simp [entriesText, IsAllowed]
  | cons entry rest =>
      obtain ⟨key, tree⟩ := entry
      obtain ⟨tree_proper, rest_proper⟩ := proper
      have first : IsAllowed (Scalar.writtenText key ++ ':' :: tree.headText) :=
        .append (isAllowed_writtenText key) (.cons rfl (isAllowed_headText tree_proper))
      exact .append (.append (.line first depth) (isAllowed_bodyText tree tree_proper depth))
        (isAllowed_entriesText rest rest_proper depth)

end

end Tree

theorem Block.WellFormed.isAllowed {known : List CodeText} {block : Block}
    (proper : block.WellFormed known) : IsAllowed block.text := by
  have header : IsAllowed (Scalar.writtenText block.key ++
      ':' :: ' ' :: propertyText block.kind block.anchor) :=
    .append (isAllowed_writtenText block.key)
      (.cons rfl (.cons rfl (isAllowed_propertyText block.kind proper.anchored)))
  exact .append (.line header 0) (Tree.isAllowed_entriesText _ proper.inside.2 1)

/-! ## Whole documents -/

theorem tokens_of_lines {text : List Char} {whole : List Token} (allowed : IsAllowed text)
    (shown : text.head? ≠ some '\ufeff') (lines : LineYields text [] [] whole) :
    Yaml.tokens (.ofText text) = ⟨whole, none⟩ := by
  have source_eq : Source.ofText text = { text } := if_pos (List.all_eq_true.mpr allowed)
  have start_eq : startCursor { text } = { rest := text } :=
    if_neg (by simpa [Cursor.peek] using shown)
  rw [source_eq, Yaml.tokens, start_eq]
  exact lines _ rfl rfl rfl _ (Nat.lt_succ_self _)

theorem tokens_document (blocks : List Block)
    (proper : ∀ block ∈ blocks, ∃ known, block.WellFormed known) :
    Yaml.tokens (.ofText (blocks.flatMap Block.text)) = ⟨documentTokens blocks, none⟩ := by
  have allowed : IsAllowed (blocks.flatMap Block.text) := by
    intro c mem
    obtain ⟨block, held, mem⟩ := List.mem_flatMap.mp mem
    obtain ⟨known, well_formed⟩ := proper block held
    exact well_formed.isAllowed c mem
  cases blocks with
  | nil => rfl
  | cons block rest =>
      obtain ⟨known, first⟩ := proper block (by simp)
      have later := @Block.scan_blocks (block.tokens.reverse ++ [.blockMappingStart]) rest
        fun other mem => proper other (by simp [mem])
      have whole_eq : (.blockEnd :: ((rest.flatMap Block.tokens).reverse ++
          (block.tokens.reverse ++ [.blockMappingStart]))).reverse =
            documentTokens (block :: rest) := by
        simp [documentTokens]
      rw [whole_eq] at later
      have unmarked := @head_writtenText_ne block.key
        (':' :: ' ' :: propertyText block.kind block.anchor ++ '\n' ::
          (Tree.entriesText 1 block.entries ++ rest.flatMap Block.text)) '\ufeff' rfl (by decide)
      have text_eq : (block :: rest).flatMap Block.text = Scalar.writtenText block.key ++
          (':' :: ' ' :: propertyText block.kind block.anchor ++ '\n' ::
            (Tree.entriesText 1 block.entries ++ rest.flatMap Block.text)) := by
        simp [Block.text, lineText, indentation]
      refine tokens_of_lines allowed (by rwa [text_eq]) ?_
      exact Block.scan_block first (.inr ⟨rfl, rfl, rfl⟩) later (Block.startsWithin_texts rest)

end TypeCatalog.Document
