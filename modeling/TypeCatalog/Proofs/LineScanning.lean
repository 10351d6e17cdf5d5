import TypeCatalog.Proofs.WrittenScalar
import TypeCatalog.Yaml.Token

/-!
# Scanning lines

How the scanner goes through the lines of a document.  Between two lines only
the text that is left, the tokens so far and the columns of the open blocks
matter; the blocks that a line closes can as well be closed before it.
-/

namespace TypeCatalog.Yaml

open Text
open Document (Scalar)

/-! ## Runs -/

/-- The whole text gives some tokens, from a position on and without a fault. -/
def Scan.Yields (scan : Scan) (tokens : List Token) : Prop :=
  ∀ fuel, scan.cursor.rest.length < fuel → Scan.run fuel scan = ⟨tokens, none⟩

def Scan.between (cursor : Cursor) (tokens : List Token) (indents : List Nat) (allowKey : Bool) :
    Scan :=
  { cursor, tokens, count := tokens.length, indents, allowKey }

def LineYields (text : List Char) (tokens : List Token) (indents : List Nat)
    (whole : List Token) : Prop :=
  ∀ cursor : Cursor, cursor.rest = text → cursor.beyond = none → cursor.column = 0 →
    (Scan.between cursor tokens indents true).Yields whole

namespace Scan

variable {scan next ready : Scan} {whole : List Token}

theorem run_of_prepare (same : scan.prepare = next.prepare) {fuel : Nat}
    (yields : run fuel next = ⟨whole, none⟩) (enough : fuel ≠ 0) :
    run fuel scan = ⟨whole, none⟩ := by
  obtain ⟨fuel, rfl⟩ := Nat.exists_eq_add_one_of_ne_zero enough
  have step_eq : scan.step = next.step := by rw [step, step, same]
  rw [run] at yields ⊢
  rw [step_eq]
  rcases stepped : next.step with fault | ⟨other, _ | _⟩ <;> rw [stepped] at yields
  · cases yields
  · exact yields
  · exact yields

theorem Yields.of_prepare (same : scan.prepare = next.prepare)
    (shorter : next.cursor.rest.length ≤ scan.cursor.rest.length) (later : next.Yields whole) :
    scan.Yields whole := by
  intro fuel enough
  exact run_of_prepare same (later fuel (by omega)) (Nat.ne_zero_of_lt enough)

theorem Yields.of_step_prepare {other : Scan} (stepped : scan.step = .ok (next, true))
    (same : next.prepare = other.prepare)
    (shorter : other.cursor.rest.length < scan.cursor.rest.length) (later : other.Yields whole) :
    scan.Yields whole := by
  intro fuel enough
  obtain ⟨fuel, rfl⟩ := Nat.exists_eq_add_one_of_ne_zero (Nat.ne_zero_of_lt enough)
  rw [run, stepped]
  exact run_of_prepare same (later fuel (by omega)) (by omega)

theorem Yields.of_step (stepped : scan.step = .ok (next, true))
    (shorter : next.cursor.rest.length < scan.cursor.rest.length) (later : next.Yields whole) :
    scan.Yields whole :=
  Yields.of_step_prepare stepped rfl shorter later

theorem settled_of_beyond (bare : scan.cursor.beyond = none) : scan.settled = .ok scan := by
  have unmet : scan.cursor.met? = none := by
    rw [Cursor.met?, bare]
    split <;> rfl
  rw [settled, unmet]

theorem step_of_fetch {c : Char} {rest : List Char} {fetched : Scan}
    (prepared : scan.prepare = .ok ready) (rest_eq : ready.cursor.rest = c :: rest)
    (fetched_eq : ready.fetch c rest.head? = .ok fetched) (bare : fetched.cursor.beyond = none)
    (dropped : fetched.dropStale = .ok next) : scan.step = .ok (next, true) := by
  simp only [step, prepared, rest_eq, fetched_eq, settled_of_beyond bare, dropped, bind,
    Except.bind]

/-! ## Keys -/

def Free (scan : Scan) : Prop :=
  ∃ pending, scan.keys = [pending] ∧
    ∀ key, pending = some key → key.required = false ∧ key.line ≤ scan.cursor.line

theorem Free.dropStale (free : scan.Free) :
    ∃ pending, scan.dropStale = .ok { scan with keys := [pending] } ∧
      Free { scan with keys := [pending] } := by
  obtain ⟨pending, keys_eq, harmless⟩ := free
  rcases pending with _ | key
  · refine ⟨none, ?_, none, rfl, by simp⟩
    simp [Scan.dropStale, keys_eq]
    rfl
  · obtain ⟨optional, behind⟩ := harmless key rfl
    rcases stale : isStale scan.cursor key with _ | _
    · refine ⟨some key, ?_, some key, rfl, by simpa using ⟨optional, behind⟩⟩
      simp [Scan.dropStale, keys_eq, stale]
      rfl
    · refine ⟨none, ?_, none, rfl, by simp⟩
      simp [Scan.dropStale, keys_eq, stale, optional]
      rfl

theorem Free.dropStale_line (free : scan.Free) {after : Cursor}
    (later : scan.cursor.line < after.line) :
    { scan with cursor := after }.dropStale = .ok { scan with cursor := after, keys := [none] } := by
  obtain ⟨pending, keys_eq, harmless⟩ := free
  rcases pending with _ | key
  · simp only [Scan.dropStale, keys_eq, List.mapM_cons, List.mapM_nil]
    rfl
  · obtain ⟨optional, behind⟩ := harmless key rfl
    have stale : isStale after key = true := by
      have : key.line ≠ after.line := by omega
      simp [isStale, this]
    simp only [Scan.dropStale, keys_eq, List.mapM_cons, List.mapM_nil, stale, optional]
    rfl

/-! ## The way to the next token -/

theorem skipBlanks_line {indent : Nat} (line : IsLine indent scan.cursor.rest) (fuel : Nat) :
    skipBlanks (fuel + 1) scan = { scan with cursor := scan.cursor.forward indent } := by
  rw [skipBlanks]
  simp only [line.skipWhile, beq_iff_eq, line.peek_ne, ↓reduceIte, line.lineBreak?]

theorem skipBlanks_newline {text : List Char} (rest_eq : scan.cursor.rest = '\n' :: text)
    (block : scan.isFlow = false) (fuel : Nat) :
    skipBlanks (fuel + 1) scan =
      skipBlanks fuel { scan with cursor := scan.cursor.next, allowKey := true } := by
  have here : scan.cursor.skipWhile (· == ' ') = scan.cursor := by
    simp [Cursor.skipWhile, rest_eq]
  have shown : scan.cursor.peek ≠ some '#' := by simp [Cursor.peek, rest_eq]
  rw [skipBlanks]
  simp only [here, beq_iff_eq, shown, ↓reduceIte, Cursor.lineBreak?_feed rest_eq, block,
    Bool.not_false, Bool.or_true]

theorem prepare_line {indent : Nat} (line : IsLine indent scan.cursor.rest)
    (bare : scan.cursor.beyond = none) {kept : Scan}
    (dropped : { scan with cursor := scan.cursor.forward indent }.dropStale = .ok kept) :
    scan.prepare = .ok (kept.closeBlocks (kept.cursor.column < ·)) := by
  have settles := @settled_of_beyond { scan with cursor := scan.cursor.forward indent }
    (by simpa using bare)
  simp only [prepare, skipBlanks_line line, settles, dropped, bind, Except.bind]

theorem dropStale_between (cursor : Cursor) (tokens : List Token) (indents : List Nat)
    (allowKey : Bool) :
    (between cursor tokens indents allowKey).dropStale =
      .ok (between cursor tokens indents allowKey) :=
  rfl

theorem prepare_between {cursor : Cursor} {tokens : List Token} {indents : List Nat}
    {allowKey : Bool} {indent : Nat} (line : IsLine indent cursor.rest)
    (bare : cursor.beyond = none) :
    (between cursor tokens indents allowKey).prepare =
      .ok ((between (cursor.forward indent) tokens indents allowKey).closeBlocks
        ((cursor.forward indent).column < ·)) :=
  @prepare_line (between cursor tokens indents allowKey) indent line bare _
    (dropStale_between _ _ _ _)

theorem closeBlocks_cons (cursor : Cursor) (tokens : List Token) (indents : List Nat)
    (allowKey : Bool) {top : Nat} {closes : Nat → Bool} (closed : closes top = true) :
    (between cursor tokens (top :: indents) allowKey).closeBlocks closes =
      (between cursor (.blockEnd :: tokens) indents allowKey).closeBlocks closes := by
  have ends (n : Nat) : List.replicate (n + 1) Token.blockEnd ++ tokens =
      List.replicate n .blockEnd ++ .blockEnd :: tokens := by
    rw [List.replicate_succ', List.append_assoc]
    rfl
  have block (tokens : List Token) (indents : List Nat) :
      ¬(between cursor tokens indents allowKey).isFlow = true := by
    simp [isFlow, between]
  rw [closeBlocks, closeBlocks, if_neg (block _ _), if_neg (block _ _)]
  simp only [between, List.takeWhile_cons_of_pos closed, List.length_cons, List.drop_succ_cons,
    ends, Nat.add_assoc, Nat.add_comm 1]

theorem closeBlocks_of_head {closes : Nat → Bool}
    (kept : scan.indents.head?.all (!closes ·) = true) : scan.closeBlocks closes = scan := by
  have none_closed : scan.indents.takeWhile closes = [] := by
    rcases indents_eq : scan.indents with _ | ⟨top, outer⟩
    · rfl
    · rw [indents_eq] at kept
      exact List.takeWhile_cons_of_neg (by simpa using kept)
  simp [closeBlocks, none_closed]

end Scan

/-! ## From line to line -/

namespace LineYields

open Scan

variable {text : List Char} {tokens whole : List Token} {indents : List Nat} {indent : Nat}

theorem line_next {cursor : Cursor} (rest_eq : cursor.rest = '\n' :: text) :
    cursor.next.line = cursor.line + 1 ∧ cursor.next.column = 0 := by
  simp [Cursor.next, rest_eq, isBreak]

theorem forward_line {cursor : Cursor} (line : IsLine indent cursor.rest) :
    (cursor.forward indent).line = cursor.line := by
  rcases line with ⟨-, rfl⟩ | ⟨c, more, rest_eq, -⟩
  · rfl
  · have flat := (Cursor.forward_flat rest_eq (by simp [isBreak])).1
    rwa [List.length_replicate] at flat

theorem forward_column {cursor : Cursor} (line : IsLine indent cursor.rest) :
    (cursor.forward indent).column = cursor.column + indent := by
  rcases line with ⟨-, rfl⟩ | ⟨c, more, rest_eq, -⟩
  · rfl
  · exact Cursor.column_spaces rest_eq

theorem newline {scan : Scan} (later : LineYields text scan.tokens scan.indents whole)
    (line : IsLine indent text) (rest_eq : scan.cursor.rest = '\n' :: text)
    (bare : scan.cursor.beyond = none) (counted : scan.count = scan.tokens.length)
    (free : scan.Free) : scan.Yields whole := by
  obtain ⟨line_eq, column_eq⟩ := line_next rest_eq
  have next_rest : scan.cursor.next.rest = text := by simp [rest_eq]
  have line : IsLine indent scan.cursor.next.rest := by rwa [next_rest]
  refine Yields.of_prepare ?_ (by simp [between])
    (later scan.cursor.next next_rest (by simp [bare]) column_eq)
  have block : scan.isFlow = false := by
    obtain ⟨pending, keys_eq, -⟩ := free
    simp [isFlow, keys_eq]
  have settles := @settled_of_beyond
    { scan with cursor := scan.cursor.next.forward indent, allowKey := true } (by simp [bare])
  have dropped := @Free.dropStale_line { scan with allowKey := true } free
    (scan.cursor.next.forward indent) (by simp only [forward_line line]; omega)
  have same : { scan with
      cursor := scan.cursor.next.forward indent, allowKey := true, keys := [none] } =
      between (scan.cursor.next.forward indent) scan.tokens scan.indents true := by
    rw [between, ← counted]
  rw [prepare_between line (by simp [bare]), prepare, skipBlanks_newline rest_eq block, rest_eq,
    List.length_cons, skipBlanks_line line]
  simp only [settles, dropped, bind, Except.bind, same]
  rfl

/-- The position that the reader of a plain scalar finds on the next line. -/
theorem prepare_ahead {cursor : Cursor} (line : IsLine indent text)
    (rest_eq : cursor.rest = '\n' :: text) (bare : cursor.beyond = none) :
    (between (cursor.forward (indent + 1)) tokens indents true).prepare =
      (between cursor.next tokens indents true).prepare := by
  have line : IsLine indent cursor.next.rest := by simpa [rest_eq] using line
  have here : IsLine 0 (cursor.forward (indent + 1)).rest := by
    rw [← Cursor.forward_next, Cursor.rest_forward]
    rcases line with ⟨text_eq, rfl⟩ | ⟨c, more, text_eq, solid⟩
    · exact .inl ⟨by simpa using text_eq, rfl⟩
    · refine .inr ⟨c, more, ?_, solid⟩
      rw [text_eq, List.drop_left' (by simp)]
      rfl
  rw [prepare_between here (by simp [bare]), prepare_between line (by simp [bare])]
  rfl

theorem close {top : Nat} (later : LineYields text (.blockEnd :: tokens) indents whole)
    (line : IsLine indent text) (outside : indent < top) :
    LineYields text tokens (top :: indents) whole := by
  intro cursor rest_eq bare column_eq
  have line : IsLine indent cursor.rest := by rwa [rest_eq]
  have column : (cursor.forward indent).column = indent := by
    rw [forward_column line, column_eq, Nat.zero_add]
  refine @Yields.of_prepare _ (between cursor (.blockEnd :: tokens) indents true) _ ?_
    (Nat.le_refl _) (later cursor rest_eq bare column_eq)
  rw [prepare_between line bare, prepare_between line bare, column,
    closeBlocks_cons _ _ _ _ (decide_eq_true outside)]

theorem finish_free {scan : Scan} (ended : scan.cursor.rest = []) (bare : scan.cursor.beyond = none)
    (free : scan.Free) (indents_eq : scan.indents = [0]) :
    scan.Yields (.blockEnd :: scan.tokens).reverse := by
  intro fuel enough
  obtain ⟨pending, dropped, same, keys_eq, optional⟩ := free.dropStale
  obtain rfl : pending = same := List.singleton_inj.mp keys_eq
  have line : IsLine 0 scan.cursor.rest := .inl ⟨ended, rfl⟩
  have prepared : scan.prepare = .ok { scan with keys := [pending] } := by
    rw [prepare_line line bare dropped, closeBlocks_of_head (by simp [indents_eq])]
  have finished : Scan.finish { scan with keys := [pending] } =
      .ok { scan with
        keys := [none], indents := [], tokens := .blockEnd :: scan.tokens
        count := scan.count + 1 } := by
    cases pending with
    | none => simp [Scan.finish, closeBlocks, isFlow, indents_eq, dropKey]
    | some key => simp [Scan.finish, closeBlocks, isFlow, indents_eq, dropKey, (optional key rfl).1]
  have stepped : scan.step = .ok ({ scan with
      keys := [none], indents := [], tokens := .blockEnd :: scan.tokens
      count := scan.count + 1 }, false) := by
    simp only [step, prepared, bind, Except.bind, ended, finished]
  obtain ⟨fuel, rfl⟩ := Nat.exists_eq_add_one_of_ne_zero (Nat.ne_zero_of_lt enough)
  rw [run, stepped]

theorem finish (tokens : List Token) : LineYields [] tokens [0] (.blockEnd :: tokens).reverse :=
  fun cursor rest_eq bare _ =>
    @finish_free (between cursor tokens [0] true) rest_eq bare ⟨none, rfl, by simp⟩ rfl

end LineYields

/-! ## Fetching tokens -/

namespace Scan

variable {cursor : Cursor} {tokens whole : List Token} {indents : List Nat} {allowKey : Bool}

theorem isFlow_between : (between cursor tokens indents allowKey).isFlow = false :=
  rfl

def pendingKey (cursor : Cursor) (tokens : List Token) (indents : List Nat) : PossibleKey where
  position := tokens.length
  required := indents.head? == some cursor.column
  index := cursor.index
  line := cursor.line
  column := cursor.column

def pendingBetween (cursor : Cursor) (tokens : List Token) (indents : List Nat) (allowKey : Bool)
    (pending : Option PossibleKey) : Scan :=
  { between cursor tokens indents allowKey with keys := [pending] }

theorem saveKey_between :
    (between cursor tokens indents allowKey).saveKey =
      .ok (pendingBetween cursor tokens indents allowKey
        (if allowKey then some (pendingKey cursor tokens indents) else none)) := by
  cases allowKey <;> rfl

theorem content_between {read : Cursor → Except Fault (Token × Cursor × Bool)} {token : Token}
    {after : Cursor} {newLine : Bool} (read_eq : read cursor = .ok (token, after, newLine)) :
    (between cursor tokens indents allowKey).content read =
      .ok (pendingBetween after (token :: tokens) indents newLine
        (if allowKey then some (pendingKey cursor tokens indents) else none)) := by
  rw [content, saveKey_between]
  change (read cursor >>= _) = _
  rw [read_eq]
  rfl

section Fetch

variable {scan : Scan} {c : Char} {rest : List Char}

theorem isMark_cons {mark other : Char} (rest_eq : cursor.rest = other :: rest)
    (different : other ≠ mark) : cursor.isMark mark = false :=
  isMark_of_head (by simpa [rest_eq] using different)

theorem fetch_letter (rest_eq : scan.cursor.rest = c :: rest) (block : scan.isFlow = false)
    (start : (Document.Scalar.isPlainStart c || c.isDigit) = true) :
    scan.fetch c rest.head? = scan.plain := by
  have outside (other : Char)
      (refused : (Document.Scalar.isPlainStart other || other.isDigit) = false) : c ≠ other := by
    rintro rfl
    rw [refused] at start
    cases start
  have dash := outside '-' rfl
  have dot := outside '.' rfl
  have flat : isBreak c = false := by
    simp [isBreak, outside '\n' rfl, outside '\r' rfl, outside '\u0085' rfl, outside '\u2028' rfl,
      outside '\u2029' rfl]
  have starts : startsPlain false c rest.head? = true := by
    simp [startsPlain, endsWord, isFlowMark, flat, dash, outside '?' rfl, outside ':' rfl,
      outside ' ' rfl, outside '\t' rfl, outside ',' rfl, outside '[' rfl, outside ']' rfl,
      outside '\x7b' rfl, outside '\x7d' rfl, outside '#' rfl, outside '&' rfl, outside '*' rfl,
      outside '!' rfl, outside '|' rfl, outside '>' rfl, outside '\'' rfl, outside '"' rfl,
      outside '%' rfl, outside '@' rfl, outside '`' rfl]
  simp [fetch, block, starts, isMark_cons rest_eq dash, isMark_cons rest_eq dot, dash,
    outside '?' rfl, outside ':' rfl, outside ',' rfl, outside '[' rfl, outside ']' rfl,
    outside '\x7b' rfl, outside '\x7d' rfl, outside '&' rfl, outside '*' rfl, outside '!' rfl,
    outside '|' rfl, outside '>' rfl, outside '\'' rfl, outside '"' rfl, outside '%' rfl]

theorem fetch_negative {d : Char} (rest_eq : scan.cursor.rest = '-' :: d :: rest)
    (block : scan.isFlow = false) (digit : d.isDigit = true) :
    scan.fetch '-' (d :: rest).head? = scan.plain := by
  obtain ⟨word, dash⟩ : endsWord (some d) = false ∧ d ≠ '-' :=
    digit_forall (p := fun d => endsWord (some d) = false ∧ d ≠ '-') (by decide) digit
  have mark : scan.cursor.isMark '-' = false := by
    simp [Cursor.isMark, rest_eq, dash.symm]
  have starts : startsPlain false '-' (some d) = true := by
    simp [startsPlain, word]
  simp [fetch, block, starts, mark, isMark_cons rest_eq, word]

theorem fetch_quote (rest_eq : scan.cursor.rest = '"' :: rest) (block : scan.isFlow = false) :
    scan.fetch '"' rest.head? = scan.quoted true := by
  simp [fetch, block, isMark_cons rest_eq]

theorem fetch_written {written more : List Char} {text : CodeText} {plain : Bool}
    (is_written : WrittenWith written text plain) (block : scan.isFlow = false)
    (rest_eq : scan.cursor.rest = written ++ more) :
    ∃ c rest, scan.cursor.rest = c :: rest ∧
      scan.fetch c rest.head? = if plain then scan.plain else scan.quoted true := by
  rcases is_written with ⟨⟨-, -, c, rest, rfl, start⟩, -, rfl⟩ | ⟨rfl, rfl⟩
  · rw [List.cons_append] at rest_eq
    refine ⟨c, rest ++ more, rest_eq, ?_⟩
    rcases start with start | ⟨rfl, d, others, rfl, digit⟩
    · exact fetch_letter rest_eq block start
    · exact fetch_negative rest_eq block digit
  · rw [Scalar.quoted, List.cons_append] at rest_eq
    exact ⟨'"', _, rest_eq, fetch_quote rest_eq block⟩

end Fetch

theorem blockBase_le {limit : Nat} (inside : indents.head?.all (· ≤ limit) = true) :
    (between cursor tokens indents allowKey).blockBase ≤ limit + 1 := by
  rcases indents with _ | ⟨top, outer⟩
  · exact Nat.zero_le _
  · have : top ≤ limit := by simpa using inside
    exact Nat.succ_le_succ this

/-! ## Scalars -/

section Scalars

variable {written more text : List Char} {value : CodeText} {plain : Bool}

theorem plain_between {read : List Char} {after : Cursor} {newLine : Bool}
    (read_eq : readPlain false (between cursor tokens indents allowKey).blockBase cursor =
      (read, after, newLine)) :
    (between cursor tokens indents allowKey).plain =
      .ok (pendingBetween after (.scalar (.ofChars read) true :: tokens) indents newLine
        (if allowKey then some (pendingKey cursor tokens indents) else none)) :=
  content_between (by rw [isFlow_between, read_eq])

theorem quoted_between (rest_eq : cursor.rest = Scalar.quoted value ++ more) :
    (between cursor tokens indents allowKey).quoted true =
      .ok (pendingBetween (cursor.forward (Scalar.quoted value).length)
        (.scalar value false :: tokens) indents false
        (if allowKey then some (pendingKey cursor tokens indents) else none)) :=
  content_between (by rw [readQuoted_quoted value rest_eq]; rfl)

theorem fetch_scalar (is_written : WrittenWith written value plain)
    (rest_eq : cursor.rest = written ++ more) (ends : EndsPlain more)
    (solid : ∀ c, more.head? = some c → c ≠ ' ' ∧ isBreak c = false)
    (inside : indents.head?.all (· ≤ cursor.column) = true) :
    ∃ c rest, cursor.rest = c :: rest ∧
      (between cursor tokens indents allowKey).fetch c rest.head? =
        .ok (pendingBetween (cursor.forward written.length) (.scalar value plain :: tokens) indents
          false (if allowKey then some (pendingKey cursor tokens indents) else none)) := by
  obtain ⟨c, rest, split, fetch_eq⟩ :=
    @fetch_written (between cursor tokens indents allowKey) _ _ _ _ is_written rfl rest_eq
  refine ⟨c, rest, split, fetch_eq.trans ?_⟩
  rcases is_written with ⟨plain_text, rfl, rfl⟩ | ⟨rfl, rfl⟩
  · have after_eq : (cursor.forward written.length).rest = more := by simp [rest_eq]
    exact plain_between (readPlain_text plain_text.body plain_text.ne_nil plain_text.head_ne rest_eq
      ends (blockBase_le inside) (fun fuel _ => plainGap_none (by rwa [after_eq]) fuel) (.inl rfl))
  · exact quoted_between rest_eq

end Scalars

end Scan

/-! ## Entries and items -/

/-- The tokens and the open blocks at a line of a block that starts at a column: the block is
open, or the line opens it. -/
def Opens (start : Token) (column : Nat) (tokens : List Token) (indents : List Nat)
    (opened : List Token) (outer : List Nat) : Prop :=
  (indents = column :: outer ∧ opened = tokens) ∨
    (indents = outer ∧ outer.head?.all (· < column) = true ∧ opened = start :: tokens)

namespace LineYields

open Scan

variable {cursor : Cursor} {tokens opened whole : List Token} {indents outer : List Nat}
  {column : Nat} {more : List Char} {start : Token}

theorem head_le_of_opens (opens : Opens start column tokens indents opened outer) :
    indents.head?.all (· ≤ column) = true := by
  rcases opens with ⟨rfl, -⟩ | ⟨rfl, deeper, -⟩
  · simp
  · rcases indents with _ | ⟨top, outer⟩
    · rfl
    · have : top < column := by simpa using deeper
      simpa using Nat.le_of_lt this

/-- The colon after a key puts the start of its entry in front of it. -/
theorem simpleValue_eq {name : Token}
    (opens : Opens .blockMappingStart column tokens indents opened outer)
    {pending : PossibleKey} (position : pending.position = tokens.length)
    (column_eq : pending.column = column) :
    (pendingBetween cursor (name :: tokens) indents false (some pending)).simpleValue pending =
      between cursor.next (.value :: name :: .key :: opened) (column :: outer) false := by
  rcases opens with ⟨rfl, rfl⟩ | ⟨rfl, deeper, rfl⟩
  · simp [simpleValue, isFlow, isDeeper, pendingBetween, between, column_eq, insertAt, position, Scan.forward,
      emit, Cursor.forward_one]
  · simp [simpleValue, isFlow, isDeeper, pendingBetween, between, column_eq, insertAt, position, Scan.forward,
      emit, deeper, Cursor.forward_one]

theorem not_lt_of_head {column limit : Nat} (inside : indents.head?.all (· ≤ column) = true)
    (le : column ≤ limit) : indents.head?.all (fun top => !decide (limit < top)) = true := by
  rcases indents with _ | ⟨top, outer⟩
  · rfl
  · have : top ≤ column := by simpa using inside
    simpa using Nat.le_trans this le

theorem prepare_first (line : IsLine column cursor.rest) (bare : cursor.beyond = none)
    (column_eq : cursor.column = 0) (inside : indents.head?.all (· ≤ column) = true) :
    (between cursor tokens indents true).prepare =
        .ok (between (cursor.forward column) tokens indents true) ∧
      (cursor.forward column).column = column := by
  have at_column : (cursor.forward column).column = column := by
    rw [forward_column line, column_eq, Nat.zero_add]
  refine ⟨?_, at_column⟩
  rw [prepare_between line bare, at_column,
    closeBlocks_of_head (not_lt_of_head inside (Nat.le_refl _))]

theorem dropStale_pending {pending : PossibleKey} {allowKey : Bool}
    (fresh : isStale cursor pending = false) :
    (pendingBetween cursor tokens indents allowKey (some pending)).dropStale =
      .ok (pendingBetween cursor tokens indents allowKey (some pending)) := by
  have fresh : isStale (pendingBetween cursor tokens indents allowKey (some pending)).cursor
      pending = false := fresh
  have keys_eq : (pendingBetween cursor tokens indents allowKey (some pending)).keys =
      [some pending] := rfl
  simp only [dropStale, keys_eq, List.mapM_cons, List.mapM_nil, fresh]
  rfl

theorem fetch_colon {pending : PossibleKey} (rest_eq : cursor.rest = ':' :: more)
    (blank : endsWord more.head? = true) :
    (pendingBetween cursor tokens indents false (some pending)).fetch ':' more.head? =
      .ok ((pendingBetween cursor tokens indents false (some pending)).simpleValue pending) := by
  have dash := @isMark_cons cursor more '-' ':' rest_eq (by decide)
  have dot := @isMark_cons cursor more '.' ':' rest_eq (by decide)
  simp [fetch, pendingBetween, between, isFlow, value, dash, dot, blank]

theorem colon {name : Token} (opens : Opens .blockMappingStart column tokens indents opened outer)
    {pending : PossibleKey} (position : pending.position = tokens.length)
    (column_eq : pending.column = column) (fresh : isStale cursor pending = false)
    (rest_eq : cursor.rest = ':' :: more) (blank : endsWord more.head? = true)
    (bare : cursor.beyond = none) (inside : column ≤ cursor.column)
    (later : (between cursor.next (.value :: name :: .key :: opened) (column :: outer)
      false).Yields whole) :
    (pendingBetween cursor (name :: tokens) indents false (some pending)).Yields whole := by
  have line : IsLine 0 cursor.rest := .inr ⟨':', more, rest_eq, by decide, by decide, by decide⟩
  have prepared : (pendingBetween cursor (name :: tokens) indents false (some pending)).prepare =
      .ok (pendingBetween cursor (name :: tokens) indents false (some pending)) := by
    refine (@prepare_line (pendingBetween cursor (name :: tokens) indents false (some pending)) 0
      line bare _ (dropStale_pending fresh)).trans (congrArg Except.ok ?_)
    exact closeBlocks_of_head (not_lt_of_head (head_le_of_opens opens) inside)
  have fetched := @fetch_colon cursor (name :: tokens) indents _ pending rest_eq blank
  rw [simpleValue_eq opens position column_eq] at fetched
  refine Yields.of_step (step_of_fetch prepared rest_eq fetched ?_ (dropStale_between _ _ _ _)) ?_
    later
  · simp [between, bare]
  · simp [between, pendingBetween, rest_eq]

theorem key {name : CodeText} (opens : Opens .blockMappingStart column tokens indents opened outer)
    (short : (Scalar.writtenText name).length ≤ keyReach) (blank : endsWord more.head? = true)
    (later : ∀ cursor : Cursor, cursor.rest = more → cursor.beyond = none →
      column < cursor.column →
      (between cursor (.value :: .scalar name (isWrittenPlain name) :: .key :: opened)
        (column :: outer) false).Yields whole) :
    LineYields (List.replicate column ' ' ++ (Scalar.writtenText name ++ ':' :: more)) tokens
      indents whole := by
  intro cursor rest_eq bare column_eq
  have is_written := writtenWith_text name
  have inside := head_le_of_opens opens
  obtain ⟨first, others, shown, solid⟩ := is_written.exists_cons
  have line : IsLine column cursor.rest :=
    .inr ⟨first, others ++ ':' :: more, by rw [rest_eq, shown]; rfl, solid⟩
  obtain ⟨prepared, at_column⟩ := @prepare_first cursor tokens indents column line bare column_eq
    inside
  have name_eq : (cursor.forward column).rest = Scalar.writtenText name ++ ':' :: more := by
    rw [Cursor.rest_forward, rest_eq, List.drop_left' (by simp)]
  have ends : EndsPlain (':' :: more) := by
    rintro c others ⟨⟩
    simp [endsPlain, blank]
  obtain ⟨c, rest, split, fetched⟩ := @fetch_scalar (cursor.forward column) tokens indents true
    _ _ _ _ is_written name_eq ends (by simp [isBreak]) (by rwa [at_column])
  obtain ⟨line_eq, index_eq, column_le⟩ := Cursor.forward_flat name_eq fun c mem =>
    (is_written.flat mem).2
  have fresh : isStale ((cursor.forward column).forward (Scalar.writtenText name).length)
      (pendingKey (cursor.forward column) tokens indents) = false := by
    simp [isStale, pendingKey, line_eq, index_eq, short]
  have colon_eq : ((cursor.forward column).forward (Scalar.writtenText name).length).rest =
      ':' :: more := by
    rw [Cursor.rest_forward, name_eq, List.drop_left]
  have next_column : column < ((cursor.forward column).forward
      (Scalar.writtenText name).length).next.column := by
    simp only [Cursor.next, colon_eq]
    rw [at_column] at column_le
    exact Nat.lt_succ_of_le column_le
  refine Yields.of_step (step_of_fetch prepared split fetched ?_ (dropStale_pending fresh)) ?_
    (colon opens rfl at_column fresh colon_eq blank (by simp [bare]) (by omega)
      (later _ (by rw [Cursor.rest_next, colon_eq, List.tail_cons]) (by simp [bare]) next_column))
  · simp [pendingBetween, between, bare]
  · have start_length := congrArg List.length rest_eq
    have colon_length := congrArg List.length colon_eq
    simp only [shown, List.length_append, List.length_cons, List.length_replicate] at start_length
    simp only [pendingBetween, between, colon_length, start_length, List.length_cons]
    omega

/-! ## What stands after a colon or a dash -/

section Inline

variable {part text : List Char} {token : Token} {top indent : Nat} {allowKey : Bool}

theorem prepare_inline {c : Char} (rest_eq : cursor.rest = ' ' :: c :: more)
    (solid : c ≠ ' ' ∧ c ≠ '#' ∧ isBreak c = false) (bare : cursor.beyond = none)
    (inside : top < cursor.column) :
    (between cursor tokens (top :: outer) allowKey).prepare =
        .ok (between cursor.next tokens (top :: outer) allowKey) ∧
      cursor.next.rest = c :: more ∧ top < cursor.next.column := by
  have line : IsLine 1 cursor.rest := .inr ⟨c, more, rest_eq, solid⟩
  have column_eq := forward_column line
  rw [Cursor.forward_one] at column_eq
  refine ⟨?_, by simp [rest_eq], by omega⟩
  rw [prepare_between line bare, Cursor.forward_one, closeBlocks_of_head]
  simp only [between, List.head?_cons, Option.all_some, Bool.not_eq_true', decide_eq_false_iff_not]
  omega

theorem optional_pendingKey (inside : top < cursor.column) :
    (pendingKey cursor tokens (top :: outer)).required = false := by
  have : top ≠ cursor.column := Nat.ne_of_lt inside
  simpa [pendingKey] using this

theorem free_pending {after : Cursor} {others : List Token} {newLine : Bool}
    (inside : top < cursor.column) (behind : cursor.line ≤ after.line) :
    (pendingBetween after others (top :: outer) newLine
      (if allowKey then some (pendingKey cursor tokens (top :: outer)) else none)).Free := by
  refine ⟨_, rfl, fun key key_eq => ?_⟩
  split at key_eq
  · cases key_eq
    exact ⟨optional_pendingKey inside, behind⟩
  · cases key_eq

theorem content {c : Char} {rest : List Char}
    (later : LineYields text (token :: tokens) (top :: outer) whole)
    (line : IsLine indent text) (rest_eq : cursor.rest = ' ' :: (part ++ '\n' :: text))
    (split : part = c :: rest) (solid : c ≠ ' ' ∧ c ≠ '#')
    (flat : ∀ c ∈ part, isBreak c = false) (bare : cursor.beyond = none)
    (inside : top < cursor.column)
    (fetched : (between cursor.next tokens (top :: outer) allowKey).fetch c
        (rest ++ '\n' :: text).head? =
      .ok (pendingBetween (cursor.next.forward part.length) (token :: tokens) (top :: outer) false
        (if allowKey then some (pendingKey cursor.next tokens (top :: outer)) else none))) :
    (between cursor tokens (top :: outer) allowKey).Yields whole := by
  subst split
  obtain ⟨prepared, next_eq, next_column⟩ := @prepare_inline cursor tokens outer
    (rest ++ '\n' :: text) top allowKey c rest_eq ⟨solid.1, solid.2, flat c (by simp)⟩ bare inside
  obtain ⟨line_eq, -, -⟩ := @Cursor.forward_flat cursor.next (c :: rest) ('\n' :: text) next_eq flat
  have after_eq : (cursor.next.forward (c :: rest).length).rest = '\n' :: text := by
    rw [Cursor.rest_forward, next_eq, ← List.cons_append, List.drop_left]
  obtain ⟨pending, dropped, still_free⟩ :=
    (@free_pending cursor.next tokens outer top allowKey _ (token :: tokens) false next_column
      (Nat.le_of_eq line_eq.symm)).dropStale
  refine Yields.of_step
    (step_of_fetch prepared next_eq fetched (by simp [pendingBetween, between, bare]) dropped) ?_
    (newline later line after_eq (by simp [pendingBetween, between, bare]) rfl still_free)
  change (cursor.next.forward (c :: rest).length).rest.length < cursor.rest.length
  rw [after_eq, rest_eq]
  simp only [List.length_cons, List.length_append]
  omega

theorem readPlain_line {written : List Char} (plain : PlainText written)
    (rest_eq : cursor.rest = written ++ '\n' :: text) (line : IsLine indent text)
    (unmarked : Unmarked text) (outside : indent ≤ top) (inside : top < cursor.column) :
    readPlain false (top + 1) cursor =
      (written, (cursor.forward written.length).forward (indent + 1), true) := by
  have feed : (cursor.forward written.length).rest = '\n' :: text := by
    rw [Cursor.rest_forward, rest_eq, List.drop_left]
  have ahead : IsLine indent (cursor.forward written.length).next.rest := by
    rwa [Cursor.rest_next, feed]
  have left : ((cursor.forward written.length).forward (indent + 1)).column < top + 1 := by
    rw [← Cursor.forward_next, forward_column ahead, (line_next feed).2]
    omega
  have ends : EndsPlain ('\n' :: text) := by
    rintro c others ⟨⟩
    rfl
  have gap_eq (fuel : Nat) (enough : ('\n' :: text).length ≤ fuel) :
      plainGap fuel (cursor.forward written.length) =
        ⟨[' '], (cursor.forward written.length).forward (indent + 1), true⟩ := by
    obtain ⟨fuel, rfl⟩ := Nat.exists_eq_add_one_of_ne_zero (Nat.ne_zero_of_lt enough)
    exact plainGap_line feed line unmarked fuel
  exact readPlain_text plain.body plain.ne_nil plain.head_ne rest_eq ends (by omega) gap_eq
    (.inr left)

theorem plainScalar {written : List Char} {c : Char} {rest : List Char}
    (later : LineYields text (.scalar (.ofChars written) true :: tokens) (top :: outer) whole)
    (plain : PlainText written) (line : IsLine indent text) (unmarked : Unmarked text)
    (outside : indent ≤ top) (rest_eq : cursor.rest = ' ' :: (written ++ '\n' :: text))
    (bare : cursor.beyond = none) (inside : top < cursor.column) (split : written = c :: rest)
    (fetched : (between cursor.next tokens (top :: outer) allowKey).fetch c
        (rest ++ '\n' :: text).head? =
      (between cursor.next tokens (top :: outer) allowKey).plain) :
    (between cursor tokens (top :: outer) allowKey).Yields whole := by
  have solid := plain.body.chars c (by simp [split])
  have blank : c ≠ ' ' := by simpa [split] using plain.head_ne
  obtain ⟨prepared, next_eq, next_column⟩ := @prepare_inline cursor tokens outer
    (rest ++ '\n' :: text) top allowKey c (by rw [rest_eq, split]; rfl)
    ⟨blank, solid.2.1, solid.2.2.2⟩ bare inside
  have next_rest : cursor.next.rest = written ++ '\n' :: text := by rw [next_eq, split]; rfl
  have feed : (cursor.next.forward written.length).rest = '\n' :: text := by
    rw [Cursor.rest_forward, next_rest, List.drop_left]
  have ahead : IsLine indent (cursor.next.forward written.length).next.rest := by
    rwa [Cursor.rest_next, feed]
  have line_lt : cursor.next.line <
      ((cursor.next.forward written.length).forward (indent + 1)).line := by
    rw [← Cursor.forward_next, forward_line ahead, (line_next feed).1,
      (Cursor.forward_flat next_rest fun c mem => (plain.body.chars c mem).2.2.2).1]
    omega
  have read_eq := readPlain_line plain next_rest line unmarked outside next_column
  have free := @free_pending cursor.next tokens outer top allowKey cursor.next
    (.scalar (.ofChars written) true :: tokens) true next_column (Nat.le_refl _)
  have stepped := step_of_fetch prepared next_eq (fetched.trans (plain_between read_eq))
    (by simp [pendingBetween, between, bare]) (free.dropStale_line line_lt)
  refine Yields.of_step_prepare stepped (prepare_ahead line feed (by simp [bare])) ?_
    (later _ ?_ (by simp [bare]) (line_next feed).2)
  · change (cursor.next.forward written.length).next.rest.length < cursor.rest.length
    rw [Cursor.rest_next, feed, rest_eq]
    simp only [List.tail_cons, List.length_cons, List.length_append]
    omega
  · rw [Cursor.rest_next, feed, List.tail_cons]

theorem scalar {written : List Char} {value : CodeText} {plain : Bool}
    (later : LineYields text (.scalar value plain :: tokens) (top :: outer) whole)
    (is_written : WrittenWith written value plain) (line : IsLine indent text)
    (unmarked : Unmarked text) (outside : indent ≤ top)
    (rest_eq : cursor.rest = ' ' :: (written ++ '\n' :: text)) (bare : cursor.beyond = none)
    (inside : top < cursor.column) :
    (between cursor tokens (top :: outer) allowKey).Yields whole := by
  obtain ⟨c, rest, shown, blank, comment, -⟩ := is_written.exists_cons
  have next_rest : cursor.next.rest = written ++ '\n' :: text := by simp [rest_eq]
  obtain ⟨first, others, split, fetched⟩ := @fetch_written
    (between cursor.next tokens (top :: outer) allowKey) _ _ _ _ is_written rfl next_rest
  obtain ⟨rfl, rfl⟩ : c = first ∧ rest ++ '\n' :: text = others := by
    rw [shown] at next_rest
    exact List.cons.inj (next_rest.symm.trans split)
  have flat : ∀ c ∈ written, isBreak c = false := fun c mem => (is_written.flat mem).2
  rcases is_written with ⟨plain_text, rfl, rfl⟩ | ⟨rfl, rfl⟩
  · exact plainScalar later plain_text line unmarked outside rest_eq bare inside shown fetched
  · refine content later line rest_eq shown ⟨blank, comment⟩ flat bare inside ?_
    exact fetched.trans (quoted_between next_rest)

theorem lastScalar {written : List Char} {value : CodeText} {plain : Bool}
    (is_written : WrittenWith written value plain) (rest_eq : cursor.rest = ' ' :: written)
    (bare : cursor.beyond = none) (inside : 0 < cursor.column) :
    (between cursor tokens [0] allowKey).Yields
      (.blockEnd :: .scalar value plain :: tokens).reverse := by
  obtain ⟨first, others, shown, solid⟩ := is_written.exists_cons
  obtain ⟨prepared, next_eq, next_column⟩ := @prepare_inline cursor tokens [] others 0 allowKey
    first (by rw [rest_eq, shown]) solid bare inside
  rw [← shown] at next_eq
  have whole_eq : cursor.next.rest = written ++ [] := by rw [next_eq, List.append_nil]
  obtain ⟨c, rest, split, fetched⟩ := @fetch_scalar cursor.next tokens [0] allowKey _ _ _ _
    is_written whole_eq nofun (by simp) (by simp)
  have ended : (cursor.next.forward written.length).rest = [] := by
    rw [Cursor.rest_forward, next_eq, List.drop_length]
  obtain ⟨line_eq, -, -⟩ := Cursor.forward_flat whole_eq fun c mem => (is_written.flat mem).2
  obtain ⟨pending, dropped, still_free⟩ :=
    (@free_pending cursor.next tokens [] 0 allowKey _ (.scalar value plain :: tokens) false
      next_column (Nat.le_of_eq line_eq.symm)).dropStale
  refine Yields.of_step
    (step_of_fetch prepared split fetched (by simp [pendingBetween, between, bare]) dropped) ?_
    (finish_free ended (by simp [pendingBetween, between, bare]) still_free rfl)
  change (cursor.next.forward written.length).rest.length < cursor.rest.length
  rw [ended, rest_eq]
  exact Nat.succ_pos _

theorem fetch_star {scan : Scan} {rest : List Char} (rest_eq : scan.cursor.rest = '*' :: rest)
    (block : scan.isFlow = false) : scan.fetch '*' rest.head? = scan.reference := by
  simp [fetch, block, isMark_cons rest_eq]

theorem fetch_tag {scan : Scan} {rest : List Char} (rest_eq : scan.cursor.rest = '!' :: rest)
    (block : scan.isFlow = false) : scan.fetch '!' rest.head? = scan.tag := by
  simp [fetch, block, isMark_cons rest_eq]

theorem fetch_anchor {scan : Scan} {rest : List Char} (rest_eq : scan.cursor.rest = '&' :: rest)
    (block : scan.isFlow = false) : scan.fetch '&' rest.head? = scan.anchor := by
  simp [fetch, block, isMark_cons rest_eq]

theorem reference {name : List Char}
    (later : LineYields text (.reference (String.ofList name) :: tokens) (top :: outer) whole)
    (shown : name ≠ []) (all : ∀ c ∈ name, Document.isAnchorChar c = true)
    (line : IsLine indent text) (rest_eq : cursor.rest = ' ' :: ('*' :: name ++ '\n' :: text))
    (bare : cursor.beyond = none) (inside : top < cursor.column) :
    (between cursor tokens (top :: outer) allowKey).Yields whole := by
  have next_rest : cursor.next.rest = '*' :: name ++ '\n' :: text := by simp [rest_eq]
  have read_eq := readName_anchor shown all rfl rfl next_rest
  refine content later line rest_eq rfl (by decide) ?_ bare inside ?_
  · intro c mem
    rcases List.mem_cons.mp mem with rfl | mem
    · rfl
    · exact (flat_of_isAnchorChar (all c mem)).2
  · refine (fetch_star next_rest rfl).trans (content_between ?_)
    rw [read_eq]
    rfl

theorem tag {kind : Document.Kind}
    (later : LineYields text (.tag (kindTag kind) :: tokens) (top :: outer) whole)
    (line : IsLine indent text)
    (rest_eq : cursor.rest = ' ' :: (Document.propertyText kind none ++ '\n' :: text))
    (bare : cursor.beyond = none) (inside : top < cursor.column) :
    (between cursor tokens (top :: outer) allowKey).Yields whole := by
  have next_rest : cursor.next.rest = Document.propertyText kind none ++ '\n' :: text := by
    simp [rest_eq]
  have read_eq := readTag_kind kind next_rest
  obtain ⟨others, text_eq⟩ : ∃ others, Document.propertyText kind none = '!' :: others :=
    ⟨_, rfl⟩
  refine content later line rest_eq text_eq (by decide) ?_ bare inside ?_
  · cases kind <;> exact List.all_iff_forall_prop.mp (by decide)
  · rw [text_eq] at next_rest
    refine (fetch_tag next_rest rfl).trans (content_between ?_)
    rw [read_eq]
    rfl

theorem anchor {name : List Char} (shown : name ≠ [])
    (all : ∀ c ∈ name, Document.isAnchorChar c = true)
    (rest_eq : cursor.rest = ' ' :: ('&' :: name ++ ' ' :: more)) (bare : cursor.beyond = none)
    (inside : top < cursor.column)
    (later : ∀ cursor : Cursor, cursor.rest = ' ' :: more → cursor.beyond = none →
      top < cursor.column →
      (between cursor (.anchor (String.ofList name) :: tokens) (top :: outer) false).Yields whole) :
    (between cursor tokens (top :: outer) false).Yields whole := by
  obtain ⟨prepared, next_eq, next_column⟩ := @prepare_inline cursor tokens outer
    (name ++ ' ' :: more) top false '&' rest_eq (by decide) bare inside
  have read_eq := @readName_anchor cursor.next (' ' :: more) '&' name shown all rfl rfl next_eq
  have fetched : (between cursor.next tokens (top :: outer) false).fetch '&'
      (name ++ ' ' :: more).head? =
        .ok (between (cursor.next.forward (name.length + 1)) (.anchor (String.ofList name) :: tokens)
          (top :: outer) false) := by
    refine (fetch_anchor next_eq rfl).trans (content_between ?_)
    rw [read_eq]
    rfl
  have after_eq : (cursor.next.forward (name.length + 1)).rest = ' ' :: more := by
    rw [Cursor.rest_forward, next_eq, List.drop_succ_cons, List.drop_left]
  obtain ⟨-, -, column_le⟩ := @Cursor.forward_flat cursor.next ('&' :: name) (' ' :: more) next_eq
    (by
      intro c mem
      rcases List.mem_cons.mp mem with rfl | mem
      · rfl
      · exact (flat_of_isAnchorChar (all c mem)).2)
  refine Yields.of_step (step_of_fetch prepared next_eq fetched (by simp [between, bare])
    (dropStale_between _ _ _ _)) ?_ (later _ after_eq (by simp [bare])
      (Nat.lt_of_lt_of_le next_column column_le))
  change (cursor.next.forward (name.length + 1)).rest.length < cursor.rest.length
  rw [after_eq, rest_eq]
  simp only [List.length_cons, List.length_append]
  omega

def inFlow (cursor : Cursor) (tokens : List Token) (indents : List Nat) : Scan :=
  { between cursor tokens indents true with keys := [none, none] }

theorem emptyList
    (later : LineYields text (.flowSequenceEnd :: .flowSequenceStart :: tokens) (top :: outer) whole)
    (line : IsLine indent text) (rest_eq : cursor.rest = ' ' :: '[' :: ']' :: '\n' :: text)
    (bare : cursor.beyond = none) (inside : top < cursor.column) :
    (between cursor tokens (top :: outer) false).Yields whole := by
  obtain ⟨prepared, next_eq, -⟩ := @prepare_inline cursor tokens outer
    (']' :: '\n' :: text) top false '[' rest_eq (by decide) bare inside
  have close_eq : cursor.next.next.rest = ']' :: '\n' :: text := by simp [rest_eq]
  have feed : cursor.next.next.next.rest = '\n' :: text := by simp [rest_eq]
  have dash := @isMark_cons cursor.next _ '-' '[' next_eq (by decide)
  have dot := @isMark_cons cursor.next _ '.' '[' next_eq (by decide)
  have fetched : (between cursor.next tokens (top :: outer) false).fetch '[' (some ']') =
      .ok (inFlow cursor.next.next (.flowSequenceStart :: tokens) (top :: outer)) := by
    simp [fetch, between, inFlow, dash, dot, flowStart, saveKey, Scan.forward, emit,
      Cursor.forward_one, bind, Except.bind]
  refine Yields.of_step (step_of_fetch prepared next_eq fetched (by simp [inFlow, between, bare])
    rfl) (by simp [inFlow, between, rest_eq]) ?_
  have here : IsLine 0 cursor.next.next.rest :=
    .inr ⟨']', '\n' :: text, close_eq, by decide, by decide, by decide⟩
  have prepared : (inFlow cursor.next.next (.flowSequenceStart :: tokens) (top :: outer)).prepare =
      .ok (inFlow cursor.next.next (.flowSequenceStart :: tokens) (top :: outer)) :=
    @prepare_line (inFlow cursor.next.next (.flowSequenceStart :: tokens) (top :: outer)) 0 here
      (by simp [inFlow, between, bare]) _ rfl
  have dash := @isMark_cons cursor.next.next _ '-' ']' close_eq (by decide)
  have dot := @isMark_cons cursor.next.next _ '.' ']' close_eq (by decide)
  have fetched : (inFlow cursor.next.next (.flowSequenceStart :: tokens) (top :: outer)).fetch ']'
      (some '\n') = .ok (between cursor.next.next.next
        (.flowSequenceEnd :: .flowSequenceStart :: tokens) (top :: outer) false) := by
    simp [fetch, between, inFlow, isFlow, dash, dot, flowEnd, dropKey, Scan.forward, emit,
      Cursor.forward_one, bind, Except.bind]
  refine Yields.of_step (step_of_fetch prepared close_eq fetched (by simp [between, bare]) rfl)
    (by simp [inFlow, between, rest_eq]) ?_
  exact newline later line feed (by simp [between, bare]) rfl ⟨none, rfl, by simp⟩

end Inline

theorem fetch_dash (opens : Opens .blockSequenceStart column tokens indents opened outer)
    (rest_eq : cursor.rest = '-' :: more) (at_column : cursor.column = column)
    (blank : endsWord more.head? = true) (apart : more.head? ≠ some '-') :
    (between cursor tokens indents true).fetch '-' more.head? =
      .ok (between cursor.next (.blockEntry :: opened) (column :: outer) true) := by
  have unmarked : cursor.isMark '-' = false := by
    rcases more with _ | ⟨c, rest⟩
    · simp [Cursor.isMark, rest_eq]
    · have : '-' ≠ c := by
        rintro rfl
        exact apart rfl
      simp [Cursor.isMark, rest_eq, this]
  have dot := @isMark_cons cursor _ '.' '-' rest_eq (by decide)
  have entry : (between cursor tokens indents true).fetch '-' more.head? =
      (between cursor tokens indents true).blockEntry := by
    simp [fetch, between, unmarked, dot, blank]
  rw [entry]
  rcases opens with ⟨rfl, rfl⟩ | ⟨rfl, deeper, rfl⟩
  · simp [blockEntry, isFlow, between, openBlock, isDeeper, at_column, dropKey, Scan.forward,
      emit, Cursor.forward_one, bind, Except.bind]
  · simp [blockEntry, isFlow, between, openBlock, isDeeper, at_column, deeper, dropKey,
      Scan.forward, emit, Cursor.forward_one, bind, Except.bind]

theorem item (opens : Opens .blockSequenceStart column tokens indents opened outer)
    (blank : endsWord more.head? = true) (apart : more.head? ≠ some '-')
    (later : ∀ cursor : Cursor, cursor.rest = more → cursor.beyond = none →
      column < cursor.column →
      (between cursor (.blockEntry :: opened) (column :: outer) true).Yields whole) :
    LineYields (List.replicate column ' ' ++ '-' :: more) tokens indents whole := by
  intro cursor rest_eq bare column_eq
  have line : IsLine column cursor.rest :=
    .inr ⟨'-', more, rest_eq, by decide, by decide, by decide⟩
  obtain ⟨prepared, at_column⟩ := @prepare_first cursor tokens indents column line bare column_eq
    (head_le_of_opens opens)
  have dash_eq : (cursor.forward column).rest = '-' :: more := by
    rw [Cursor.rest_forward, rest_eq, List.drop_left' (by simp)]
  have next_column := @Cursor.column_forward (cursor.forward column) ['-'] more dash_eq
    (List.all_iff_forall_prop.mp (by decide))
  rw [at_column, List.length_singleton, Cursor.forward_one] at next_column
  have fetched := fetch_dash opens dash_eq at_column blank apart
  refine Yields.of_step (step_of_fetch prepared dash_eq fetched (by simp [between, bare])
    (dropStale_between _ _ _ _)) ?_ (later _ ?_ (by simp [bare]) (by omega))
  · change (cursor.forward column).next.rest.length < cursor.rest.length
    rw [Cursor.rest_next, dash_eq, rest_eq]
    simp only [List.tail_cons, List.length_append, List.length_cons]
    omega
  · rw [Cursor.rest_next, dash_eq, List.tail_cons]

end LineYields

end TypeCatalog.Yaml
