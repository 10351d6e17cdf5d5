import Mathlib.Algebra.Group.Nat.Defs
import Mathlib.Data.Bool.AllAny
import TypeCatalog.Proofs.DocumentTree
import TypeCatalog.Proofs.TextParts
import TypeCatalog.Yaml.Lexeme

/-!
# Reading written scalars

A scalar is written on one line, between quotation marks or plain.  Either way
the reader gives back the text and stops where the scalar ends: at the colon
of a key, or at the end of the line.
-/

namespace TypeCatalog.Yaml

open Text
open Document (isAnchorChar)

/-! ## Ways through a text -/

namespace Cursor

@[simp] theorem rest_next (cursor : Cursor) : cursor.next.rest = cursor.rest.tail := by
  unfold next
  split
  · simp [*]
  · split <;> simp [*]

@[simp] theorem beyond_next (cursor : Cursor) : cursor.next.beyond = cursor.beyond := by
  unfold next
  split
  · rfl
  · split <;> rfl

@[simp] theorem rest_forward (cursor : Cursor) (n : Nat) :
    (cursor.forward n).rest = cursor.rest.drop n := by
  induction n generalizing cursor with
  | zero => rfl
  | succ n ih => rw [forward, ih, rest_next, List.drop_tail]

@[simp] theorem beyond_forward (cursor : Cursor) (n : Nat) :
    (cursor.forward n).beyond = cursor.beyond := by
  induction n generalizing cursor with
  | zero => rfl
  | succ n ih => rw [forward, ih, beyond_next]

@[simp] theorem forward_zero (cursor : Cursor) : cursor.forward 0 = cursor :=
  rfl

theorem forward_one (cursor : Cursor) : cursor.forward 1 = cursor.next :=
  rfl

theorem forward_forward (cursor : Cursor) (m n : Nat) :
    (cursor.forward m).forward n = cursor.forward (m + n) := by
  induction m generalizing cursor with
  | zero => rw [Nat.zero_add, forward_zero]
  | succ m ih => rw [forward, ih, Nat.succ_add, forward]

theorem forward_next (cursor : Cursor) (n : Nat) :
    cursor.next.forward n = cursor.forward (n + 1) :=
  rfl

theorem forward_flat {cursor : Cursor} {part more : List Char} (rest_eq : cursor.rest = part ++ more)
    (flat : ∀ c ∈ part, isBreak c = false) :
    (cursor.forward part.length).line = cursor.line ∧
      (cursor.forward part.length).index = cursor.index + part.length ∧
      cursor.column ≤ (cursor.forward part.length).column := by
  induction part generalizing cursor with
  | nil => simp
  | cons c part ih =>
      have next_eq : cursor.next =
          { cursor with
            rest := part ++ more, index := cursor.index + 1
            column := if c == '\ufeff' then cursor.column else cursor.column + 1 } := by
        simp [next, rest_eq, flat c (by simp)]
      have rest_next : cursor.next.rest = part ++ more := by simp [rest_eq]
      obtain ⟨line_eq, index_eq, column_le⟩ := ih rest_next fun c mem => flat c (by simp [mem])
      rw [List.length_cons, ← forward_next]
      rw [next_eq] at line_eq index_eq column_le ⊢
      refine ⟨line_eq, index_eq.trans ?_, Nat.le_trans ?_ column_le⟩
      · dsimp only
        omega
      · dsimp only
        split <;> omega

theorem column_forward {cursor : Cursor} {part more : List Char}
    (rest_eq : cursor.rest = part ++ more)
    (flat : ∀ c ∈ part, isBreak c = false ∧ c ≠ '\ufeff') :
    (cursor.forward part.length).column = cursor.column + part.length := by
  induction part generalizing cursor with
  | nil => rfl
  | cons c part ih =>
      obtain ⟨same_line, shown⟩ := flat c (by simp)
      have rest_next : cursor.next.rest = part ++ more := by simp [rest_eq]
      have column_eq : cursor.next.column = cursor.column + 1 := by
        simp [next, rest_eq, same_line, shown]
      rw [List.length_cons, ← forward_next, ih rest_next fun c mem => flat c (by simp [mem]),
        column_eq]
      omega

theorem column_spaces {cursor : Cursor} {n : Nat} {more : List Char}
    (rest_eq : cursor.rest = List.replicate n ' ' ++ more) :
    (cursor.forward n).column = cursor.column + n := by
  have column_eq := column_forward rest_eq fun c mem => by
    rw [List.eq_of_mem_replicate mem]
    exact ⟨rfl, by decide⟩
  rwa [List.length_replicate] at column_eq

theorem lineBreak?_feed {cursor : Cursor} {more : List Char} (rest_eq : cursor.rest = '\n' :: more) :
    cursor.lineBreak? = some ('\n', cursor.next) := by
  simp [lineBreak?, rest_eq, isBreak]

theorem lineBreak?_flat {cursor : Cursor} {c : Char} {more : List Char}
    (rest_eq : cursor.rest = c :: more) (flat : isBreak c = false) : cursor.lineBreak? = none := by
  unfold lineBreak?
  rw [rest_eq]
  simp only [isBreak, Bool.or_eq_false_iff, beq_eq_false_iff_ne] at flat
  obtain ⟨⟨⟨⟨feed, back⟩, nextLine⟩, separator⟩, paragraph⟩ := flat
  split
  · rename_i same
    exact absurd (List.cons.inj same).1 back
  · rename_i same
    obtain ⟨rfl, rfl⟩ := List.cons.inj same
    simp [isBreak, *]
  · rfl

theorem lineBreak?_nil {cursor : Cursor} (rest_eq : cursor.rest = []) :
    cursor.lineBreak? = none := by
  simp [lineBreak?, rest_eq]

end Cursor

theorem exists_replicate_append {α : Type} [DecidableEq α] (a : α) (list : List α) :
    ∃ n others, list = List.replicate n a ++ others ∧ others.head? ≠ some a := by
  induction list with
  | nil => exact ⟨0, [], rfl, by simp⟩
  | cons b rest ih =>
      by_cases same : b = a
      · obtain ⟨n, others, rfl, proper⟩ := ih
        exact ⟨n + 1, others, by rw [same]; rfl, proper⟩
      · exact ⟨0, b :: rest, rfl, by simpa using same⟩

/-! ## Quoted scalars -/

section Quoted

open Document (Scalar)
open Document.Scalar (unicodeEscape isQuotedLiteral)

theorem hexValue?_hexDigit {n : Nat} (digit : n < 16) : hexValue? (hexDigit n) = some n := by
  decide +revert

theorem hexNumber?_snoc (digits : List Char) (c : Char) :
    hexNumber? (digits ++ [c]) = (hexNumber? digits).bind fun total =>
      (hexValue? c).map fun value => total * 16 + value := by
  rw [hexNumber?, List.foldl_append]
  change (do return (← hexNumber? digits) * 16 + (← hexValue? c)) = _
  rcases hexNumber? digits with _ | total <;> rcases hexValue? c with _ | value <;> rfl

theorem hexNumber?_hexDigits (width n : Nat) (small : n < 16 ^ width) :
    hexNumber? (hexDigits width n) = some n := by
  induction width generalizing n with
  | zero =>
      rw [Nat.pow_zero, Nat.lt_one_iff] at small
      subst small
      rfl
  | succ width ih =>
      have high : n / 16 < 16 ^ width := by
        rw [Nat.pow_succ] at small
        exact Nat.div_lt_of_lt_mul (by rwa [Nat.mul_comm])
      rw [hexDigits, hexNumber?_snoc, ih _ high, hexValue?_hexDigit (Nat.mod_lt n (by decide))]
      simp only [Option.bind_some, Option.map_some]
      rw [Nat.div_add_mod']

theorem length_hexDigits (width n : Nat) : (hexDigits width n).length = width := by
  induction width generalizing n with
  | zero => rfl
  | succ width ih => simp [hexDigits, ih]

theorem ofNat?_value (point : CodePoint) : CodePoint.ofNat? point.value = some point := by
  cases point with
  | scalar c =>
      have valid : c.toNat.isValidChar := c.valid
      simp [CodePoint.ofNat?, CodePoint.value, valid]
  | surrogate offset =>
      have invalid : ¬(0xd800 + offset.val).isValidChar := by
        have := offset.isLt
        simp only [Nat.isValidChar]
        omega
      have range : 0xd800 ≤ 0xd800 + offset.val ∧ 0xd800 + offset.val < 0xe000 := by
        have := offset.isLt
        omega
      simp [CodePoint.ofNat?, CodePoint.value, invalid, range]

def readOn (text : CodeText) (later : Except Fault (CodeText × Cursor)) :
    Except Fault (CodeText × Cursor) :=
  later.map fun read => (text ++ read.1, read.2)

variable {cursor : Cursor} {more : List Char} {fuel : Nat}

theorem quotedEscape_replaced {c : Char} {code : Nat} {point : CodePoint}
    (rest_eq : cursor.rest = c :: more) (found : replacements.lookup c = some code)
    (stands : CodePoint.ofNat? code = some point) :
    quotedEscape fuel cursor = .ok ([point], cursor.next) := by
  simp [quotedEscape, Cursor.peek, rest_eq, found, stands]

theorem quotedEscape_unicode {point : CodePoint} (small : point.value < 16 ^ 4)
    (rest_eq : cursor.rest = 'u' :: hexDigits 4 point.value ++ more) :
    quotedEscape fuel cursor = .ok ([point], cursor.forward 5) := by
  have digits_eq : cursor.next.rest.take 4 = hexDigits 4 point.value := by
    rw [Cursor.rest_next, rest_eq, List.cons_append, List.tail_cons]
    exact List.take_left' (length_hexDigits 4 point.value)
  have unlisted : replacements.lookup 'u' = none := rfl
  have width : escapeWidth? 'u' = some 4 := rfl
  simp only [quotedEscape, Cursor.peek, rest_eq, List.cons_append, List.head?_cons, unlisted, width,
    digits_eq, hexNumber?_hexDigits 4 _ small, length_hexDigits, ofNat?_value, Nat.lt_irrefl,
    ↓reduceIte]

theorem quotedFrom_escape {point : CodePoint} {width : Nat}
    (head : cursor.rest.head? = some '\\')
    (escape : quotedEscape fuel cursor.next = .ok ([point], cursor.forward width)) :
    quotedFrom true (fuel + 1) cursor =
      readOn [point] (quotedFrom true fuel (cursor.forward width)) := by
  obtain ⟨more, rest_eq⟩ := List.head?_eq_some_iff.mp head
  simp only [quotedFrom, rest_eq, escape]
  change (do
    let read ← quotedFrom true fuel (cursor.forward width)
    Except.ok ([point] ++ read.1, read.2)) = _
  rcases quotedFrom true fuel (cursor.forward width) with fault | read <;> rfl

theorem quotedFrom_literal {c : Char} (rest_eq : cursor.rest = c :: more) (quote : c ≠ '"')
    (slash : c ≠ '\\') (blank : c ≠ ' ') (tab : c ≠ '\t') (flat : isBreak c = false) :
    quotedFrom true (fuel + 1) cursor =
      readOn [.scalar c] (quotedFrom true fuel cursor.next) := by
  simp only [quotedFrom, rest_eq, Bool.not_true, Bool.and_false, Bool.false_eq_true, ↓reduceIte,
    Bool.and_true, beq_iff_eq, quote, slash, blank, tab, flat, Bool.or_false, Bool.or_eq_true,
    or_self]
  rcases quotedFrom true fuel cursor.next with fault | read <;> rfl

theorem quotedFrom_spaces {n : Nat} {c : Char}
    (rest_eq : cursor.rest = List.replicate (n + 1) ' ' ++ c :: more) (blank : c ≠ ' ')
    (tab : c ≠ '\t') (flat : isBreak c = false) :
    quotedFrom true (fuel + 1) cursor =
      readOn (List.replicate (n + 1) (.scalar ' '))
        (quotedFrom true fuel (cursor.forward (n + 1))) := by
  have blanks_eq : cursor.rest.takeWhile (fun c => c == ' ' || c == '\t') =
      List.replicate (n + 1) ' ' := by
    rw [rest_eq, List.takeWhile_append_of_pos (by simp)]
    simp [blank, tab]
  have after_eq : (cursor.forward (n + 1)).rest = c :: more := by
    simp [rest_eq]
  have gap : quotedGap fuel cursor =
      .ok (List.replicate (n + 1) ' ', cursor.forward (n + 1)) := by
    simp only [quotedGap, blanks_eq, List.length_replicate, Cursor.lineBreak?_flat after_eq flat]
  rw [List.replicate_succ, List.cons_append] at rest_eq
  simp only [quotedFrom, rest_eq, gap]
  change (do
    let read ← quotedFrom true fuel (cursor.forward (n + 1))
    Except.ok (CodeText.ofChars (List.replicate (n + 1) ' ') ++ read.1, read.2)) = _
  rw [CodeText.ofChars, List.map_replicate]
  rcases quotedFrom true fuel (cursor.forward (n + 1)) with fault | read <;> rfl

theorem quotedFrom_end (rest_eq : cursor.rest = '"' :: more) :
    quotedFrom true (fuel + 1) cursor = .ok ([], cursor.next) := by
  simp [quotedFrom, rest_eq]

/-- The code points that stand for themselves between quotation marks are not blank but for
the space. -/
theorem flat_of_isQuotedLiteral {c : Char} (literal : isQuotedLiteral c.toNat = true) :
    isBreak c = false ∧ c ≠ '\t' := by
  have outside (other : Char) (refused : isQuotedLiteral other.toNat = false) : c ≠ other := by
    rintro rfl
    rw [refused] at literal
    cases literal
  have feed := outside '\n' rfl
  have back := outside '\r' rfl
  have next_line := outside '\u0085' rfl
  have separator := outside '\u2028' rfl
  have paragraph := outside '\u2029' rfl
  exact ⟨by simp [isBreak, *], outside '\t' rfl⟩

theorem quotedPoint_cases (point : CodePoint) :
    (∃ letter, Scalar.quotedPoint point = ['\\', letter] ∧
        replacements.lookup letter = some point.value) ∨
      (Scalar.quotedPoint point = unicodeEscape point.value ∧ point.value < 16 ^ 4) ∨
      ∃ c, point = .scalar c ∧ Scalar.quotedPoint point = [c] ∧ c ≠ '"' ∧ c ≠ '\\' ∧
        isQuotedLiteral c.toNat = true := by
  cases point with
  | surrogate offset =>
      refine .inr (.inl ⟨rfl, ?_⟩)
      have := offset.isLt
      simp only [CodePoint.value]
      omega
  | scalar c =>
      have letter (code : Char) (c_eq : c = code) (mark : Char)
          (found : replacements.lookup mark = some code.toNat) :
          replacements.lookup mark = some (CodePoint.scalar c).value := by
        rw [c_eq, found]
        rfl
      have code_eq {code : Nat} (same : c.toNat = code) : c = Char.ofNat code := by
        rw [← same, Char.ofNat_toNat]
      simp only [Scalar.quotedPoint, Bool.or_eq_true, beq_iff_eq]
      split
      · rename_i quote
        rcases quote with rfl | rfl
        · exact .inl ⟨_, rfl, rfl⟩
        · exact .inl ⟨_, rfl, rfl⟩
      · rename_i bare
        obtain ⟨quote, slash⟩ := not_or.mp bare
        split
        · exact .inl ⟨'n', rfl, letter '\n' ‹_› 'n' rfl⟩
        · split
          · exact .inl ⟨'r', rfl, letter '\r' ‹_› 'r' rfl⟩
          · split
            · exact .inl ⟨'t', rfl, letter '\t' ‹_› 't' rfl⟩
            · split
              · exact .inl ⟨'f', rfl, letter _ (code_eq ‹_›) 'f' rfl⟩
              · split
                · exact .inl ⟨'b', rfl, letter _ (code_eq ‹_›) 'b' rfl⟩
                · split
                  · rename_i literal
                    exact .inr (.inr ⟨c, rfl, rfl, quote, slash, literal⟩)
                  · rename_i escaped
                    refine .inr (.inl ⟨rfl, ?_⟩)
                    have valid : c.toNat.isValidChar := c.valid
                    simp only [Nat.isValidChar] at valid
                    simp only [isQuotedLiteral, Bool.or_eq_true, Bool.and_eq_true,
                      decide_eq_true_eq] at escaped
                    simp only [CodePoint.value]
                    omega

theorem quotedFrom_point {point : CodePoint}
    (rest_eq : cursor.rest = Scalar.quotedPoint point ++ more) (proper : point ≠ .scalar ' ') :
    quotedFrom true (fuel + 1) cursor =
      readOn [point] (quotedFrom true fuel (cursor.forward (Scalar.quotedPoint point).length)) := by
  rcases quotedPoint_cases point with ⟨letter, written, found⟩ | ⟨written, small⟩ |
    ⟨c, rfl, written, quote, slash, literal⟩ <;> rw [written] at rest_eq ⊢
  · refine quotedFrom_escape (by simp [rest_eq]) ?_
    refine @quotedEscape_replaced _ more _ _ _ _ ?_ found (ofNat?_value point)
    simp [rest_eq]
  · have width : (unicodeEscape point.value).length = 6 := by
      simp [unicodeEscape, length_hexDigits]
    rw [width]
    refine quotedFrom_escape (by simp [rest_eq, unicodeEscape]) ?_
    refine @quotedEscape_unicode cursor.next more _ _ small ?_
    simp [rest_eq, unicodeEscape]
  · have blank : c ≠ ' ' := by
      rintro rfl
      exact proper rfl
    obtain ⟨flat, tab⟩ := flat_of_isQuotedLiteral literal
    exact quotedFrom_literal rest_eq quote slash blank tab flat

/-- The first character after a code point of a quoted text, or the closing quotation mark, is
not blank unless it is a space of the text. -/
theorem exists_cons_quoted (text : CodeText) (proper : text.head? ≠ some (.scalar ' ')) :
    ∃ c others, text.flatMap Scalar.quotedPoint ++ '"' :: more = c :: others ∧ c ≠ ' ' ∧
      c ≠ '\t' ∧ isBreak c = false := by
  rcases text with _ | ⟨point, rest⟩
  · exact ⟨'"', more, rfl, by decide, by decide, by decide⟩
  · rw [List.flatMap_cons]
    rcases quotedPoint_cases point with ⟨letter, written, -⟩ | ⟨written, -⟩ |
      ⟨c, rfl, written, -, -, literal⟩ <;> rw [written]
    · exact ⟨'\\', _, rfl, by decide, by decide, by decide⟩
    · exact ⟨'\\', _, rfl, by decide, by decide, by decide⟩
    · obtain ⟨flat, tab⟩ := flat_of_isQuotedLiteral literal
      refine ⟨c, _, rfl, ?_, tab, flat⟩
      rintro rfl
      exact proper rfl

theorem quotedPoint_ne_nil (point : CodePoint) : Scalar.quotedPoint point ≠ [] := by
  rcases quotedPoint_cases point with ⟨letter, written, -⟩ | ⟨written, -⟩ |
    ⟨c, -, written, -⟩ <;> simp [written, unicodeEscape]

theorem flatMap_quotedPoint_spaces (n : Nat) :
    (List.replicate n (CodePoint.scalar ' ')).flatMap Scalar.quotedPoint =
      List.replicate n ' ' := by
  have space : Scalar.quotedPoint (.scalar ' ') = [' '] := rfl
  induction n with
  | zero => rfl
  | succ n ih =>
      rw [List.replicate_succ, List.flatMap_cons, ih, space]
      rfl

theorem exists_first_read {text : CodeText} (shown : text ≠ [])
    (rest_eq : cursor.rest = text.flatMap Scalar.quotedPoint ++ '"' :: more) :
    ∃ first others, text = first ++ others ∧ 0 < (first.flatMap Scalar.quotedPoint).length ∧
      ∀ fuel, quotedFrom true (fuel + 1) cursor =
        readOn first
          (quotedFrom true fuel (cursor.forward (first.flatMap Scalar.quotedPoint).length)) := by
  obtain ⟨n, others, rfl, proper⟩ := exists_replicate_append (.scalar ' ') text
  rcases n with _ | n
  · rcases others with _ | ⟨point, others⟩
    · exact absurd rfl shown
    · refine ⟨[point], others, rfl, ?_, fun fuel => ?_⟩
      · simpa [List.length_pos_iff] using quotedPoint_ne_nil point
      · rw [List.flatMap_singleton]
        refine @quotedFrom_point cursor (others.flatMap Scalar.quotedPoint ++ '"' :: more) fuel
          point ?_ (by simpa using proper)
        rw [rest_eq, ← List.append_assoc]
        rfl
  · refine ⟨List.replicate (n + 1) (.scalar ' '), others, rfl, ?_, fun fuel => ?_⟩
    · rw [flatMap_quotedPoint_spaces]
      simp
    · obtain ⟨c, tail, tail_eq, blank, tab, flat⟩ := @exists_cons_quoted more others proper
      rw [List.flatMap_append, flatMap_quotedPoint_spaces, List.append_assoc, tail_eq] at rest_eq
      rw [flatMap_quotedPoint_spaces, List.length_replicate]
      exact quotedFrom_spaces rest_eq blank tab flat

theorem quotedFrom_text (text : CodeText)
    (rest_eq : cursor.rest = text.flatMap Scalar.quotedPoint ++ '"' :: more)
    (enough : (text.flatMap Scalar.quotedPoint).length < fuel) :
    quotedFrom true fuel cursor =
      .ok (text, cursor.forward ((text.flatMap Scalar.quotedPoint).length + 1)) := by
  -- spaces are read at once, so the induction is on the fuel and not on the text
  induction fuel generalizing text cursor with
  | zero => cases enough
  | succ fuel ih =>
      by_cases shown : text = []
      · subst shown
        exact quotedFrom_end rest_eq
      · obtain ⟨first, others, rfl, positive, read⟩ := exists_first_read shown rest_eq
        rw [List.flatMap_append, List.length_append] at enough
        have after_eq : (cursor.forward (first.flatMap Scalar.quotedPoint).length).rest =
            others.flatMap Scalar.quotedPoint ++ '"' :: more := by
          rw [Cursor.rest_forward, rest_eq, List.flatMap_append, List.append_assoc,
            List.drop_left]
        rw [read, ih others after_eq (by omega), readOn, Except.map, Cursor.forward_forward,
          List.flatMap_append, List.length_append, Nat.add_assoc]

theorem readQuoted_quoted (text : CodeText) (rest_eq : cursor.rest = Scalar.quoted text ++ more) :
    readQuoted true cursor = .ok (text, cursor.forward (Scalar.quoted text).length) := by
  have body_eq : cursor.next.rest = text.flatMap Scalar.quotedPoint ++ '"' :: more := by
    simp [rest_eq, Scalar.quoted]
  have enough : (text.flatMap Scalar.quotedPoint).length < cursor.rest.length := by
    rw [rest_eq]
    simp only [Scalar.quoted, List.length_append, List.length_cons]
    omega
  have length_eq : (Scalar.quoted text).length =
      (text.flatMap Scalar.quotedPoint).length + 1 + 1 := by
    simp [Scalar.quoted]
  rw [readQuoted, quotedFrom_text text body_eq enough, Cursor.forward_next, length_eq]

end Quoted

/-! ## Starts of lines -/

def IsLine (indent : Nat) (text : List Char) : Prop :=
  (text = [] ∧ indent = 0) ∨
    ∃ c more, text = List.replicate indent ' ' ++ c :: more ∧ c ≠ ' ' ∧ c ≠ '#' ∧
      isBreak c = false

def Unmarked (text : List Char) : Prop :=
  text.head? ≠ some '-' ∧ text.head? ≠ some '.'

section Line

variable {cursor : Cursor} {indent : Nat} {text : List Char}

theorem IsLine.takeWhile (line : IsLine indent text) :
    text.takeWhile (· == ' ') = List.replicate indent ' ' := by
  rcases line with ⟨rfl, rfl⟩ | ⟨c, more, rfl, blank, -⟩
  · rfl
  · rw [List.takeWhile_append_of_pos (by simp)]
    simp [blank]

theorem IsLine.skipWhile (line : IsLine indent cursor.rest) :
    cursor.skipWhile (· == ' ') = cursor.forward indent := by
  rw [Cursor.skipWhile, line.takeWhile, List.length_replicate]

theorem IsLine.lineBreak? (line : IsLine indent cursor.rest) :
    (cursor.forward indent).lineBreak? = none := by
  rcases line with ⟨rest_eq, rfl⟩ | ⟨c, more, rest_eq, -, -, flat⟩
  · exact Cursor.lineBreak?_nil rest_eq
  · refine @Cursor.lineBreak?_flat _ c more ?_ flat
    simp [rest_eq]

theorem IsLine.peek_ne (line : IsLine indent cursor.rest) :
    (cursor.forward indent).peek ≠ some '#' := by
  rcases line with ⟨rest_eq, rfl⟩ | ⟨c, more, rest_eq, -, comment, -⟩
  · simp [Cursor.peek, rest_eq]
  · simp [Cursor.peek, rest_eq, comment]

theorem isMark_of_head {mark : Char} (other : cursor.rest.head? ≠ some mark) :
    cursor.isMark mark = false := by
  rcases rest_eq : cursor.rest with _ | ⟨c, more⟩
  · simp [Cursor.isMark, rest_eq]
  · have : mark ≠ c := by
      rintro rfl
      simp [rest_eq] at other
    simp [Cursor.isMark, rest_eq, this]

theorem Unmarked.isDocumentMark (unmarked : Unmarked cursor.rest) :
    cursor.isDocumentMark = false := by
  rw [Cursor.isDocumentMark, isMark_of_head unmarked.1, isMark_of_head unmarked.2]
  rfl

end Line

/-! ## Plain scalars -/

section Plain

structure PlainBody (text : List Char) : Prop where
  chars : ∀ c ∈ text, c ≠ '\t' ∧ c ≠ '#' ∧ c ≠ '\ufeff' ∧ isBreak c = false
  colons : hasInfix [':', ' '] text = false
  last : ∀ c, text.getLast? = some c → c ≠ ':' ∧ c ≠ ' '

theorem PlainBody.of_append {first text : List Char} (body : PlainBody (first ++ text)) :
    PlainBody text where
  chars c mem := body.chars c (by simp [mem])
  colons := by
    rw [Bool.eq_false_iff]
    intro found
    have whole := hasInfix_iff.mpr ((hasInfix_iff.mp found).trans
      (List.suffix_append first text).isInfix)
    rw [body.colons] at whole
    cases whole
  last c ends := body.last c (by simp [List.getLast?_append, ends])

def EndsPlain (more : List Char) : Prop :=
  ∀ c others, more = c :: others → endsPlain false c others.head? = true

theorem plainRun_word {word others more : List Char} (body : PlainBody (word ++ others))
    (solid : ∀ c ∈ word, c ≠ ' ') (gap : others = [] ∨ others.head? = some ' ')
    (ends : EndsPlain more) : plainRun false (word ++ others ++ more) = word := by
  induction word with
  | nil =>
      rcases gap with rfl | gap
      · rcases more with _ | ⟨c, tail⟩
        · rfl
        · simp [plainRun, ends c tail rfl]
      · obtain ⟨tail, rfl⟩ := List.head?_eq_some_iff.mp gap
        simp [plainRun, endsPlain, endsWord]
  | cons c word ih =>
      have inner : PlainBody (word ++ others) :=
        @PlainBody.of_append [c] _ (by simpa using body)
      have rest_eq := ih inner fun d mem => solid d (by simp [mem])
      obtain ⟨tab, -, -, flat⟩ := body.chars c (by simp)
      have goes : endsPlain false c (word ++ others ++ more).head? = false := by
        by_cases colon : c = ':'
        · subst colon
          rcases after : word ++ others with _ | ⟨d, tail⟩
          · have alone : (':' :: word ++ others).getLast? = some ':' := by
              rw [List.cons_append, after]
              rfl
            exact absurd rfl (body.last ':' alone).1
          · obtain ⟨dTab, -, -, dFlat⟩ := inner.chars d (by simp [after])
            have dBlank : d ≠ ' ' := by
              rintro rfl
              have := body.colons
              rw [List.cons_append, after] at this
              simp [hasInfix] at this
            simp [endsPlain, endsWord, flat, dTab, dFlat, dBlank]
        · simp [endsPlain, endsWord, colon, tab, flat, solid c (by simp)]
      rw [List.cons_append, List.cons_append, plainRun, goes, rest_eq]
      rfl

theorem PlainBody.exists_word {text : List Char} (body : PlainBody text) :
    ∃ word, (∀ c ∈ word, c ≠ ' ') ∧
      (text = word ∨
        ∃ n others, text = word ++ (List.replicate (n + 1) ' ' ++ others) ∧ others ≠ [] ∧
          others.head? ≠ some ' ') := by
  induction text with
  | nil => exact ⟨[], by simp, .inl rfl⟩
  | cons c rest ih =>
      by_cases space : c = ' '
      · obtain ⟨n, others, split, proper⟩ := exists_replicate_append ' ' (c :: rest)
        rcases n with _ | n
        · rw [List.replicate_zero, List.nil_append] at split
          exact absurd (by simp [← split, space]) proper
        · refine ⟨[], by simp, .inr ⟨n, others, split, ?_, proper⟩⟩
          rintro rfl
          have ends : (c :: rest).getLast? = some ' ' := by
            rw [split, List.append_nil, List.getLast?_replicate]
            rfl
          exact absurd rfl (body.last ' ' ends).2
      · obtain ⟨word, solid, split⟩ := ih (@PlainBody.of_append [c] _ body)
        refine ⟨c :: word, by simpa using ⟨space, solid⟩, ?_⟩
        rcases split with rfl | ⟨n, others, rfl, shown, proper⟩
        · exact .inl rfl
        · exact .inr ⟨n, others, rfl, shown, proper⟩

theorem plainGap_spaces {cursor : Cursor} {n fuel : Nat} {others more : List Char}
    (rest_eq : cursor.rest = List.replicate (n + 1) ' ' ++ (others ++ more)) (shown : others ≠ [])
    (proper : others.head? ≠ some ' ') (flat : ∀ c ∈ others, isBreak c = false) :
    plainGap fuel cursor = ⟨List.replicate (n + 1) ' ', cursor.forward (n + 1), false⟩ := by
  obtain ⟨c, others, rfl⟩ := List.exists_cons_of_ne_nil shown
  have blanks_eq : cursor.rest.takeWhile (· == ' ') = List.replicate (n + 1) ' ' := by
    rw [rest_eq, List.takeWhile_append_of_pos (by simp)]
    have : c ≠ ' ' := by simpa using proper
    simp [this]
  have after_eq : (cursor.forward (n + 1)).rest = c :: (others ++ more) := by simp [rest_eq]
  simp only [plainGap, blanks_eq, List.length_replicate,
    Cursor.lineBreak?_flat after_eq (flat c (by simp))]

theorem plainFrom_last {limit fuel : Nat} {gap stop : PlainGap} {word : List Char}
    (run_eq : plainRun false gap.cursor.rest = word) (started : word ≠ [])
    (first : gap.cursor.peek ≠ some '#')
    (stops : plainGap fuel (gap.cursor.forward word.length) = stop)
    (outside : stop.text = [] ∨ stop.cursor.column < limit) :
    plainFrom false limit (fuel + 1) gap = (gap.text ++ word, stop.cursor, stop.newLine) := by
  have closes : (stop.text.isEmpty || (!false && decide (stop.cursor.column < limit))) = true := by
    rcases outside with empty | left
    · simp [empty]
    · simp [left]
  rw [plainFrom]
  simp only [run_eq, stops, closes, ↓reduceIte]
  simp [started, first]

theorem plainFrom_word {limit fuel : Nat} {gap next : PlainGap} {word text : List Char}
    {after : Cursor × Bool} (run_eq : plainRun false gap.cursor.rest = word) (started : word ≠ [])
    (first : gap.cursor.peek ≠ some '#')
    (next_eq : plainGap fuel (gap.cursor.forward word.length) = next) (wide : next.text ≠ [])
    (inside : ¬next.cursor.column < limit)
    (later : plainFrom false limit fuel next = (text, after)) :
    plainFrom false limit (fuel + 1) gap = (gap.text ++ word ++ text, after) := by
  rw [plainFrom]
  simp only [run_eq, next_eq, inside, later]
  simp [started, first, wide]

theorem plainFrom_text {limit fuel : Nat} {gap stop : PlainGap} {text more : List Char}
    (body : PlainBody text) (shown : text ≠ []) (proper : text.head? ≠ some ' ')
    (rest_eq : gap.cursor.rest = text ++ more) (ends : EndsPlain more)
    (inside : limit ≤ gap.cursor.column + 1)
    (stops : ∀ fuel, more.length ≤ fuel → plainGap fuel (gap.cursor.forward text.length) = stop)
    (outside : stop.text = [] ∨ stop.cursor.column < limit)
    (enough : text.length + more.length ≤ fuel) :
    plainFrom false limit fuel gap = (gap.text ++ text, stop.cursor, stop.newLine) := by
  -- fuel bounds the characters that are left, and each step reads a word of at least one
  induction fuel generalizing gap text with
  | zero =>
      have := List.length_pos_iff.mpr shown
      omega
  | succ fuel ih =>
      obtain ⟨word, solid, split⟩ := body.exists_word
      have started : word ≠ [] := by
        rintro rfl
        rcases split with rfl | ⟨n, others, rfl, -, -⟩
        · exact shown rfl
        · simp [List.replicate_succ] at proper
      have first : gap.cursor.peek ≠ some '#' := by
        obtain ⟨c, others, rfl⟩ := List.exists_cons_of_ne_nil shown
        simpa [Cursor.peek, rest_eq] using (body.chars c (by simp)).2.1
      have word_length := List.length_pos_iff.mpr started
      rcases split with rfl | ⟨n, others, rfl, more_shown, more_proper⟩
      · have run_eq := plainRun_word (by simpa using body) solid (.inl rfl) ends
        rw [List.append_nil, ← rest_eq] at run_eq
        exact plainFrom_last run_eq started first (stops fuel (by omega)) outside
      · have run_eq : plainRun false gap.cursor.rest = word := by
          rw [rest_eq]
          exact plainRun_word body solid (.inr rfl) ends
        have spaces_eq : (gap.cursor.forward word.length).rest =
            List.replicate (n + 1) ' ' ++ (others ++ more) := by
          rw [Cursor.rest_forward, rest_eq, List.append_assoc, List.append_assoc, List.drop_left]
        have next_eq : plainGap fuel (gap.cursor.forward word.length) =
            ⟨List.replicate (n + 1) ' ', gap.cursor.forward (word.length + (n + 1)), false⟩ := by
          rw [plainGap_spaces spaces_eq more_shown more_proper fun c mem =>
            (body.chars c (by simp [mem])).2.2.2, Cursor.forward_forward]
        rw [← List.append_assoc] at body rest_eq
        have width : (word ++ List.replicate (n + 1) ' ').length = word.length + (n + 1) := by
          simp
        have column_eq : (gap.cursor.forward (word.length + (n + 1))).column =
            gap.cursor.column + (word.length + (n + 1)) := by
          rw [List.append_assoc] at rest_eq
          have := Cursor.column_forward rest_eq fun c mem =>
            (body.chars c (List.mem_append_left _ mem)).2.2.symm
          rwa [width] at this
        have length_eq : (word ++ (List.replicate (n + 1) ' ' ++ others)).length =
            word.length + (n + 1) + others.length := by
          rw [← List.append_assoc, List.length_append, width]
        rw [length_eq] at enough stops
        have later : plainFrom false limit fuel
            ⟨List.replicate (n + 1) ' ', gap.cursor.forward (word.length + (n + 1)), false⟩ =
              (List.replicate (n + 1) ' ' ++ others, stop.cursor, stop.newLine) := by
          refine ih body.of_append more_shown more_proper ?_ (by rw [column_eq]; omega) ?_ (by omega)
          · rw [Cursor.rest_forward, rest_eq, ← width, List.append_assoc, List.drop_left]
          · intro fuel enough
            rw [Cursor.forward_forward]
            exact stops fuel enough
        refine (plainFrom_word run_eq started first next_eq (by simp) ?_ later).trans ?_
        · rw [column_eq]
          omega
        · rw [List.append_assoc]

theorem readPlain_text {limit : Nat} {cursor : Cursor} {stop : PlainGap} {text more : List Char}
    (body : PlainBody text) (shown : text ≠ []) (proper : text.head? ≠ some ' ')
    (rest_eq : cursor.rest = text ++ more) (ends : EndsPlain more)
    (inside : limit ≤ cursor.column + 1)
    (stops : ∀ fuel, more.length ≤ fuel → plainGap fuel (cursor.forward text.length) = stop)
    (outside : stop.text = [] ∨ stop.cursor.column < limit) :
    readPlain false limit cursor = (text, stop.cursor, stop.newLine) := by
  have enough : text.length + more.length ≤ cursor.rest.length := by
    simp [rest_eq]
  exact @plainFrom_text limit _ ⟨[], cursor, false⟩ stop text more body shown proper rest_eq ends
    inside stops outside enough

/-- There is no gap before a character that is neither a space nor ends a line, and none at the
end of the text. -/
theorem plainGap_none {cursor : Cursor}
    (solid : ∀ c, cursor.rest.head? = some c → c ≠ ' ' ∧ isBreak c = false) (fuel : Nat) :
    plainGap fuel cursor = ⟨[], cursor, false⟩ := by
  rcases rest_eq : cursor.rest with _ | ⟨c, more⟩
  · simp [plainGap, rest_eq, Cursor.lineBreak?_nil]
  · obtain ⟨blank, flat⟩ := solid c (by rw [rest_eq, List.head?_cons])
    simp [plainGap, rest_eq, blank, Cursor.lineBreak?_flat rest_eq flat]

theorem plainGap_line {cursor : Cursor} {indent : Nat} {text : List Char}
    (rest_eq : cursor.rest = '\n' :: text) (line : IsLine indent text) (unmarked : Unmarked text)
    (fuel : Nat) : plainGap (fuel + 1) cursor = ⟨[' '], cursor.forward (indent + 1), true⟩ := by
  have blanks_eq : cursor.rest.takeWhile (· == ' ') = [] := by simp [rest_eq]
  have line : IsLine indent cursor.next.rest := by simpa [rest_eq] using line
  have unmarked : Unmarked cursor.next.rest := by simpa [rest_eq] using unmarked
  have breaks_eq : plainBreaks (fuel + 1) cursor.next = (some [], cursor.next.forward indent) := by
    rw [plainBreaks]
    simp only [unmarked.isDocumentMark, Bool.false_eq_true, ↓reduceIte, line.skipWhile,
      line.lineBreak?]
  simp only [plainGap, blanks_eq, List.length_nil, Cursor.forward_zero,
    Cursor.lineBreak?_feed rest_eq, breaks_eq, Cursor.forward_next]
  rfl

end Plain

/-! ## Names and tags -/

section Properties

variable {cursor : Cursor} {more : List Char}

theorem readName_anchor {mark : Char} {name : List Char} (shown : name ≠ [])
    (all : ∀ c ∈ name, isAnchorChar c = true) (ends : endsName more.head? = true)
    (stops : more.head?.all (!isNameChar ·) = true)
    (rest_eq : cursor.rest = mark :: name ++ more) :
    readName cursor = .ok (String.ofList name, cursor.forward (name.length + 1)) := by
  have same (c : Char) : isNameChar c = isAnchorChar c := by
    simp only [isNameChar, isAnchorChar, Bool.or_assoc, Bool.or_comm (c == '-')]
  have name_eq : cursor.next.rest.takeWhile isNameChar = name := by
    rw [Cursor.rest_next, rest_eq, List.cons_append, List.tail_cons,
      List.takeWhile_append_of_pos (by simpa [same] using all)]
    rcases more with _ | ⟨c, more⟩
    · simp
    · have : isNameChar c = false := by simpa using stops
      simp [this]
  have after_eq : (cursor.next.forward name.length).peek = more.head? := by
    simp [Cursor.peek, rest_eq]
  simp only [readName, name_eq, after_eq, ends]
  rw [if_neg (by simp [shown]), Cursor.forward_next]

def kindTag (kind : Document.Kind) : WrittenTag :=
  ⟨some "!", "compex/" ++ kind.name⟩

theorem tagText_plain {text : List Char} (plain : ∀ c ∈ text, c ≠ '%') :
    tagText text.length text = some text := by
  induction text with
  | nil => rfl
  | cons c rest ih =>
      have first : c ≠ '%' := plain c (by simp)
      simp [tagText, first, ih fun d mem => plain d (by simp [mem])]

theorem takeWhile_line {p : Char → Bool} {part : List Char} (all : ∀ c ∈ part, p c = true)
    (stops : p '\n' = false) : (part ++ '\n' :: more).takeWhile p = part := by
  rw [List.takeWhile_append_of_pos all]
  simp [stops]

theorem readTagText_line {part : List Char} (shown : part ≠ [])
    (all : ∀ c ∈ part, isTagChar c = true) (plain : ∀ c ∈ part, c ≠ '%')
    (rest_eq : cursor.rest = part ++ '\n' :: more) :
    readTagText cursor = .ok (String.ofList part, cursor.forward part.length) := by
  have raw_eq : cursor.rest.takeWhile isTagChar = part := by
    rw [rest_eq]
    exact takeWhile_line all (by decide)
  simp [readTagText, raw_eq, tagText_plain plain, shown]

theorem readTag_kind (kind : Document.Kind)
    (rest_eq : cursor.rest = Document.propertyText kind none ++ '\n' :: more) :
    readTag cursor =
      .ok (kindTag kind, cursor.forward (Document.propertyText kind none).length) := by
  obtain ⟨part, text_eq, suffix_eq, first, chars⟩ : ∃ part : List Char,
      Document.propertyText kind none = '!' :: part ∧ (kindTag kind).suffix = String.ofList part ∧
        part.head? = some 'c' ∧
        ∀ c ∈ part, isTagChar c = true ∧ c ≠ '%' ∧ c ≠ '!' ∧ (c != ' ' && !isBreak c) = true := by
    refine ⟨("compex/" ++ kind.name).toList, ?_⟩
    cases kind <;> exact ⟨rfl, rfl, rfl, List.all_iff_forall_prop.mp (by decide)⟩
  have shown : part ≠ [] := by
    rintro rfl
    cases first
  obtain ⟨others, rfl⟩ := List.head?_eq_some_iff.mp first
  rw [text_eq] at rest_eq ⊢
  have start : cursor.next.rest = ('c' :: others) ++ '\n' :: more := by
    simp [rest_eq]
  have no_handle : (cursor.next.rest.takeWhile fun c => c != ' ' && !isBreak c).contains '!' =
      false := by
    rw [start, takeWhile_line (fun c mem => (chars c mem).2.2.2) (by decide), Bool.eq_false_iff]
    intro found
    exact (chars '!' (List.contains_iff_mem.mp found)).2.2.1 rfl
  have suffix := readTagText_line shown (fun c mem => (chars c mem).1)
    (fun c mem => (chars c mem).2.1) start
  have word : endsWord cursor.next.peek = false := by
    rw [Cursor.peek, start]
    rfl
  have body : readTagBody cursor =
      .ok (kindTag kind, cursor.next.forward ('c' :: others).length) := by
    rw [readTagBody]
    simp only [rest_eq, List.cons_append]
    rw [word]
    simp only [Bool.false_eq_true, ↓reduceIte, no_handle]
    change (readTagText cursor.next >>= fun read =>
      Except.ok ((⟨some "!", read.1⟩ : WrittenTag), read.2)) = _
    rw [suffix, ← suffix_eq]
    rfl
  have ending : endsPart (cursor.next.forward ('c' :: others).length).peek = true := by
    rw [Cursor.peek, Cursor.rest_forward, start, List.drop_left]
    rfl
  rw [readTag, body]
  change (if endsPart _ = true then _ else _) = _
  rw [if_pos ending]
  rfl

end Properties

end TypeCatalog.Yaml
