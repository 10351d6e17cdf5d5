import TypeCatalog.Proofs.CanonicalName
import TypeCatalog.Proofs.LexemeReading
import TypeCatalog.Yaml.Scalar

/-!
# Values of written scalars

What a scalar of a document is written with has the form of its own type, so
it reads as the value it was written for: a plain text as a text, a numeral as
an integer.
-/

namespace TypeCatalog.Yaml

open Text
open Document (Scalar)
open Document.Scalar (isPlain isPlainStart)

/-! ## Plain texts -/

theorem flat_of_isPrintable {c : Char} (printable : isPrintable c = true) :
    c ≠ '\ufeff' ∧ isBreak c = false := by
  have outside (other : Char) (refused : isPrintable other = false) : c ≠ other := by
    rintro rfl
    rw [refused] at printable
    cases printable
  have feed := outside '\n' rfl
  have back := outside '\r' rfl
  have next_line := outside '\u0085' (by decide +kernel)
  have separator := outside '\u2028' (by decide +kernel)
  have paragraph := outside '\u2029' (by decide +kernel)
  exact ⟨outside '\ufeff' (by decide +kernel), by simp [isBreak, *]⟩

theorem isAllowed_of_isPrintable {c : Char} (printable : isPrintable c = true) :
    isAllowed c = true := by
  rw [isPrintable] at printable
  split at printable
  · rw [decide_eq_true_eq] at printable
    simp only [isAllowed, Bool.or_eq_true, Bool.and_eq_true, beq_iff_eq, decide_eq_true_eq]
    omega
  · rw [Bool.not_eq_true', CodeRange.member, List.any_eq_false] at printable
    have outside (range : CodeRange) (listed : unprintableRanges.contains range = true) :
        ¬(range.1 ≤ c.toNat ∧ c.toNat ≤ range.2) := by
      simpa using printable range (List.contains_iff_mem.mp listed)
    have controls := outside (0x7f, 0xa0) rfl
    have last := outside (0xfffe, 0xffff) (by decide +kernel)
    simp only [isAllowed, Bool.or_eq_true, Bool.and_eq_true, beq_iff_eq, decide_eq_true_eq]
    simp only at controls last
    omega

theorem isPlain_cons {text : List Char} (plain : isPlain text = true) :
    ∃ first rest, text = first :: rest ∧ isPlainStart first = true ∧
      (Document.Scalar.reservedWords.map (·.toList)).contains (text.map Char.toLower) = false ∧
      (∀ c ∈ text, Document.Scalar.isPlainUnsafe c = false ∧ isPrintable c = true) ∧
      hasInfix [':', ' '] text = false ∧
      ∀ c, text.getLast? = some c → c ≠ ':' ∧ isBlank c = false := by
  rcases text with _ | ⟨first, rest⟩
  · cases plain
  · simp only [isPlain, Bool.and_eq_true, Bool.not_eq_true', bne_iff_ne] at plain
    obtain ⟨⟨⟨⟨⟨⟨⟨start, reserved⟩, last⟩, colon⟩, key⟩, -⟩, safe⟩, printable⟩ := plain
    refine ⟨first, rest, rfl, start, reserved, fun c mem => ⟨?_, ?_⟩, key, fun c ends => ⟨?_, ?_⟩⟩
    · rw [List.any_eq_false] at safe
      simpa using safe c mem
    · exact List.all_eq_true.mp printable c mem
    · rintro rfl
      exact colon ends
    · simpa [ends] using last

theorem PlainBody.of_isPlain {text : List Char} (plain : isPlain text = true) :
    PlainBody text := by
  obtain ⟨first, rest, -, -, -, chars, key, last⟩ := isPlain_cons plain
  refine ⟨fun c mem => ?_, key, fun c ends => ⟨(last c ends).1, ?_⟩⟩
  · obtain ⟨safe, printable⟩ := chars c mem
    have outside (other : Char) (refused : Document.Scalar.isPlainUnsafe other = true) :
        c ≠ other := by
      rintro rfl
      rw [refused] at safe
      cases safe
    exact ⟨outside '\t' rfl, outside '#' rfl, flat_of_isPrintable printable⟩
  · rintro rfl
    have := (last ' ' ends).2
    cases this

/-! ## Digits -/

theorem exists_digitChar_eq {c : Char} (digit : c.isDigit = true) :
    ∃ d : Fin 10, c = Nat.digitChar d := by
  obtain ⟨low, high⟩ : 48 ≤ c.toNat ∧ c.toNat ≤ 57 := Char.isDigit_iff_toNat.mp digit
  have same : ∀ d : Fin 10, Char.ofNat (48 + d) = Nat.digitChar d := by decide
  refine ⟨⟨c.toNat - 48, by omega⟩, ?_⟩
  rw [← same]
  dsimp only
  rw [Nat.add_sub_cancel' low, Char.ofNat_toNat]

theorem digit_forall {p : Char → Prop} (all : ∀ d : Fin 10, p (Nat.digitChar d)) {c : Char}
    (digit : c.isDigit = true) : p c := by
  obtain ⟨d, rfl⟩ := exists_digitChar_eq digit
  exact all d

/-! ## Forms of plain texts -/

theorem ne_of_isPlainStart {c : Char} (start : isPlainStart c = true) (other : Char)
    (refused : isPlainStart other = false) : c ≠ other := by
  rintro rfl
  rw [refused] at start
  cases start

theorem isDigit_of_isPlainStart {c : Char} (start : isPlainStart c = true) :
    c.isDigit = false := by
  rw [Bool.eq_false_iff]
  intro digit
  have refused : isPlainStart c = false :=
    digit_forall (p := (isPlainStart · = false)) (by decide) digit
  rw [refused] at start
  cases start

theorem splitOn_cons {separator c : Char} (other : c ≠ separator) (rest : List Char) :
    ∃ piece others, splitOn separator (c :: rest) = (c :: piece) :: others := by
  simp only [splitOn, splitBy, beq_iff_eq, other, ↓reduceIte]
  rcases splitBy (· == separator) rest with _ | ⟨piece, others⟩
  · exact ⟨[], [], rfl⟩
  · exact ⟨piece, others, rfl⟩

theorem contains_of_head {p : Char → Bool} {first : Char} (start : p first = true)
    {words : List String} (refused : ∀ word ∈ words, word.toList.head?.all (!p ·) = true)
    (rest : List Char) : words.contains (String.ofList (first :: rest)) = false := by
  rw [Bool.eq_false_iff]
  intro found
  have := refused _ (List.contains_iff_mem.mp found)
  rw [String.toList_ofList, List.head?_cons, Option.all_some, start] at this
  cases this

section Forms

variable {first : Char} {rest : List Char}

theorem splitSign_of_isPlainStart (start : isPlainStart first = true) :
    Integer.splitSign (first :: rest) = (false, first :: rest) := by
  have minus := ne_of_isPlainStart start '-' rfl
  have plus := ne_of_isPlainStart start '+' rfl
  unfold Integer.splitSign
  split <;> simp_all

theorem isDecimalForm_of_isPlainStart (start : isPlainStart first = true) :
    isDecimalForm (first :: rest) = false := by
  have dot := ne_of_isPlainStart start '.' rfl
  obtain ⟨piece, others, pieces_eq⟩ :=
    splitOn_cons (ne_of_isPlainStart start ':' rfl) (rest.takeWhile (!· == '.'))
  have digit := isDigit_of_isPlainStart start
  simp only [isDecimalForm, splitSign_of_isPlainStart start, splitBefore]
  have whole_eq : (first :: rest).takeWhile (!· == '.') =
      first :: rest.takeWhile (!· == '.') := by
    simp [dot]
  simp only [whole_eq, pieces_eq]
  rcases others with _ | ⟨other, others⟩ <;> simp [isDigitRun, digit]

theorem isIntegerForm_of_isPlainStart (start : isPlainStart first = true) :
    isIntegerForm (first :: rest) = false := by
  have zero := ne_of_isPlainStart start '0' rfl
  obtain ⟨piece, others, pieces_eq⟩ := splitOn_cons (ne_of_isPlainStart start ':' rfl) rest
  have digit : ('1' ≤ first && first ≤ '9') = false := by
    rw [Bool.eq_false_iff]
    intro inside
    simp only [Bool.and_eq_true, decide_eq_true_eq, Char.le_def, UInt32.le_iff_toNat_le] at inside
    have is_digit : first.isDigit = true :=
      Char.isDigit_iff_toNat.mpr ⟨Nat.le_trans (by decide) inside.1, inside.2⟩
    rw [isDigit_of_isPlainStart start] at is_digit
    cases is_digit
  unfold isIntegerForm
  split
  · simp_all
  · simp_all
  · simp_all
  · simp_all
  · simp [pieces_eq, isDigitRun, digit]

theorem isTimeForm_of_isPlainStart (start : isPlainStart first = true) :
    isTimeForm (first :: rest) = false := by
  have year : digits? 4 4 (first :: rest) = none := by
    simp [digits?, isDigit_of_isPlainStart start]
  have unread : WrittenTime.ofChars? (first :: rest) = none := by
    simp [WrittenTime.ofChars?, readDate?, year]
  rw [isTimeForm, unread]

theorem plainType_of_isPlain {text : List Char} (plain : isPlain text = true) :
    plainType text = .str := by
  have body := PlainBody.of_isPlain plain
  obtain ⟨first, rest, rfl, start, reserved, -⟩ := isPlain_cons plain
  have whole : withoutFinalBreak (first :: rest) = first :: rest := by
    rw [withoutFinalBreak, if_neg]
    intro ends
    have mem := List.mem_of_getLast? (beq_iff_eq.mp ends)
    have := (body.chars '\n' mem).2.2.2
    cases this
  have outside {words : List String}
      (listed : ∀ word ∈ words, (Document.Scalar.reservedWords.map (·.toList)).contains
        (word.toList.map Char.toLower) = true) :
      words.contains (String.ofList (first :: rest)) = false := by
    rw [Bool.eq_false_iff]
    intro found
    have := listed _ (List.contains_iff_mem.mp found)
    rw [String.toList_ofList, reserved] at this
    cases this
  have truth : truthWords.contains (String.ofList (first :: rest)) = false :=
    outside (by decide)
  have null : nullWords.contains (String.ofList (first :: rest)) = false := by
    rw [nullWords, List.contains_cons]
    have proper : (String.ofList (first :: rest) == "") = false := by
      rw [beq_eq_false_iff_ne]
      intro same
      have := congrArg String.toList same
      rw [String.toList_ofList] at this
      cases this
    rw [proper, Bool.false_or]
    exact outside (by decide)
  have marks (word : String) (refused : word.toList.head?.all (!isPlainStart ·) = true) :
      (String.ofList (first :: rest) == word) = false := by
    have := @contains_of_head _ first start [word] (by simpa using refused) rest
    simpa using this
  have real : isRealForm (first :: rest) = false := by
    rw [isRealForm, isDecimalForm_of_isPlainStart start, splitSign_of_isPlainStart start,
      contains_of_head start (by decide), contains_of_head start (by decide)]
    rfl
  have integer : isIntegerForm (Integer.splitSign (first :: rest)).2 = false := by
    rw [splitSign_of_isPlainStart start]
    exact isIntegerForm_of_isPlainStart start
  have yaml : ["!", "&", "*"].contains (String.ofList (first :: rest)) = false :=
    contains_of_head start (by decide) rest
  simp only [plainType, whole, truth, null, real, integer, yaml, isTimeForm_of_isPlainStart start,
    marks "<<" rfl, marks "=" rfl, List.isEmpty_cons, Bool.and_false,
    Bool.or_false, Bool.false_eq_true, ↓reduceIte]

end Forms

/-! ## Numerals -/

theorem exists_toDigits_eq {n : Nat} (positive : 0 < n) :
    ∃ first rest, Nat.toDigits 10 n = first :: rest ∧ '1' ≤ first ∧ first ≤ '9' := by
  induction n using Nat.strongRecOn with
  | ind n ih =>
      by_cases small : n < 10
      · refine ⟨n.digitChar, [], Nat.toDigits_of_lt_base small, ?_⟩
        have digits : ∀ d : Fin 10, 0 < d.val → '1' ≤ Nat.digitChar d ∧ Nat.digitChar d ≤ '9' := by
          decide
        exact digits ⟨n, small⟩ positive
      · obtain ⟨first, rest, high_eq, leading⟩ := ih (n / 10) (by omega) (by omega)
        refine ⟨first, rest ++ [(n % 10).digitChar], ?_, leading⟩
        rw [Nat.toDigits_of_base_le (by decide) (by omega), high_eq]
        rfl

theorem isDigit_toDigits {n : Nat} {c : Char} (mem : c ∈ Nat.toDigits 10 n) : c.isDigit = true :=
  Nat.isDigit_of_mem_toDigits (by decide) (by decide) mem

theorem splitOn_of_notMem {separator : Char} {text : List Char}
    (absent : ∀ c ∈ text, c ≠ separator) : splitOn separator text = [text] := by
  rw [splitOn, splitBy_eq]
  exact List.splitOnP_eq_singleton fun c mem => beq_eq_false_iff_ne.mpr (absent c mem)

theorem isIntegerForm_toDigits (n : Nat) : isIntegerForm (Nat.toDigits 10 n) = true := by
  rcases Nat.eq_zero_or_pos n with rfl | positive
  · rfl
  · obtain ⟨first, rest, digits_eq, low, high⟩ := exists_toDigits_eq positive
    have zero : first ≠ '0' := by
      rintro rfl
      exact absurd low (by decide)
    have digits : ∀ c ∈ first :: rest, c ≠ ':' ∧ isDigitOrLine c = true := by
      intro c mem
      rw [← digits_eq] at mem
      exact digit_forall (p := fun c => c ≠ ':' ∧ isDigitOrLine c = true) (by decide)
        (isDigit_toDigits mem)
    have pieces := splitOn_of_notMem fun c mem => (digits c mem).1
    have others : rest.all isDigitOrLine = true :=
      List.all_eq_true.mpr fun c mem => (digits c (by simp [mem])).2
    rw [digits_eq]
    unfold isIntegerForm
    split
    · simp_all
    · simp_all
    · rfl
    · simp_all
    · simp [pieces, isDigitRun, low, high, others]

theorem digitRun_digits {digits : List Char} (all : ∀ c ∈ digits, c.isDigit = true) :
    ∃ values, Integer.digitRun 10 false digits = some (values, []) ∧
      values.length = digits.length ∧
      ∀ total, values.foldl (fun total d => total * 10 + d) total =
        Nat.ofDigitChars 10 digits total := by
  induction digits with
  | nil => exact ⟨[], rfl, rfl, fun total => by simp⟩
  | cons c rest ih =>
      obtain ⟨values, run_eq, length_eq, value_eq⟩ := ih fun d mem => all d (by simp [mem])
      have value : Integer.digit? 10 c = some (c.toNat - '0'.toNat) :=
        digit_forall (p := fun c => Integer.digit? 10 c = some (c.toNat - '0'.toNat)) (by decide)
          (all c (by simp))
      refine ⟨(c.toNat - '0'.toNat) :: values, ?_, by simp [length_eq], fun total => ?_⟩
      · simp [Integer.digitRun, value, run_eq]
      · rw [List.foldl_cons, value_eq, Nat.ofDigitChars_cons, Nat.mul_comm]

theorem readBase_toDigits {n : Nat} (writable : n < 10 ^ Integer.digitLimit)
    (marked : Integer.withoutMark 10 (Nat.toDigits 10 n) = Nat.toDigits 10 n) :
    Integer.readBase 10 (Nat.toDigits 10 n) = .ok (n : Int) := by
  have digits : ∀ c ∈ Nat.toDigits 10 n, c.isDigit = true := fun c mem => isDigit_toDigits mem
  have plain_eq : Integer.plainDigits (Nat.toDigits 10 n) = Nat.toDigits 10 n := by
    refine (List.map_congr_left fun c mem => ?_).trans (List.map_id _)
    have single : Integer.plainDigits [c] = [c] :=
      digit_forall (p := fun c => Integer.plainDigits [c] = [c]) (by decide) (digits c mem)
    exact (List.cons.inj single).1
  obtain ⟨first, rest, digits_eq⟩ := List.exists_cons_of_ne_nil (@Nat.toDigits_ne_nil n 10)
  obtain ⟨padding, minus, plus, line⟩ : Integer.isPadding first = false ∧ first ≠ '-' ∧
      first ≠ '+' ∧ first ≠ '_' :=
    digit_forall (p := fun c => Integer.isPadding c = false ∧ c ≠ '-' ∧ c ≠ '+' ∧ c ≠ '_')
      (by decide) (digits first (by simp [digits_eq]))
  have sign_eq : Integer.splitSign ((Nat.toDigits 10 n).dropWhile Integer.isPadding) =
      (false, Nat.toDigits 10 n) := by
    rw [digits_eq, List.dropWhile_cons_of_neg (by simp [padding])]
    unfold Integer.splitSign
    split <;> simp_all
  obtain ⟨values, run_eq, length_eq, value_eq⟩ := digitRun_digits digits
  have short : values.length ≤ Integer.digitLimit := by
    rw [length_eq, Nat.length_toDigits_le_iff (by decide) (by decide)]
    exact writable
  have proper : values ≠ [] := by
    rintro rfl
    rw [digits_eq] at length_eq
    cases length_eq
  have read_eq : Integer.readDigits 10 (Nat.toDigits 10 n) = .ok values := by
    have head : ((Nat.toDigits 10 n).head? == some '_') = false := by
      simpa [digits_eq] using line
    simp [Integer.readDigits, head, run_eq, Nat.not_lt.mpr short, proper]
  simp only [Integer.readBase, plain_eq, sign_eq, marked, read_eq]
  change Except.ok (Integer.withSign false (Integer.ofDigits 10 values)) = _
  rw [Integer.ofDigits, value_eq, Nat.ofDigitChars_ten_toDigits]
  rfl

theorem unsignedInteger_toDigits {n : Nat} (writable : n < 10 ^ Integer.digitLimit) :
    unsignedInteger (.ofChars (Nat.toDigits 10 n)) = .ok (n : Int) := by
  rcases Nat.eq_zero_or_pos n with rfl | positive
  · rfl
  · obtain ⟨first, rest, digits_eq, low, -⟩ := exists_toDigits_eq positive
    have zero : first ≠ '0' := by
      rintro rfl
      exact absurd low (by decide)
    have colon : (first :: rest).contains ':' = false := by
      rw [← digits_eq, Bool.eq_false_iff]
      intro found
      have := isDigit_toDigits (List.contains_iff_mem.mp found)
      cases this
    have marked : Integer.withoutMark 10 (Nat.toDigits 10 n) = Nat.toDigits 10 n := by
      rw [digits_eq, Integer.withoutMark]
      have unmarked : Integer.baseMark? (first :: rest) = none := by
        unfold Integer.baseMark?
        split <;> simp_all
      rw [unmarked]
    have value := readBase_toDigits writable marked
    unfold unsignedInteger
    rw [Document.toChars_ofChars, digits_eq]
    split
    · simp_all
    · simp_all
    · simp_all
    · simp_all
    · simp_all
    · rw [colon, ← digits_eq]
      simp only [Bool.false_eq_true, ↓reduceIte, integerInBase, Document.toChars_ofChars, value]

theorem withoutLines_ofChars {text : List Char} (absent : '_' ∉ text) :
    withoutLines (.ofChars text) = .ofChars text := by
  rw [withoutLines, List.filter_eq_self]
  intro point mem
  obtain ⟨c, held, rfl⟩ := List.mem_map.mp mem
  have : c ≠ '_' := by
    rintro rfl
    exact absent held
  simpa using this

theorem toDigits_unsigned (n : Nat) :
    ∃ first rest, Nat.toDigits 10 n = first :: rest ∧ first ≠ '-' ∧ first ≠ '+' := by
  obtain ⟨first, rest, digits_eq⟩ := List.exists_cons_of_ne_nil (@Nat.toDigits_ne_nil n 10)
  have digit : first.isDigit = true := @isDigit_toDigits n _ (by simp [digits_eq])
  exact ⟨first, rest, digits_eq,
    digit_forall (p := fun c => c ≠ '-' ∧ c ≠ '+') (by decide) digit⟩

theorem splitSign_toDigits (n : Nat) :
    splitSign (.ofChars (Nat.toDigits 10 n)) = (false, .ofChars (Nat.toDigits 10 n)) := by
  obtain ⟨first, rest, digits_eq, minus, plus⟩ := toDigits_unsigned n
  rw [digits_eq]
  unfold splitSign
  split <;> simp_all [CodeText.ofChars]

theorem isWritable_iff {n : Int} :
    Integer.isWritable n = true ↔ n.natAbs < 10 ^ Integer.digitLimit := by
  -- for any limit, so that the power is not evaluated
  have bounded (limit : Nat) :
      decide (n.natAbs < Nat.pow 10 limit) = true ↔ n.natAbs < 10 ^ limit :=
    decide_eq_true_iff
  exact bounded Integer.digitLimit

theorem integerOf_numeral {n : Int} (writable : Integer.isWritable n = true) :
    integerOf (.ofChars (Integer.numeral n).toList) = .ok n := by
  have small := isWritable_iff.mp writable
  have bare {m : Nat} : '_' ∉ Nat.toDigits 10 m := Nat.underscore_not_in_toDigits
  have shown {m : Nat} : (CodeText.ofChars (Nat.toDigits 10 m)).isEmpty = false := by
    simp [CodeText.ofChars, Nat.toDigits_ne_nil]
  cases n with
  | ofNat m =>
      have value := @unsignedInteger_toDigits m small
      simp only [Integer.numeral, String.toList_ofList, integerOf, withoutLines_ofChars bare, shown,
        splitSign_toDigits, value]
      rfl
  | negSucc m =>
      have value := @unsignedInteger_toDigits (m + 1) small
      have bare_minus : '_' ∉ '-' :: Nat.toDigits 10 (m + 1) := by
        simp [bare]
      simp only [Integer.numeral, String.toList_ofList, integerOf, withoutLines_ofChars bare_minus]
      change (do
        let value ← unsignedInteger (.ofChars (Nat.toDigits 10 (m + 1)))
        pure (-value)) = _
      rw [value]
      rfl

theorem numeral_cases (n : Int) :
    ∃ m, (Integer.numeral n).toList = Nat.toDigits 10 m ∨
      (Integer.numeral n).toList = '-' :: Nat.toDigits 10 m := by
  cases n with
  | ofNat m => exact ⟨m, .inl (by simp [Integer.numeral])⟩
  | negSucc m => exact ⟨m + 1, .inr (by simp [Integer.numeral])⟩

theorem integerSplitSign_toDigits (n : Nat) :
    Integer.splitSign (Nat.toDigits 10 n) = (false, Nat.toDigits 10 n) := by
  obtain ⟨first, rest, digits_eq, minus, plus⟩ := toDigits_unsigned n
  rw [digits_eq]
  unfold Integer.splitSign
  split <;> simp_all

theorem mem_numeral {n : Int} {c : Char} (mem : c ∈ (Integer.numeral n).toList) :
    c.isDigit = true ∨ c = '-' := by
  obtain ⟨m, text_eq | text_eq⟩ := numeral_cases n <;> rw [text_eq] at mem
  · exact .inl (isDigit_toDigits mem)
  · rcases List.mem_cons.mp mem with rfl | mem
    · exact .inr rfl
    · exact .inl (isDigit_toDigits mem)

theorem plainType_numeral (n : Int) : plainType (Integer.numeral n).toList = .int := by
  have chars {p : Char → Prop} (digits : ∀ d : Fin 10, p (Nat.digitChar d)) (minus : p '-') :
      ∀ c ∈ (Integer.numeral n).toList, p c := by
    intro c mem
    rcases mem_numeral mem with digit | rfl
    · exact digit_forall digits digit
    · exact minus
  have unsigned : ∃ m, (Integer.splitSign (Integer.numeral n).toList).2 = Nat.toDigits 10 m := by
    obtain ⟨m, text_eq | text_eq⟩ := numeral_cases n <;> rw [text_eq]
    · exact ⟨m, by rw [integerSplitSign_toDigits]⟩
    · exact ⟨m, rfl⟩
  obtain ⟨m, unsigned⟩ := unsigned
  have whole : withoutFinalBreak (Integer.numeral n).toList = (Integer.numeral n).toList := by
    rw [withoutFinalBreak, if_neg]
    intro ends
    have mem := List.mem_of_getLast? (beq_iff_eq.mp ends)
    exact chars (p := (· ≠ '\n')) (by decide) (by decide) _ mem rfl
  have decimal : isDecimalForm (Integer.numeral n).toList = false := by
    have point : (Nat.toDigits 10 m).dropWhile (!· == '.') = [] := by
      rw [← List.append_nil (Nat.toDigits 10 m), List.dropWhile_append_of_pos, List.dropWhile_nil]
      intro c mem
      exact digit_forall (p := fun c => (!c == '.') = true) (by decide) (isDigit_toDigits mem)
    simp only [isDecimalForm, unsigned, splitBefore, point, List.isEmpty_nil, Bool.not_true,
      Bool.false_and]
  have unlisted {text : List Char} (shown : text ≠ [])
      (part : ∀ c ∈ text, c.isDigit = true ∨ c = '-') {words : List String}
      (refused : ∀ word ∈ words,
        word.toList.head?.all (fun c => !(c.isDigit || c == '-')) = true) :
      words.contains (String.ofList text) = false := by
    obtain ⟨first, rest, rfl⟩ := List.exists_cons_of_ne_nil shown
    refine contains_of_head (p := fun c => c.isDigit || c == '-') ?_ refused rest
    simpa using part first (by simp)
  have shown : (Integer.numeral n).toList ≠ [] := by
    intro empty
    rw [empty] at unsigned
    exact Nat.toDigits_ne_nil unsigned.symm
  have real : isRealForm (Integer.numeral n).toList = false := by
    rw [isRealForm, decimal, unsigned, unlisted Nat.toDigits_ne_nil
      (fun c mem => .inl (isDigit_toDigits mem)) (by decide), unlisted shown
      (fun c mem => mem_numeral mem) (by decide)]
    rfl
  have truth : truthWords.contains (String.ofList (Integer.numeral n).toList) = false :=
    unlisted shown (fun c mem => mem_numeral mem) (by decide)
  simp only [plainType, whole, truth, real, unsigned, isIntegerForm_toDigits, Bool.false_eq_true,
    ↓reduceIte]

theorem hasInfix_of_notMem {c : Char} {needle text : List Char} (absent : c ∉ text) :
    hasInfix (c :: needle) text = false := by
  rw [Bool.eq_false_iff, ne_eq, hasInfix_iff]
  exact fun within => absent (within.subset List.mem_cons_self)

theorem PlainBody.numeral (n : Int) : PlainBody (Integer.numeral n).toList := by
  have chars : ∀ c ∈ (Integer.numeral n).toList, c ≠ '\t' ∧ c ≠ '#' ∧ c ≠ '\ufeff' ∧
      isBreak c = false ∧ c ≠ ':' ∧ c ≠ ' ' := by
    intro c mem
    rcases mem_numeral mem with digit | rfl
    · exact digit_forall (p := fun c => c ≠ '\t' ∧ c ≠ '#' ∧ c ≠ '\ufeff' ∧ isBreak c = false ∧
        c ≠ ':' ∧ c ≠ ' ') (by decide) digit
    · decide
  refine ⟨fun c mem => ?_, hasInfix_of_notMem fun mem => ?_, fun c ends => ?_⟩
  · obtain ⟨tab, comment, mark, flat, -⟩ := chars c mem
    exact ⟨tab, comment, mark, flat⟩
  · exact (chars ':' mem).2.2.2.2.1 rfl
  · exact (chars c (List.mem_of_getLast? ends)).2.2.2.2

/-! ## Written scalars -/

theorem eq_ofChars_of_chars? {text : CodeText} {chars : List Char}
    (chars_eq : text.chars? = some chars) : text = .ofChars chars := by
  induction text generalizing chars with
  | nil =>
      cases chars_eq
      rfl
  | cons point rest ih =>
      cases point with
      | surrogate offset => simp [CodeText.chars?] at chars_eq
      | scalar c =>
          simp only [CodeText.chars?, List.mapM_cons, Option.pure_def, Option.bind_eq_bind,
            Option.bind_some, Option.bind_eq_some_iff, Option.some.injEq] at chars_eq
          obtain ⟨others, others_eq, rfl⟩ := chars_eq
          rw [ih others_eq]
          rfl

def isWrittenPlain (text : CodeText) : Bool :=
  text.chars?.any isPlain

structure PlainText (text : List Char) : Prop where
  body : PlainBody text
  allowed : ∀ c ∈ text, isAllowed c = true
  start : ∃ c rest, text = c :: rest ∧
    ((isPlainStart c || c.isDigit) = true ∨
      c = '-' ∧ ∃ d others, rest = d :: others ∧ d.isDigit = true)

theorem PlainText.ne_nil {text : List Char} (plain : PlainText text) : text ≠ [] := by
  obtain ⟨c, rest, rfl, -⟩ := plain.start
  simp

theorem PlainText.head_ne {text : List Char} (plain : PlainText text) :
    text.head? ≠ some ' ' := by
  obtain ⟨c, rest, rfl, start⟩ := plain.start
  rintro ⟨⟩
  rcases start with start | ⟨⟨⟩, -⟩
  cases start

/-- What a scalar is written with: a plain text, or a text between quotation marks. -/
def WrittenWith (written : List Char) (text : CodeText) (plain : Bool) : Prop :=
  (PlainText written ∧ text = .ofChars written ∧ plain = true) ∨
    (written = Scalar.quoted text ∧ plain = false)

theorem writtenWith_text (text : CodeText) :
    WrittenWith (Scalar.writtenText text) text (isWrittenPlain text) := by
  rcases chars_eq : text.chars? with _ | chars
  · exact .inr (by simp [Scalar.writtenText, isWrittenPlain, chars_eq])
  · rcases plain : isPlain chars with _ | _
    · exact .inr (by simp [Scalar.writtenText, isWrittenPlain, chars_eq, plain])
    · have written_eq : Scalar.writtenText text = chars := by
        simp [Scalar.writtenText, chars_eq, plain]
      obtain ⟨first, rest, split, start, -, printable, -⟩ := isPlain_cons plain
      rw [written_eq]
      refine .inl ⟨⟨PlainBody.of_isPlain plain, fun c mem => ?_, first, rest, split,
        .inl (by simp [start])⟩, ?_⟩
      · exact isAllowed_of_isPrintable (printable c mem).2
      exact ⟨eq_ofChars_of_chars? chars_eq, by simp [isWrittenPlain, chars_eq, plain]⟩

def readText : Document.Scalar → CodeText × Bool
  | .null => (.ofString "null", true)
  | .bool value => (.ofString (if value then "true" else "false"), true)
  | .int value => (.ofString (Integer.numeral value), true)
  | .text value => (value, isWrittenPlain value)

theorem PlainText.of_isAlpha {text : List Char} (shown : text ≠ [])
    (letters : ∀ c ∈ text, c.isAlpha = true ∧ isAllowed c = true) : PlainText text := by
  have other (mark : Char) (refused : mark.isAlpha = false) : mark ∉ text := by
    intro mem
    rw [(letters mark mem).1] at refused
    cases refused
  obtain ⟨first, rest, rfl⟩ := List.exists_cons_of_ne_nil shown
  refine ⟨⟨fun c mem => ?_, hasInfix_of_notMem (other ':' rfl), fun c ends => ?_⟩,
    fun c mem => (letters c mem).2, first, rest, rfl,
    .inl (by simp [isPlainStart, (letters first (by simp)).1])⟩
  · have apart (mark : Char) (refused : mark.isAlpha = false) : c ≠ mark := by
      rintro rfl
      exact other c refused mem
    refine ⟨apart '\t' rfl, apart '#' rfl, apart '\ufeff' rfl, ?_⟩
    simp [isBreak, apart '\n' rfl, apart '\r' rfl, apart '\u0085' rfl, apart '\u2028' rfl,
      apart '\u2029' rfl]
  · have mem := List.mem_of_getLast? ends
    constructor
    · rintro rfl
      exact other ':' rfl mem
    · rintro rfl
      exact other ' ' rfl mem

theorem writtenWith_scalar {value : Document.Scalar} {written : List Char}
    (written_eq : value.written? = some written) :
    WrittenWith written (readText value).1 (readText value).2 := by
  cases value with
  | null =>
      cases written_eq
      exact .inl ⟨.of_isAlpha (by decide) (List.all_iff_forall_prop.mp (by decide)), rfl, rfl⟩
  | bool value =>
      cases written_eq
      cases value
      · exact .inl ⟨.of_isAlpha (by decide) (List.all_iff_forall_prop.mp (by decide)), rfl, rfl⟩
      · exact .inl ⟨.of_isAlpha (by decide) (List.all_iff_forall_prop.mp (by decide)), rfl, rfl⟩
  | int value =>
      have text_eq : written = (Integer.numeral value).toList := by
        simp only [Scalar.written?] at written_eq
        split at written_eq
        · cases written_eq
          rfl
        · cases written_eq
      rw [text_eq]
      have allowed : ∀ c ∈ (Integer.numeral value).toList, isAllowed c = true := by
        intro c mem
        rcases mem_numeral mem with digit | rfl
        · exact digit_forall (p := (isAllowed · = true)) (by decide) digit
        · rfl
      refine .inl ⟨⟨.numeral value, allowed, ?_⟩, rfl, rfl⟩
      obtain ⟨m, text_eq | text_eq⟩ := numeral_cases value <;> rw [text_eq] <;>
        obtain ⟨first, rest, digits_eq⟩ := List.exists_cons_of_ne_nil (@Nat.toDigits_ne_nil m 10) <;>
        have digit := @isDigit_toDigits m first (by simp [digits_eq])
      · exact ⟨first, rest, digits_eq, .inl (by simp [digit])⟩
      · exact ⟨'-', _, rfl, .inr ⟨rfl, first, rest, digits_eq, digit⟩⟩
  | text value =>
      cases written_eq
      exact writtenWith_text value

theorem isAlphanum_bounds {c : Char} (member : c.isAlphanum = true) :
    48 ≤ c.toNat ∧ c.toNat ≤ 122 := by
  have upper (held : c.isUpper = true) : 65 ≤ c.toNat ∧ c.toNat ≤ 90 :=
    (of_decide_eq_true held : c.val ≥ 'A'.val ∧ c.val ≤ 'Z'.val)
  have lower (held : c.isLower = true) : 97 ≤ c.toNat ∧ c.toNat ≤ 122 := by
    have both := Bool.and_eq_true_iff.mp held
    exact ⟨(of_decide_eq_true both.1 : c.val ≥ 'a'.val),
      (of_decide_eq_true both.2 : c.val ≤ 'z'.val)⟩
  have digit (held : c.isDigit = true) : 48 ≤ c.toNat ∧ c.toNat ≤ 57 := by
    have both := Bool.and_eq_true_iff.mp held
    exact ⟨(of_decide_eq_true both.1 : c.val ≥ '0'.val),
      (of_decide_eq_true both.2 : c.val ≤ '9'.val)⟩
  have kinds : ((c.isUpper || c.isLower) || c.isDigit) = true := member
  simp only [Bool.or_eq_true] at kinds
  rcases kinds with (held | held) | held
  · have := upper held
    omega
  · have := lower held
    omega
  · have := digit held
    omega

theorem flat_of_isAnchorChar {c : Char} (member : Document.isAnchorChar c = true) :
    isAllowed c = true ∧ isBreak c = false := by
  have outside (other : Char) (refused : Document.isAnchorChar other = false) : c ≠ other := by
    rintro rfl
    rw [refused] at member
    cases member
  refine ⟨?_, by simp [isBreak, outside '\n' rfl, outside '\r' rfl, outside '\u0085' rfl,
    outside '\u2028' rfl, outside '\u2029' rfl]⟩
  simp only [Document.isAnchorChar, Bool.or_eq_true, beq_iff_eq] at member
  have bounds : 0x20 ≤ c.toNat ∧ c.toNat ≤ 0x7e := by
    rcases member with (alphanumeric | rfl) | rfl
    · have := isAlphanum_bounds alphanumeric
      omega
    · decide
    · decide
  simp only [isAllowed, Bool.or_eq_true, Bool.and_eq_true, beq_iff_eq, decide_eq_true_eq]
  omega

theorem mem_quotedPoint {point : CodePoint} {c : Char}
    (mem : c ∈ Document.Scalar.quotedPoint point) : isAllowed c = true ∧ isBreak c = false := by
  have listed : ∀ entry ∈ replacements, isAllowed entry.1 = true ∧ isBreak entry.1 = false := by
    decide
  rcases quotedPoint_cases point with ⟨letter, written, found⟩ | ⟨written, -⟩ |
    ⟨d, -, written, -, -, literal⟩ <;> rw [written] at mem
  · rcases List.mem_cons.mp mem with rfl | mem
    · decide
    · rw [List.mem_singleton.mp mem]
      obtain ⟨before, after, table_eq, -⟩ := List.lookup_eq_some_iff.mp found
      exact listed (letter, point.value) (by simp [table_eq])
  · simp only [Document.Scalar.unicodeEscape, List.mem_cons] at mem
    rcases mem with rfl | rfl | mem
    · decide
    · decide
    · exact flat_of_isAnchorChar (isAnchorChar_of_mem_hexDigits mem)
  · rw [List.mem_singleton.mp mem]
    refine ⟨?_, (flat_of_isQuotedLiteral literal).1⟩
    simp only [Document.Scalar.isQuotedLiteral, isAllowed, Bool.or_eq_true, Bool.and_eq_true,
      beq_iff_eq, decide_eq_true_eq] at literal ⊢
    omega

theorem WrittenWith.flat {written : List Char} {text : CodeText} {plain : Bool}
    (is_written : WrittenWith written text plain) {c : Char} (mem : c ∈ written) :
    isAllowed c = true ∧ isBreak c = false := by
  rcases is_written with ⟨plain_text, -⟩ | ⟨rfl, -⟩
  · exact ⟨plain_text.allowed c mem, (plain_text.body.chars c mem).2.2.2⟩
  · simp only [Scalar.quoted, List.cons_append, List.mem_cons, List.mem_append, List.mem_flatMap,
      List.not_mem_nil, or_false] at mem
    rcases mem with rfl | ⟨point, -, mem⟩ | rfl
    · decide
    · exact mem_quotedPoint mem
    · decide

/-- What a scalar is written with starts with a character that is neither blank nor starts a
comment. -/
theorem WrittenWith.exists_cons {written : List Char} {text : CodeText} {plain : Bool}
    (is_written : WrittenWith written text plain) :
    ∃ c rest, written = c :: rest ∧ c ≠ ' ' ∧ c ≠ '#' ∧ isBreak c = false := by
  have solid {c : Char} {rest : List Char} (split : written = c :: rest) : isBreak c = false :=
    (is_written.flat (by simp [split])).2
  rcases is_written with ⟨plain_text, -⟩ | ⟨rfl, -⟩
  · obtain ⟨c, rest, rfl⟩ := List.exists_cons_of_ne_nil plain_text.ne_nil
    refine ⟨c, rest, rfl, ?_, (plain_text.body.chars c (by simp)).2.1, solid rfl⟩
    simpa using plain_text.head_ne
  · exact ⟨'"', _, rfl, by decide, by decide, by decide⟩

theorem head_writtenText_ne (text : CodeText) (more : List Char) {c : Char}
    (refused : isPlainStart c = false) (quote : c ≠ '"') :
    (Scalar.writtenText text ++ more).head? ≠ some c := by
  rcases chars_eq : text.chars? with _ | chars
  · simpa [Scalar.writtenText, chars_eq, Scalar.quoted] using quote.symm
  · rcases plain : isPlain chars with _ | _
    · simpa [Scalar.writtenText, chars_eq, plain, Scalar.quoted] using quote.symm
    · obtain ⟨first, rest, rfl, start, -⟩ := isPlain_cons plain
      simpa [Scalar.writtenText, chars_eq, plain] using ne_of_isPlainStart start c refused

theorem unmarked_writtenText (text : CodeText) (more : List Char) :
    Unmarked (Scalar.writtenText text ++ more) :=
  ⟨head_writtenText_ne text more rfl (by decide), head_writtenText_ne text more rfl (by decide)⟩

def readType : Document.Scalar → StandardType
  | .null => .null
  | .bool _ => .bool
  | .int _ => .int
  | .text _ => .str

theorem plainType_readText {value : Document.Scalar} (plain : (readText value).2 = true) :
    plainType (readText value).1.toChars = readType value := by
  cases value with
  | null => rfl
  | bool value => cases value <;> rfl
  | int value =>
      simp only [readText, CodeText.ofString, Document.toChars_ofChars]
      exact plainType_numeral value
  | text value =>
      obtain ⟨chars, chars_eq, is_plain⟩ := (Option.any_eq_true _ _).mp plain
      rw [readText, eq_ofChars_of_chars? chars_eq, Document.toChars_ofChars]
      exact plainType_of_isPlain is_plain

theorem readType_of_quoted {value : Document.Scalar} (quoted : (readText value).2 = false) :
    readType value = .str := by
  cases value with
  | null | bool | int => cases quoted
  | text => rfl

end TypeCatalog.Yaml
