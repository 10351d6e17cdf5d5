import Mathlib.Data.Bool.AllAny
import Mathlib.Data.List.Basic
import Mathlib.Data.Nat.Digits.Defs
import TypeCatalog.Proofs.DocumentTree
import TypeCatalog.Proofs.TextParts
import TypeCatalog.Syntax.Literal

/-!
# Integer literals are read as their values

An integer literal has a mark for its base, digits with or without separators
between them, and a suffix.  The grammar of these spellings gives a literal its
digits, and the digits give it its value; reading the text of a literal gives
that value back.
-/

namespace TypeCatalog.IntegerLiteral

open Text

/-! ## Spellings -/

inductive Base where
  | binary
  | octal
  | decimal
  | hexadecimal
  deriving DecidableEq, Repr

namespace Base

def radix : Base → Nat
  | binary => 2
  | octal => 8
  | decimal => 10
  | hexadecimal => 16

def marks : Base → List (List Char)
  | binary => [['0', 'b'], ['0', 'B']]
  | octal | decimal => [[]]
  | hexadecimal => [['0', 'x'], ['0', 'X']]

def digits : Base → List Char
  | binary => ['0', '1']
  | octal => ['0', '1', '2', '3', '4', '5', '6', '7']
  | decimal => ['0', '1', '2', '3', '4', '5', '6', '7', '8', '9']
  | hexadecimal =>
    ['0', '1', '2', '3', '4', '5', '6', '7', '8', '9', 'a', 'b', 'c', 'd', 'e', 'f', 'A', 'B', 'C',
      'D', 'E', 'F']

/-- The digits a literal may start with: zero for octal ones, and any other for decimal ones. -/
def leading : Base → List Char
  | octal => ['0']
  | decimal => decimal.digits.tail
  | base => base.digits

def characters : List Char :=
  'b' :: 'B' :: 'x' :: 'X' :: hexadecimal.digits

theorem marks_subset (base : Base) : ∀ mark ∈ base.marks, mark ⊆ characters := by
  cases base <;> decide

theorem digits_subset (base : Base) : base.digits ⊆ hexadecimal.digits := by
  cases base <;> decide

theorem leading_subset (base : Base) : base.leading ⊆ base.digits := by
  cases base <;> decide

end Base

def digitValue (c : Char) : Nat :=
  if c.isDigit then c.toNat - '0'.toNat
  else if c.isLower then c.toNat - 'a'.toNat + 10
  else c.toNat - 'A'.toNat + 10

/-- A literal as it is spelled.  The Booleans say before which of the other digits a separator
stands. -/
structure Spelling where
  base : Base
  mark : List Char
  first : Char
  others : List (Bool × Char)
  suffix : List Char := []
  mark_mem : mark ∈ base.marks := by decide
  first_mem : first ∈ base.leading := by decide
  others_mem : ∀ digit ∈ others, digit.2 ∈ base.digits := by decide
  suffix_letters : suffix.all isSuffixLetter = true := by decide

namespace Spelling

def digits (literal : Spelling) : List Char :=
  literal.first :: literal.others.map (·.2)

def chars (literal : Spelling) : List Char :=
  literal.mark ++
    (literal.first :: literal.others.flatMap fun (separated, digit) =>
      if separated then ['\'', digit] else [digit]) ++
    literal.suffix

def text (literal : Spelling) : CodeText :=
  .ofChars literal.chars

def value (literal : Spelling) : Nat :=
  Nat.ofDigits literal.base.radix (literal.digits.map digitValue).reverse

theorem digits_mem (literal : Spelling) {c : Char} (mem : c ∈ literal.digits) :
    c ∈ literal.base.digits := by
  rcases List.mem_cons.mp mem with rfl | mem
  · exact literal.base.leading_subset literal.first_mem
  · obtain ⟨digit, held, rfl⟩ := List.mem_map.mp mem
    exact literal.others_mem digit held

theorem isSuffixLetter_of_mem (literal : Spelling) {c : Char} (mem : c ∈ literal.suffix) :
    isSuffixLetter c = true :=
  List.all_eq_true.mp literal.suffix_letters c mem

variable {p : Char → Prop} [DecidablePred p]

theorem digits_forall (literal : Spelling) (all : Base.hexadecimal.digits.all (p ·) = true)
    {c : Char} (mem : c ∈ literal.digits) : p c :=
  List.all_iff_forall_prop.mp all c (literal.base.digits_subset (literal.digits_mem mem))

theorem characters_forall (literal : Spelling) (all : Base.characters.all (p ·) = true) {c : Char}
    (mem : c ∈ literal.mark ++ literal.digits) : p c := by
  have within : c ∈ Base.characters := by
    rcases List.mem_append.mp mem with mem | mem
    · exact literal.base.marks_subset _ literal.mark_mem mem
    · exact literal.digits_forall (by decide) mem
  exact List.all_iff_forall_prop.mp all c within

theorem filter_chars (literal : Spelling) :
    literal.chars.filter (· != '\'') = literal.mark ++ literal.digits ++ literal.suffix := by
  have kept : ∀ c ∈ literal.mark ++ literal.digits, (c != '\'') = true := fun _ mem =>
    literal.characters_forall (p := (· != '\'')) (by decide) mem
  have marks : literal.mark.filter (· != '\'') = literal.mark :=
    List.filter_eq_self.mpr fun c mem => kept c (List.mem_append_left _ mem)
  have first : (literal.first != '\'') = true := kept _ (by simp [digits])
  have others (digits : List (Bool × Char)) (all : ∀ digit ∈ digits, (digit.2 != '\'') = true) :
      (digits.flatMap fun (separated, digit) =>
        if separated then ['\'', digit] else [digit]).filter (· != '\'') = digits.map (·.2) := by
    induction digits with
    | nil => rfl
    | cons digit rest ih =>
        have plain := all digit (by simp)
        rw [List.flatMap_cons, List.filter_append, ih fun other mem => all other (by simp [mem])]
        rcases digit with ⟨_ | _, c⟩ <;> simp_all
  have suffix : literal.suffix.filter (· != '\'') = literal.suffix := by
    rw [List.filter_eq_self]
    intro c mem
    rw [bne_iff_ne]
    rintro rfl
    cases literal.isSuffixLetter_of_mem mem
  have others_eq := others literal.others fun digit mem => kept digit.2 (by
    simp only [digits, List.mem_append, List.mem_cons, List.mem_map]
    exact .inr (.inr ⟨digit, mem, rfl⟩))
  simp [chars, digits, marks, suffix, first, others_eq]

theorem chars_forall (literal : Spelling) (all : Base.characters.all (p ·) = true)
    (separator : p '\'') (letters : ['u', 'U', 'l', 'L', 'z', 'Z'].all (p ·) = true) {c : Char}
    (mem : c ∈ literal.chars) : p c := by
  by_cases same : c = '\''
  · exact same ▸ separator
  · have kept : c ∈ literal.chars.filter (· != '\'') :=
      List.mem_filter.mpr ⟨mem, bne_iff_ne.mpr same⟩
    rw [filter_chars, List.mem_append] at kept
    rcases kept with kept | kept
    · exact literal.characters_forall all kept
    · have letter := List.contains_iff_mem.mp (literal.isSuffixLetter_of_mem kept)
      exact List.all_iff_forall_prop.mp letters c letter

end Spelling

/-! ## Digits in a base -/

theorem digit?_of_mem (base : Base) :
    ∀ c ∈ base.digits, Integer.digit? base.radix c = some (digitValue c) := by
  rw [← List.all_iff_forall_prop]
  cases base <;> decide

theorem digitRun_of_mem {base : Base} {digits : List Char} (all : ∀ c ∈ digits, c ∈ base.digits) :
    Integer.digitRun base.radix false digits = some (digits.map digitValue, []) := by
  induction digits with
  | nil => rfl
  | cons c rest ih =>
      have value := digit?_of_mem base c (all c (by simp))
      simp [Integer.digitRun, value, ih fun d mem => all d (by simp [mem])]

theorem ofDigits_eq (base : Nat) (digits : List Nat) :
    Integer.ofDigits base digits = Nat.ofDigits base digits.reverse := by
  rw [Nat.ofDigits_eq_foldr, List.foldr_reverse, Integer.ofDigits]
  congr 1
  funext total digit
  rw [Nat.cast_id, Nat.mul_comm, Nat.add_comm]

theorem readDigits_of_mem {base : Base} {digits : List Char} (all : ∀ c ∈ digits, c ∈ base.digits)
    (proper : digits ≠ [])
    (short : base = .decimal → digits.length ≤ Integer.digitLimit) :
    Integer.readDigits base.radix digits = .ok (digits.map digitValue) := by
  have start : digits.head? ≠ some '_' := by
    intro head
    have mem := base.digits_subset (all '_' (List.mem_of_head? head))
    exact absurd mem (by decide)
  have within : ¬(base.radix = 10 ∧ Integer.digitLimit < digits.length) := by
    rintro ⟨ten, long⟩
    cases base with
    | decimal => exact absurd (short rfl) (by omega)
    | binary | octal | hexadecimal => cases ten
  simp [Integer.readDigits, start, digitRun_of_mem all, within, proper]

/-! ## Reading a spelling -/

theorem dropLetters_append {digits suffix : List Char} {last : Char}
    (ends : digits.getLast? = some last) (digit : isSuffixLetter last = false)
    (letters : ∀ c ∈ suffix, isSuffixLetter c = true) :
    dropLetters (digits ++ suffix) = digits := by
  obtain ⟨init, rfl⟩ := List.getLast?_eq_some_iff.mp ends
  have all : ∀ c ∈ suffix.reverse, isSuffixLetter c = true := fun c mem =>
    letters c (List.mem_reverse.mp mem)
  rw [dropLetters, List.reverse_append, List.dropWhile_append_of_pos all]
  simp [digit]

namespace Spelling

variable (literal : Spelling)

theorem visible_of_mem {c : Char} (mem : c ∈ literal.chars) :
    CodePoint.isBlank (.scalar c) = false :=
  literal.chars_forall (p := fun c => CodePoint.isBlank (.scalar c) = false) (by decide) rfl
    (by decide) mem

theorem trim_text : trim literal.text = literal.text := by
  apply trim_of_visible
  intro point mem
  obtain ⟨c, held, rfl⟩ := List.mem_map.mp mem
  exact literal.visible_of_mem held

theorem dropSuffix_append_filter (front : List Char) :
    dropSuffix (front ++ literal.chars.filter (· != '\'')) =
      front ++ (literal.mark ++ literal.digits) := by
  obtain ⟨last, ends⟩ : ∃ last, literal.digits.getLast? = some last :=
    ⟨_, List.getLast?_eq_some_getLast (List.cons_ne_nil _ _)⟩
  have digit : isSuffixLetter last = false :=
    literal.digits_forall (p := (isSuffixLetter · = false)) (by decide) (List.mem_of_getLast? ends)
  have ends' : (front ++ (literal.mark ++ literal.digits)).getLast? = some last := by
    rw [List.getLast?_append, List.getLast?_append, ends, Option.some_or, Option.some_or]
  have kept : literal.chars.filter (· != '\'') ≠ [] := by
    rw [filter_chars]
    simp [digits]
  have line :
      ((front ++ literal.chars.filter (· != '\'')).getLast? == some '\n') = false := by
    rw [beq_eq_false_iff_ne, List.getLast?_append_of_ne_nil _ kept]
    intro ends
    have mem := (List.mem_filter.mp (List.mem_of_getLast? ends)).1
    exact literal.chars_forall (p := (· ≠ '\n')) (by decide) (by decide) (by decide) mem rfl
  rw [dropSuffix, line, if_neg Bool.false_ne_true, filter_chars, ← List.append_assoc]
  exact dropLetters_append ends' digit fun _ mem => literal.isSuffixLetter_of_mem mem

theorem dropSuffix_filter :
    dropSuffix (literal.chars.filter (· != '\'')) = literal.mark ++ literal.digits :=
  literal.dropSuffix_append_filter []

theorem plainDigits_digits :
    Integer.plainDigits (literal.mark ++ literal.digits) = literal.mark ++ literal.digits := by
  refine (List.map_congr_left fun c mem => ?_).trans (List.map_id _)
  have single : Integer.plainDigits [c] = [c] :=
    literal.characters_forall (p := fun c => Integer.plainDigits [c] = [c]) (by decide) mem
  exact (List.cons.inj single).1

theorem splitSign_plainDigits :
    Integer.splitSign ((Integer.plainDigits (literal.mark ++ literal.digits)).dropWhile
      Integer.isPadding) = (false, literal.mark ++ literal.digits) := by
  obtain ⟨first, rest, shape⟩ : ∃ first rest, literal.mark ++ literal.digits = first :: rest :=
    List.exists_cons_of_ne_nil (by simp [digits])
  obtain ⟨padding, minus, plus⟩ : Integer.isPadding first = false ∧ first ≠ '-' ∧ first ≠ '+' :=
    literal.characters_forall (p := fun c => Integer.isPadding c = false ∧ c ≠ '-' ∧ c ≠ '+')
      (by decide) (by simp [shape])
  rw [plainDigits_digits, shape, List.dropWhile_cons_of_neg (by simp [padding])]
  unfold Integer.splitSign
  split <;> simp_all

theorem ofDigits_digits :
    Integer.ofDigits literal.base.radix (literal.digits.map digitValue) = literal.value :=
  ofDigits_eq _ _

theorem readDigits_digits
    (short : literal.base = .decimal → literal.digits.length ≤ Integer.digitLimit) :
    Integer.readDigits literal.base.radix literal.digits = .ok (literal.digits.map digitValue) :=
  readDigits_of_mem (fun _ mem => literal.digits_mem mem) (List.cons_ne_nil _ _) short

theorem readMarked_marked {marker : Char} (mark_eq : literal.mark = ['0', marker])
    (known : ∀ rest, Integer.baseMark? ('0' :: marker :: rest) = some (literal.base.radix, rest))
    (short : literal.base = .decimal → literal.digits.length ≤ Integer.digitLimit) :
    Integer.readMarked (literal.mark ++ literal.digits) = .ok literal.value := by
  have line : (literal.digits.head? == some '_') = false := by
    have different : literal.first ≠ '_' :=
      literal.digits_forall (p := (· ≠ '_')) (by decide) List.mem_cons_self
    simpa [digits] using different
  rw [mark_eq, List.cons_append, List.singleton_append, Integer.readMarked, known]
  simp only [line, Bool.false_eq_true, ↓reduceIte, literal.readDigits_digits short,
    ← ofDigits_digits]
  rfl

theorem first_ne_zero (decimal : literal.base = .decimal) : literal.first ≠ '0' := by
  have mem := literal.first_mem
  rw [decimal] at mem
  have others : Base.decimal.leading.all (· ≠ '0') = true := by decide
  exact List.all_iff_forall_prop.mp others _ mem

/-- A decimal literal starts with no zero, so its digits are not taken for a mark. -/
theorem readMarked_decimal (decimal : literal.base = .decimal)
    (short : literal.base = .decimal → literal.digits.length ≤ Integer.digitLimit) :
    Integer.readMarked (literal.mark ++ literal.digits) = .ok literal.value := by
  have mark_eq : literal.mark = [] := by simpa [decimal, Base.marks] using literal.mark_mem
  have zero := literal.first_ne_zero decimal
  have unmarked : Integer.baseMark? literal.digits = none := by
    unfold digits Integer.baseMark?
    split <;> simp_all
  have head : (literal.digits.head? == some '0') = false := by simpa [digits] using zero
  have run := literal.readDigits_digits short
  have value_eq := literal.ofDigits_digits
  rw [decimal, Base.radix] at run value_eq
  rw [mark_eq, List.nil_append, Integer.readMarked, unmarked]
  simp only [run, bind, Except.bind, head, Bool.false_and, Bool.false_eq_true, ↓reduceIte, value_eq]
  rfl

/-- The digits of an octal literal are read on their own; a zero alone is read like a decimal. -/
theorem read_octal (octal : literal.base = .octal) :
    (if isOctal (literal.mark ++ literal.digits) then
        some ((Integer.ofDigits 8
          ((literal.mark ++ literal.digits).filterMap digitValue?) : Nat) : Int)
      else (Integer.readAnyBase (literal.mark ++ literal.digits)).toOption) =
      some (literal.value : Int) := by
  have mark_eq : literal.mark = [] := by simpa [octal, Base.marks] using literal.mark_mem
  have first_eq : literal.first = '0' := by simpa [octal, Base.leading] using literal.first_mem
  have values : literal.digits.filterMap digitValue? = literal.digits.map digitValue := by
    rw [List.filterMap_eq_map_iff_forall_eq_some]
    intro c mem
    have held := literal.digits_mem mem
    rw [octal] at held
    have all : Base.octal.digits.all (fun c => digitValue? c = some (digitValue c)) = true := by
      decide
    exact List.all_iff_forall_prop.mp all c held
  have value_eq := literal.ofDigits_digits
  rw [octal, Base.radix] at value_eq
  rw [mark_eq, List.nil_append]
  rcases alone : literal.others with _ | ⟨other, rest⟩
  · have digits_eq : literal.digits = ['0'] := by simp [digits, first_eq, alone]
    rw [digits_eq] at value_eq ⊢
    rw [← value_eq]
    rfl
  · have all : isOctal literal.digits = true := by
      have digits_octal : ∀ c ∈ literal.others.map (·.2), isOctalDigit c = true := by
        intro c mem
        have held := literal.digits_mem (List.mem_cons_of_mem _ mem)
        rw [octal] at held
        have all : Base.octal.digits.all isOctalDigit = true := by decide
        exact List.all_eq_true.mp all c held
      have some_digits : (literal.others.map (·.2)).isEmpty = false := by simp [alone]
      simp only [digits, first_eq, isOctal, some_digits, Bool.not_false, Bool.true_and]
      exact List.all_eq_true.mpr digits_octal
    rw [if_pos all, values, value_eq]

end Spelling

/-- The text of an integer literal of any base, with separators and a suffix, is read as the value
of its digits. -/
theorem value?_text (literal : Spelling)
    (short : literal.base = .decimal → literal.digits.length ≤ Integer.digitLimit) :
    value? literal.text = some (literal.value : Int) := by
  have chars_eq : (trim literal.text).chars? = some literal.chars := by
    rw [literal.trim_text]
    exact Document.chars?_ofChars _
  have outer (marked : Integer.readMarked (literal.mark ++ literal.digits) = .ok literal.value)
      (other : isOctal (literal.mark ++ literal.digits) = false) :
      value? literal.text = some (literal.value : Int) := by
    simp only [value?, chars_eq, bind, Option.bind, literal.dropSuffix_filter, other,
      Bool.false_eq_true, ↓reduceIte, Integer.readAnyBase, literal.splitSign_plainDigits, marked]
    rfl
  have mark_mem := literal.mark_mem
  rcases base : literal.base with _ | _ | _ | _
  · simp only [base, Base.marks, List.mem_cons, List.not_mem_nil, or_false] at mark_mem
    have radix : literal.base.radix = 2 := by rw [base, Base.radix]
    rcases mark_mem with mark_eq | mark_eq <;>
      exact outer (literal.readMarked_marked mark_eq (fun _ => radix ▸ rfl) short)
        (by simp [mark_eq, isOctal, isOctalDigit])
  · simp only [value?, chars_eq, bind, Option.bind, literal.dropSuffix_filter]
    exact literal.read_octal base
  · have zero := literal.first_ne_zero base
    rw [base, Base.marks, List.mem_singleton] at mark_mem
    refine outer (literal.readMarked_decimal base short) ?_
    rw [mark_mem, List.nil_append, Spelling.digits]
    unfold isOctal
    split <;> simp_all
  · simp only [base, Base.marks, List.mem_cons, List.not_mem_nil, or_false] at mark_mem
    have radix : literal.base.radix = 16 := by rw [base, Base.radix]
    rcases mark_mem with mark_eq | mark_eq <;>
      exact outer (literal.readMarked_marked mark_eq (fun _ => radix ▸ rfl) short)
        (by simp [mark_eq, isOctal, isOctalDigit])

/-- The literal `1'000'000ull`. -/
def separatedMillion : Spelling where
  base := .decimal
  mark := []
  first := '1'
  others := [(true, '0'), (false, '0'), (false, '0'), (true, '0'), (false, '0'), (false, '0')]
  suffix := ['u', 'l', 'l']

theorem separatedMillion_read :
    separatedMillion.text = "1'000'000ull" ∧
      separatedMillion.digits.length ≤ Integer.digitLimit ∧
      value? separatedMillion.text = some 1000000 :=
  ⟨rfl, by decide, value?_text separatedMillion fun _ => by decide⟩

end TypeCatalog.IntegerLiteral
