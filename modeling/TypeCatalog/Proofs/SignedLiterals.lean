import TypeCatalog.Proofs.LiteralValues
import TypeCatalog.Proofs.SoundExtraction

/-!
# Integer literals with a minus sign

The minus sign of an argument may be part of its number, or it may negate the
number in an expression of its own.  Both are read as the same integer unless
the literal is octal: an octal literal is known by the zero it starts with, and
after a sign it does not start with it.
-/

namespace TypeCatalog

open Text

namespace IntegerLiteral

namespace Spelling

variable (literal : Spelling)

/-! ## The text of a literal after a sign -/

def negatedText : CodeText :=
  .ofChars ('-' :: literal.chars)

theorem trim_negatedText : trim literal.negatedText = literal.negatedText := by
  apply trim_of_visible
  intro point mem
  obtain ⟨c, held, rfl⟩ := List.mem_map.mp mem
  rcases List.mem_cons.mp held with rfl | held
  · decide
  · exact literal.visible_of_mem held

theorem value?_negatedText :
    value? literal.negatedText =
      (Integer.readMarked (literal.mark ++ literal.digits)).toOption.map fun n => -(n : Int) := by
  have chars_eq : (trim literal.negatedText).chars? = some ('-' :: literal.chars) := by
    rw [literal.trim_negatedText]
    exact Document.chars?_ofChars _
  have dropped : dropSuffix (('-' :: literal.chars).filter (· != '\'')) =
      '-' :: (literal.mark ++ literal.digits) :=
    literal.dropSuffix_append_filter ['-']
  have sign : Integer.splitSign
      ((Integer.plainDigits ('-' :: (literal.mark ++ literal.digits))).dropWhile
        Integer.isPadding) = (true, literal.mark ++ literal.digits) := by
    have plain : Integer.plainDigits ('-' :: (literal.mark ++ literal.digits)) =
        '-' :: (literal.mark ++ literal.digits) :=
      congrArg ('-' :: ·) literal.plainDigits_digits
    rw [plain]
    rfl
  simp only [value?, chars_eq, bind, Option.bind, dropped, isOctal, Integer.readAnyBase,
    sign]
  rcases Integer.readMarked (literal.mark ++ literal.digits) with fault | n <;> rfl

/-! ## Octal literals after a sign -/

theorem ofDigits_eq_zero_iff {base : Nat} (positive : base ≠ 0) (digits : List Nat) :
    Integer.ofDigits base digits = 0 ↔ ∀ d ∈ digits, d = 0 := by
  rw [ofDigits_eq]
  constructor
  · intro zero d mem
    exact Nat.digits_zero_of_eq_zero positive zero d (List.mem_reverse.mpr mem)
  · intro all
    have zeros : digits.reverse = List.replicate digits.length 0 := by
      rw [List.eq_replicate_iff]
      exact ⟨List.length_reverse, fun d mem => all d (List.mem_reverse.mp mem)⟩
    rw [zeros, Nat.ofDigits_replicate_zero]

section

variable (octal : literal.base = .octal)
include octal

theorem first_of_octal : literal.first = '0' := by
  simpa [octal, Base.leading] using literal.first_mem

theorem mem_decimal_of_octal {c : Char} (mem : c ∈ literal.digits) : c ∈ Base.decimal.digits :=
  (by decide : Base.octal.digits ⊆ Base.decimal.digits) (octal ▸ literal.digits_mem mem)

theorem baseMark?_octal : Integer.baseMark? literal.digits = none := by
  rw [digits, literal.first_of_octal octal]
  rcases shape : literal.others.map (·.2) with _ | ⟨second, rest⟩
  · rw [shape]
    rfl
  · have held : second ∈ Base.octal.digits :=
      octal ▸ literal.digits_mem (List.mem_cons_of_mem _ (by simp [shape]))
    have all : Base.octal.digits.all fun c => ['x', 'X', 'o', 'O', 'b', 'B'].all (c != ·) := by
      decide
    have apart := List.all_eq_true.mp all second held
    simp_all [Integer.baseMark?]

theorem readDigits_long (long : Integer.digitLimit < literal.digits.length) :
    Integer.readDigits 10 literal.digits = .error (.tooLong literal.digits.length) := by
  have run := @digitRun_of_mem .decimal _ fun _ => literal.mem_decimal_of_octal octal
  simp only [Base.radix] at run
  have start : (literal.digits.head? == some '_') = false := by
    simp [digits, literal.first_of_octal octal]
  simp [Integer.readDigits, start, run, long]

theorem readMarked_octal :
    (Integer.readMarked (literal.mark ++ literal.digits)).toOption =
      if literal.value = 0 ∧ literal.digits.length ≤ Integer.digitLimit then some 0 else none := by
  have mark_eq : literal.mark = [] := by simpa [octal, Base.marks] using literal.mark_mem
  rw [mark_eq, List.nil_append, Integer.readMarked, literal.baseMark?_octal octal]
  by_cases short : literal.digits.length ≤ Integer.digitLimit
  · have run : Integer.readDigits 10 literal.digits = .ok (literal.digits.map digitValue) :=
      @readDigits_of_mem .decimal _ (fun _ => literal.mem_decimal_of_octal octal)
        (List.cons_ne_nil _ _) fun _ => short
    have zero_iff :
        Integer.ofDigits 10 (literal.digits.map digitValue) = 0 ↔ literal.value = 0 := by
      rw [← literal.ofDigits_digits, octal, ofDigits_eq_zero_iff (by decide),
        ofDigits_eq_zero_iff (by decide)]
    by_cases zero : literal.value = 0
    · simp [run, bind, Except.bind, zero_iff.mpr zero, zero, short]
      rfl
    · have head : (literal.digits.head? == some '0') = true := by
        simp [digits, literal.first_of_octal octal]
      simp [run, bind, Except.bind, head, mt zero_iff.mp zero, zero]
      rfl
  · simp [literal.readDigits_long octal (Nat.lt_of_not_le short), bind, Except.bind, short]
    rfl

end

/-- All but octal literals are read as their values without a look at their first digit. -/
theorem readMarked_of_ne_octal (other : literal.base ≠ .octal)
    (short : literal.base = .decimal → literal.digits.length ≤ Integer.digitLimit) :
    Integer.readMarked (literal.mark ++ literal.digits) = .ok literal.value := by
  have mark_mem := literal.mark_mem
  cases base : literal.base with
  | octal => exact absurd base other
  | decimal => exact literal.readMarked_decimal base short
  | binary =>
    have radix : literal.base.radix = 2 := by rw [base, Base.radix]
    simp only [base, Base.marks, List.mem_cons, List.not_mem_nil, or_false] at mark_mem
    rcases mark_mem with mark_eq | mark_eq <;>
      exact literal.readMarked_marked mark_eq (fun _ => radix ▸ rfl) short
  | hexadecimal =>
    have radix : literal.base.radix = 16 := by rw [base, Base.radix]
    simp only [base, Base.marks, List.mem_cons, List.not_mem_nil, or_false] at mark_mem
    rcases mark_mem with mark_eq | mark_eq <;>
      exact literal.readMarked_marked mark_eq (fun _ => radix ▸ rfl) short

end Spelling

/-- A literal with a sign before it is read as the negated value, except for octal literals: of
these only zeros are read. -/
theorem value?_negatedText_eq (literal : Spelling)
    (short : literal.base = .decimal → literal.digits.length ≤ Integer.digitLimit) :
    value? literal.negatedText =
      if literal.base = .octal → literal.value = 0 ∧ literal.digits.length ≤ Integer.digitLimit
      then some (-(literal.value : Int)) else none := by
  rw [literal.value?_negatedText]
  by_cases octal : literal.base = .octal
  · rw [literal.readMarked_octal octal]
    by_cases readable : literal.value = 0 ∧ literal.digits.length ≤ Integer.digitLimit <;>
      simp [octal, readable]
  · rw [literal.readMarked_of_ne_octal octal short, if_pos fun same => absurd same octal]
    rfl

end IntegerLiteral

/-! ## Arguments with a minus sign -/

namespace SyntaxNode

structure IsNumber (node : SyntaxNode) (text : CodeText) : Prop where
  kind : node.kind = "number_literal"
  text_eq : node.text = .ok text

structure IsNegation (node operand : SyntaxNode) : Prop where
  kind : node.kind = "unary_expression"
  sign : textOf (node.child? "operator") = .ok "-"
  operand : node.child? "argument" = some operand

theorem IsNumber.literal_eq {node : SyntaxNode} {text : CodeText} (number : node.IsNumber text) :
    node.literal = .ok (match IntegerLiteral.value? text with
      | some value => integerLiteral value
      | none => ⟨"float", .text text⟩) := by
  rw [literal]
  simp only [number.kind, number.text_eq, bind, Except.bind]
  rcases IntegerLiteral.value? text with _ | value <;> rfl

theorem IsNegation.literal_eq {node operand : SyntaxNode} {value : Int}
    (negation : node.IsNegation operand) (read : operand.literal = .ok (integerLiteral value)) :
    node.literal = .ok (integerLiteral (-value)) := by
  rw [literal_unary negation.kind negation.operand, negation.sign, read]
  rfl

/-- A minus sign in front of an integer literal negates its value.  As a part of the number it
does the same unless the literal is octal: of these only zeros are integers, and only those with
as many digits as a decimal number may have. -/
theorem negatedNumber_agrees_iff (spelling : IntegerLiteral.Spelling)
    (short : spelling.base = .decimal → spelling.digits.length ≤ Integer.digitLimit)
    {number operand negation : SyntaxNode} (signed : number.IsNumber spelling.negatedText)
    (unsigned : operand.IsNumber spelling.text) (negates : negation.IsNegation operand) :
    negation.literal = .ok (integerLiteral (-(spelling.value : Int))) ∧
      (number.literal = negation.literal ↔
        (spelling.base = .octal → spelling.value = 0 ∧
          spelling.digits.length ≤ Integer.digitLimit)) := by
  have value : operand.literal = .ok (integerLiteral spelling.value) := by
    rw [unsigned.literal_eq, IntegerLiteral.value?_text spelling short]
  have negated := negates.literal_eq value
  refine ⟨negated, ?_⟩
  rw [negated, signed.literal_eq, IntegerLiteral.value?_negatedText_eq spelling short]
  by_cases agrees : spelling.base = .octal → spelling.value = 0 ∧
      spelling.digits.length ≤ Integer.digitLimit
  · rw [if_pos agrees]
    exact iff_of_true rfl agrees
  · rw [if_neg agrees]
    exact iff_of_false nofun agrees

def numberNode (field : String) (bytes : List UInt8) : SyntaxNode :=
  .mk { kind := "number_literal", field, named := true, bytes := some bytes } []

def negationNode (bytes : List UInt8) : SyntaxNode :=
  .mk { kind := "unary_expression", named := true }
    [.mk { kind := "-", field := "operator", bytes := some [45] } [], numberNode "argument" bytes]

theorem negationNode_negates (bytes : List UInt8) :
    (negationNode bytes).IsNegation (numberNode "argument" bytes) :=
  ⟨rfl, rfl, rfl⟩

/-- The literal `0x1'Fu`. -/
def separatedHexadecimal : IntegerLiteral.Spelling where
  base := .hexadecimal
  mark := ['0', 'x']
  first := '1'
  others := [(true, 'F')]
  suffix := ['u']

theorem separatedHexadecimal_agrees :
    let signed := numberNode "" [45, 48, 120, 49, 39, 70, 117]
    let negation := negationNode [48, 120, 49, 39, 70, 117]
    signed.IsNumber separatedHexadecimal.negatedText ∧
      negation.literal = .ok (integerLiteral (-31)) ∧ signed.literal = negation.literal := by
  have signed : (numberNode "" [45, 48, 120, 49, 39, 70, 117]).IsNumber
      separatedHexadecimal.negatedText := ⟨rfl, by decide +kernel⟩
  have unsigned : (numberNode "argument" [48, 120, 49, 39, 70, 117]).IsNumber
      separatedHexadecimal.text := ⟨rfl, by decide +kernel⟩
  obtain ⟨negated, agrees⟩ := negatedNumber_agrees_iff separatedHexadecimal nofun signed unsigned
    (negationNode_negates _)
  exact ⟨signed, negated, agrees.mpr nofun⟩

/-- The octal literal `017` is 15, but with its sign it is no integer. -/
theorem signedOctal_disagrees :
    let signed := numberNode "" [45, 48, 49, 55]
    let negation := negationNode [48, 49, 55]
    negation.literal = .ok (integerLiteral (-15)) ∧
      signed.literal = .ok ⟨"float", .text "-017"⟩ ∧ signed.literal ≠ negation.literal := by
  have unsigned : (numberNode "argument" [48, 49, 55]).literal = .ok (integerLiteral 15) := by
    rw [@IsNumber.literal_eq _ "017" ⟨rfl, by decide +kernel⟩]
    decide +kernel
  have signed : (numberNode "" [45, 48, 49, 55]).literal = .ok ⟨"float", .text "-017"⟩ := by
    rw [@IsNumber.literal_eq _ "-017" ⟨rfl, by decide +kernel⟩]
    decide +kernel
  have negated := (negationNode_negates _).literal_eq unsigned
  refine ⟨negated, signed, ?_⟩
  rw [negated, signed]
  nofun

end SyntaxNode

end TypeCatalog
