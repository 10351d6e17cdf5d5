import Mathlib.Data.Nat.Bits
import TypeCatalog.Proofs.LiteralValues
import TypeCatalog.Proofs.SourceExpansion

/-!
# Literals as the arguments of a tag

The arguments of a tag are string, character and integer literals.  The scan
for the closing parenthesis takes a digit separator for the mark of a literal,
so it gets through integers whose separators come in pairs; it knows nothing of
raw literals, so it gets through those without a double quote.  With such
arguments an invocation becomes the attribute with the same arguments.
-/

namespace TypeCatalog.Expansion

open Text

/-! ## Literals -/

def encodings : List CodeText := ["", "u8", "u", "U", "L"]

structure QuotedLiteral where
  encoding : CodeText := ""
  mark : CodePoint := '"'
  body : CodeText
  encoding_mem : encoding ∈ encodings := by decide
  isMark : IsMark mark := by decide
  quoted : Quoted mark body

def QuotedLiteral.text (literal : QuotedLiteral) : CodeText :=
  literal.encoding ++ literal.mark :: (literal.body ++ [literal.mark])

structure RawLiteral where
  encoding : CodeText := ""
  delimiter : CodeText := ""
  content : CodeText
  encoding_mem : encoding ∈ encodings := by decide
  delimiter_plain : ∀ c ∈ delimiter, c ∉ ([' ', '(', ')', '\\'] : List CodePoint) := by decide
  content_open : hasInfix (.scalar ')' :: (delimiter ++ [.scalar '"'])) content = false := by decide

namespace RawLiteral

def inside (literal : RawLiteral) : CodeText :=
  literal.delimiter ++ .scalar '(' :: (literal.content ++ .scalar ')' :: literal.delimiter)

def text (literal : RawLiteral) : CodeText :=
  literal.encoding ++ .scalar 'R' :: .scalar '"' :: (literal.inside ++ [.scalar '"'])

end RawLiteral

inductive Argument where
  | quoted (literal : QuotedLiteral)
  | raw (literal : RawLiteral)
  | integer (literal : IntegerLiteral.Spelling)

def Argument.text : Argument → CodeText
  | quoted literal => literal.text
  | raw literal => literal.text
  | integer literal => literal.text

structure PlacedArgument where
  before : CodeText := []
  argument : Argument
  after : CodeText := []
  before_blank : ∀ c ∈ before, c.isBlank = true := by decide
  after_blank : ∀ c ∈ after, c.isBlank = true := by decide

def PlacedArgument.text (placed : PlacedArgument) : CodeText :=
  placed.before ++ (placed.argument.text ++ placed.after)

def argumentsText (arguments : List PlacedArgument) : CodeText :=
  joinWith "," (arguments.map (·.text))

/-- Digit separators come in pairs, with no other literal than integers between the two, and raw
literals have no double quote inside.  The Boolean says that a separator waits for the other one. -/
def ArePaired : Bool → List Argument → Prop
  | isOpen, [] => isOpen = false
  | isOpen, .quoted _ :: rest => isOpen = false ∧ ArePaired false rest
  | isOpen, .raw literal :: rest =>
    isOpen = false ∧ .scalar '"' ∉ literal.inside ∧ ArePaired false rest
  | isOpen, .integer literal :: rest =>
    ArePaired (isOpen ^^ (literal.text.count (.scalar '\'')).bodd) rest

/-! ## The scan through literals -/

def IsCalm (c : CodePoint) : Prop :=
  c ≠ '(' ∧ c ≠ ')' ∧ ¬IsMark c ∧ c ≠ '\\'

instance (c : CodePoint) : Decidable (IsMark c) :=
  inferInstanceAs (Decidable (_ ∨ _))

instance (c : CodePoint) : Decidable (IsCalm c) :=
  inferInstanceAs (Decidable (_ ∧ _))

def separatorQuote (isOpen : Bool) : Option CodePoint :=
  if isOpen then some '\'' else none

theorem passes_calm {c : CodePoint} (calm : IsCalm c) (depth : Nat) (isOpen : Bool) :
    Passes depth (separatorQuote isOpen) [c] depth (separatorQuote isOpen) := by
  obtain ⟨opening, closing, mark, escape⟩ := calm
  cases isOpen with
  | false => exact passes_plain opening closing mark depth
  | true => exact (Quoted.plain (fun same => mark (.inr same)) escape .nil).passes depth

theorem passes_separator (depth : Nat) (isOpen : Bool) :
    Passes depth (separatorQuote isOpen) [.scalar '\''] depth (separatorQuote !isOpen) := by
  cases isOpen with
  | false => exact passes_mark (.inr rfl) depth
  | true =>
      intro rest
      simp [separatorQuote, closeParen_quoted]

theorem passes_separated {text : CodeText} (calm : ∀ c ∈ text, IsCalm c ∨ c = '\'')
    (depth : Nat) (isOpen : Bool) :
    Passes depth (separatorQuote isOpen) text depth
      (separatorQuote (isOpen ^^ (text.count (.scalar '\'')).bodd)) := by
  induction text generalizing isOpen with
  | nil => simpa using Passes.refl depth (separatorQuote isOpen)
  | cons c rest ih =>
      rw [List.forall_mem_cons] at calm
      obtain ⟨first, others⟩ := calm
      by_cases separator : c = '\''
      · subst separator
        have later := ih others !isOpen
        rw [List.count_cons_self, Nat.bodd_succ]
        rw [Bool.not_xor, ← Bool.xor_not] at later
        exact (passes_separator depth isOpen).cons later
      · have plain := first.resolve_right separator
        rw [List.count_cons_of_ne separator]
        exact (passes_calm plain depth isOpen).cons (ih others isOpen)

theorem passes_all_calm {text : CodeText} (calm : ∀ c ∈ text, IsCalm c) (depth : Nat)
    (isOpen : Bool) : Passes depth (separatorQuote isOpen) text depth (separatorQuote isOpen) := by
  have none_in : text.count (.scalar '\'') = 0 := by
    rw [List.count_eq_zero]
    exact fun mem => absurd (calm _ mem) (by decide)
  simpa [none_in] using passes_separated (fun c mem => .inl (calm c mem)) depth isOpen

theorem calm_of_isBlank {c : CodePoint} (blank : c.isBlank = true) : IsCalm c := by
  have ne (d : CodePoint) (visible : d.isBlank = false) : c ≠ d := by
    rintro rfl
    rw [visible] at blank
    cases blank
  exact ⟨ne _ (by decide), ne _ (by decide), not_or.mpr ⟨ne _ (by decide), ne _ (by decide)⟩,
    ne _ (by decide)⟩

theorem calm_of_mem_encodings :
    ∀ encoding ∈ encodings, ∀ c ∈ encoding, IsCalm c := by
  decide

theorem quoted_of_notMem {mark : CodePoint} {text : CodeText} (absent : mark ∉ text)
    (ends : text.getLast? ≠ some (.scalar '\\')) : Quoted mark text := by
  match text with
  | [] => exact .nil
  | c :: rest =>
      have tail_absent : mark ∉ rest := fun mem => absent (List.mem_cons_of_mem _ mem)
      have different : c ≠ mark := fun same => absent (same ▸ List.mem_cons_self)
      by_cases escape : c = '\\'
      · subst escape
        match rest with
        | [] => exact absurd rfl ends
        | d :: more =>
            have absent_in_more : mark ∉ more := fun mem => tail_absent (List.mem_cons_of_mem _ mem)
            refine .escaped d (quoted_of_notMem absent_in_more fun last => ends ?_)
            simp [List.getLast?_cons, last]
      · refine .plain different escape (quoted_of_notMem tail_absent fun last => ends ?_)
        simp [List.getLast?_cons, last]

theorem QuotedLiteral.passes (literal : QuotedLiteral) (depth : Nat) :
    Passes depth none literal.text depth none :=
  (passes_all_calm (calm_of_mem_encodings _ literal.encoding_mem) depth false).append
    (passes_literal literal.isMark literal.quoted depth)

theorem RawLiteral.passes (literal : RawLiteral) (plain : .scalar '"' ∉ literal.inside)
    (depth : Nat) : Passes depth none literal.text depth none := by
  have ends : literal.inside.getLast? ≠ some (.scalar '\\') := by
    intro last
    rw [inside, List.getLast?_append, List.getLast?_cons, List.getLast?_append,
      List.getLast?_cons] at last
    cases found : literal.delimiter.getLast? with
    | none => simp [found] at last
    | some c =>
        have usual := literal.delimiter_plain c (List.mem_of_getLast? found)
        simp_all
  have rest : Passes depth none (.scalar 'R' :: .scalar '"' :: (literal.inside ++ [.scalar '"']))
      depth none :=
    (passes_calm (by decide) depth false).cons
      (passes_literal (.inl rfl) (quoted_of_notMem plain ends) depth)
  exact (passes_all_calm (calm_of_mem_encodings _ literal.encoding_mem) depth false).append rest

theorem integer_passes (literal : IntegerLiteral.Spelling) (depth : Nat) (isOpen : Bool) :
    Passes depth (separatorQuote isOpen) literal.text depth
      (separatorQuote (isOpen ^^ (literal.text.count (.scalar '\'')).bodd)) := by
  refine passes_separated (fun point mem => ?_) depth isOpen
  obtain ⟨c, held, rfl⟩ := List.mem_map.mp mem
  exact literal.chars_forall (p := fun c => IsCalm (.scalar c) ∨ CodePoint.scalar c = .scalar '\'')
    (by decide) (.inr rfl) (by decide) held

theorem exists_passes {isOpen : Bool} {argument : Argument} {rest : List Argument}
    (paired : ArePaired isOpen (argument :: rest)) (depth : Nat) :
    ∃ later, Passes depth (separatorQuote isOpen) argument.text depth (separatorQuote later) ∧
      ArePaired later rest := by
  cases argument with
  | quoted literal =>
      obtain ⟨rfl, others⟩ := paired
      exact ⟨false, literal.passes depth, others⟩
  | raw literal =>
      obtain ⟨rfl, plain, others⟩ := paired
      exact ⟨false, literal.passes plain depth, others⟩
  | integer literal => exact ⟨_, integer_passes literal depth isOpen, paired⟩

theorem passes_arguments {isOpen : Bool} {arguments : List PlacedArgument}
    (paired : ArePaired isOpen (arguments.map (·.argument))) (depth : Nat) :
    Passes depth (separatorQuote isOpen) (argumentsText arguments) depth none := by
  induction arguments generalizing isOpen with
  | nil =>
      obtain rfl : isOpen = false := paired
      exact .refl _ _
  | cons placed rest ih =>
      obtain ⟨later, passes, others⟩ := exists_passes paired depth
      have first : Passes depth (separatorQuote isOpen) placed.text depth (separatorQuote later) :=
        (passes_all_calm (fun c mem => calm_of_isBlank (placed.before_blank c mem)) depth _).append
          (passes.append
            (passes_all_calm (fun c mem => calm_of_isBlank (placed.after_blank c mem)) depth _))
      have remaining := ih others
      cases rest with
      | nil =>
          obtain rfl : later = false := others
          exact first
      | cons next rest =>
          have comma : Passes depth (separatorQuote later) [.scalar ','] depth
              (separatorQuote later) := passes_calm (by decide) depth later
          exact (first.append comma).append remaining

theorem enclosed_arguments {arguments : List PlacedArgument}
    (paired : ArePaired false (arguments.map (·.argument))) :
    Enclosed (argumentsText arguments) := by
  have passes : Passes 1 none (argumentsText arguments) 1 none := passes_arguments paired 1
  have read : closeParen 1 none (argumentsText arguments ++ [.scalar ')']) =
      some (argumentsText arguments, []) := by
    rw [passes]
    simp [closeParen, ahead]
  exact (closeParen_eq_some_iff.mp read).1

/-! ## The first invocation of a line -/

def IsWord (name : CodeText) : Prop :=
  name ≠ [] ∧ ∀ c ∈ name, c.isWordChar = true

theorem Defines.isWord {line name body : CodeText} (defines : Defines line name body) :
    IsWord name := by
  obtain ⟨first, head, -⟩ := defines.start
  refine ⟨?_, defines.word⟩
  rintro rfl
  cases head

theorem IsWord.exists_cons {name : CodeText} (word : IsWord name) :
    ∃ c rest, name = c :: rest ∧ c.isWordChar = true := by
  obtain ⟨c, rest, rfl⟩ := List.exists_cons_of_ne_nil word.1
  exact ⟨c, rest, rfl, word.2 c List.mem_cons_self⟩

theorem blanks_stop_word {blanks : CodeText} (blank : ∀ c ∈ blanks, c.isBlank = true)
    (opened : CodeText) :
    (blanks ++ .scalar '(' :: opened).takeWhile CodePoint.isWordChar = [] := by
  cases blanks with
  | nil => exact List.takeWhile_cons_of_neg (by decide)
  | cons c rest =>
      exact List.takeWhile_cons_of_neg (by simp [isWordChar_of_isBlank (blank c (by simp))])

theorem Invokes.word_unique {previous : Option CodePoint} {text name other opened behind : CodeText}
    (invokes : Invokes previous text name opened) (again : Invokes previous text other behind)
    (word : IsWord name) (word' : IsWord other) : name = other := by
  have word_eq {name opened : CodeText} (invokes : Invokes previous text name opened)
      (word : IsWord name) : text.takeWhile CodePoint.isWordChar = name := by
    obtain ⟨blanks, blank, rfl⟩ := invokes.spelled
    rw [List.takeWhile_append_of_pos word.2, blanks_stop_word blank, List.append_nil]
  rw [← word_eq invokes word, word_eq again word']

theorem Invokes.before_word {previous : Option CodePoint} {back name other opened tail : CodeText}
    (invokes : Invokes previous (back ++ (name ++ tail)) other opened) (word : IsWord name)
    (word' : IsWord other) (proper : back ≠ [])
    (apart : back.getLast?.any CodePoint.isWordChar = false) :
    ∃ behind, Invokes previous back other behind := by
  obtain ⟨blanks, blank, text_eq⟩ := invokes.spelled
  obtain ⟨first, more, rfl, first_word⟩ := word.exists_cons
  have no_opening : first ≠ '(' := by
    rintro rfl
    exact absurd first_word (by decide)
  rw [← List.append_assoc other, List.append_eq_append_iff] at text_eq
  rcases text_eq with ⟨left, left_eq, right_eq⟩ | ⟨left, left_eq, right_eq⟩
  · -- The parenthesis would stand behind the first character of the word, which is in the way.
    cases left with
    | nil => exact absurd (List.cons.inj right_eq).1 no_opening
    | cons d others =>
        obtain rfl : first = d := (List.cons.inj right_eq).1
        rcases List.append_eq_append_iff.mp left_eq with ⟨gap, -, gap_eq⟩ | ⟨gap, gap_eq, -⟩
        · have mem : first ∈ blanks := by simp [gap_eq]
          rw [isWordChar_of_isBlank (blank first mem)] at first_word
          cases first_word
        · have ends := List.getLast?_eq_some_getLast proper
          have inside : back.getLast proper ∈ other := by simp [gap_eq]
          rw [ends, Option.any_some, word'.2 _ inside] at apart
          cases apart
  · cases left with
    | nil => exact absurd (List.cons.inj right_eq).1.symm no_opening
    | cons d behind =>
        obtain rfl : CodePoint.scalar '(' = d := (List.cons.inj right_eq).1
        refine ⟨behind, ?_, blanks, blank, by rw [left_eq, List.append_assoc]⟩
        rw [← List.head?_append_of_ne_nil _ proper]
        exact invokes.boundary

theorem isFree_of_not_occurs {names : List CodeText} {before name : CodeText}
    (words : ∀ other ∈ names, IsWord other) (word : IsWord name)
    (apart : before.getLast?.any CodePoint.isWordChar = false)
    (free : ∀ other ∈ names, ¬Occurs [other] before) (tail : CodeText) {front back : CodeText}
    (split : before = front ++ back) (proper : back ≠ []) :
    IsFree names front.getLast? (back ++ (name ++ tail)) := by
  intro other mem opened invokes
  have back_apart : back.getLast?.any CodePoint.isWordChar = false := by
    rw [split, List.getLast?_append_of_ne_nil _ proper] at apart
    exact apart
  obtain ⟨behind, earlier⟩ := invokes.before_word word (words other mem) proper back_apart
  exact free other mem ⟨front, back, split, other, List.mem_singleton_self _, behind, earlier⟩

theorem Rewritten.prepend {tags : List CodeText} {bodies : List (CodeText × CodeText)}
    {before text expanded : CodeText} {previous : Option CodePoint}
    (rewritten : Rewritten tags bodies (before.getLast?.or previous) text expanded)
    (free : ∀ front back, before = front ++ back → back ≠ [] →
      IsFree tags (front.getLast?.or previous) (back ++ text) ∧
        IsFree (bodies.map (·.1)) (front.getLast?.or previous) (back ++ text)) :
    Rewritten tags bodies previous (before ++ text) (before ++ expanded) := by
  induction before generalizing previous with
  | nil => exact rewritten
  | cons c before ih =>
      obtain ⟨freeTags, freeBodies⟩ := free [] (c :: before) rfl (List.cons_ne_nil _ _)
      refine .keep freeTags freeBodies (ih ?_ fun front back split proper => ?_)
      · rwa [getLast?_cons_or] at rewritten
      · have later := free (c :: front) back (by rw [split, List.cons_append]) proper
        rwa [getLast?_cons_or] at later

theorem Collects.rewritten_unique {names lines : List CodeText}
    {bodies : List (CodeText × CodeText)} (collects : Collects names lines bodies)
    {previous : Option CodePoint} {text expanded other : CodeText}
    (first : Rewritten names bodies previous text expanded)
    (second : Rewritten names bodies previous text other) : expanded = other :=
  ((holds_collected collects).rewritten_iff.mp first).symm.trans
    ((holds_collected collects).rewritten_iff.mp second)

theorem getElem?_of_becomes {tags : List CodeText} {bodies : List (CodeText × CodeText)}
    {lines outcome : List CodeText} (becomes : List.Forall₂ (Becomes tags bodies) lines outcome)
    {index : Nat} {line : CodeText} (found : lines[index]? = some line) :
    ∃ expanded, outcome[index]? = some expanded ∧ Becomes tags bodies line expanded := by
  obtain ⟨within, rfl⟩ := List.getElem?_eq_some_iff.mp found
  have within' : index < outcome.length := becomes.length_eq ▸ within
  exact ⟨outcome[index], List.getElem?_eq_getElem within', becomes.get within within'⟩

theorem Leads.of_word {names : List CodeText} {previous : Option CodePoint}
    {text name opened : CodeText} (words : ∀ other ∈ names, IsWord other) (mem : name ∈ names)
    (invokes : Invokes previous text name opened) : Leads names previous text name opened where
  mem := mem
  invokes := invokes
  longest other held _ again :=
    Nat.le_of_eq (congrArg List.length (again.word_unique invokes (words other held)
      (words name mem)))

/-- The first invocation of a tag macro in a line, with literals as its arguments, becomes the
attribute with the same arguments. -/
theorem expand_literalArguments (names : List CodeText) (source : CodeText) (index : Nat)
    (before name rest : CodeText) (arguments : List PlacedArgument)
    (line_eq : (splitOn (.scalar '\n') source)[index]? =
      some (before ++ (name ++ .scalar '(' :: (argumentsText arguments ++ .scalar ')' :: rest))))
    (ordinary : isDirective
      (before ++ (name ++ .scalar '(' :: (argumentsText arguments ++ .scalar ')' :: rest))) = false)
    (words : ∀ other ∈ names, IsWord other) (configured : name ∈ names)
    (unaliased : ¬IsAlias names (splitOn (.scalar '\n') source) name)
    (boundary : isBoundary before.getLast? name.head? = true)
    (first : ∀ other, other ∈ names ∨ IsAlias names (splitOn (.scalar '\n') source) other →
      ¬Occurs [other] before)
    (paired : ArePaired false (arguments.map (·.argument))) :
    ∃ bodies expanded, Collects names (splitOn (.scalar '\n') source) bodies ∧
      Rewritten names bodies (some ')') rest expanded ∧
      (splitOn (.scalar '\n') (expand names source).1)[index]? =
        some (before ++
          (("[[" ++ tagAttribute ++ "(" ++ argumentsText arguments ++ ")]]") ++ expanded)) := by
  obtain ⟨bodies, collects, becomes⟩ := exists_becomes names source
  have word := words name configured
  obtain ⟨c, more, name_eq, c_word⟩ := word.exists_cons
  have apart : before.getLast?.any CodePoint.isWordChar = false := by
    simpa [isBoundary, name_eq, c_word] using boundary
  have key_words : ∀ other ∈ bodies.map (·.1), IsWord other := by
    intro other mem
    obtain ⟨_, _, _, defines, -⟩ := collects.mem_keys_iff.mp mem
    exact defines.isWord
  have invokes : Invokes before.getLast?
      (name ++ ([] ++ .scalar '(' :: (argumentsText arguments ++ .scalar ')' :: rest))) name
      (argumentsText arguments ++ .scalar ')' :: rest) := by
    refine ⟨?_, [], by simp, rfl⟩
    rwa [List.head?_append_of_ne_nil _ word.1]
  have rewritten_rest := (holds_collected collects).rewritten (some ')') rest
  have replaced := Rewritten.replace (.tag (.of_word words configured invokes))
    (enclosed_arguments paired) (.tag fun mem => unaliased (collects.mem_keys_iff.mp mem))
    rewritten_rest
  have free_tags := isFree_of_not_occurs words word apart fun other mem => first other (.inl mem)
  have free_keys := isFree_of_not_occurs key_words word apart fun other mem =>
    first other (.inr (collects.mem_keys_iff.mp mem))
  rw [← Option.or_none (o := before.getLast?)] at replaced
  have whole := replaced.prepend fun front back split proper => by
    rw [Option.or_none]
    exact ⟨free_tags _ split proper, free_keys _ split proper⟩
  obtain ⟨outcome, found, becomes⟩ := getElem?_of_becomes becomes line_eq
  cases becomes with
  | directive directive => rw [ordinary] at directive; cases directive
  | rewritten _ rewritten =>
      rw [collects.rewritten_unique rewritten whole] at found
      exact ⟨bodies, _, collects, rewritten_rest, found⟩

/-- The arguments of `COMPEX_TAG("a)\"", 1'000'000ull, ')', R"x(b))x")`. -/
def mixedArguments : List PlacedArgument := [
  { argument := .quoted
      { body := [.scalar 'a', .scalar ')', .scalar '\\', .scalar '"']
        quoted := .plain (by decide) (by decide) (.plain (by decide) (by decide)
          (.escaped _ .nil)) } },
  { before := " ", argument := .integer IntegerLiteral.separatedMillion },
  { before := " ", argument := .quoted
      { mark := '\'', body := [.scalar ')'], quoted := .plain (by decide) (by decide) .nil } },
  { before := " ", argument := .raw { delimiter := "x", content := "b)" } }]

def mixedLine : CodeText :=
  "struct " ++ ("COMPEX_TAG" ++ CodePoint.scalar '(' ::
    (argumentsText mixedArguments ++ CodePoint.scalar ')' :: " Foo \x7b\x7d;"))

theorem mixedLine_expanded :
    mixedLine = "struct COMPEX_TAG(\"a)\\\"\", 1'000'000ull, ')', R\"x(b))x\") Foo \x7b\x7d;" ∧
      ArePaired false (mixedArguments.map (·.argument)) ∧
      ∃ bodies expanded, Collects defaultNames (splitOn (.scalar '\n') mixedLine) bodies ∧
        Rewritten defaultNames bodies (some ')') " Foo \x7b\x7d;" expanded ∧
        (splitOn (.scalar '\n') (expand defaultNames mixedLine).1)[0]? =
          some ("struct " ++
            (("[[" ++ tagAttribute ++ "(" ++ argumentsText mixedArguments ++ ")]]") ++
              expanded)) := by
  have no_alias (other : CodeText) :
      ¬IsAlias defaultNames (splitOn (.scalar '\n') mixedLine) other := by
    have lines : splitOn (.scalar '\n') mixedLine = [mixedLine] := by decide +kernel
    rw [lines, isAlias_singleton]
    rintro ⟨body, defines, -⟩
    have undefined : definition? mixedLine = none := by decide +kernel
    rw [defines.definition?_eq] at undefined
    cases undefined
  have words : ∀ other ∈ defaultNames, IsWord other := by
    unfold IsWord
    decide +kernel
  have paired : ArePaired false (mixedArguments.map (·.argument)) :=
    ⟨rfl, rfl, rfl, by decide +kernel, rfl⟩
  refine ⟨by decide +kernel, paired, expand_literalArguments defaultNames mixedLine 0 "struct "
    "COMPEX_TAG" " Foo \x7b\x7d;" mixedArguments (by decide +kernel) (by decide +kernel) words
    (by decide) (no_alias _) (by decide +kernel) ?_ paired⟩
  rintro other (mem | known)
  · obtain rfl := List.mem_singleton.mp mem
    rw [← hasInvocation_eq_true_iff]
    decide +kernel
  · exact absurd known (no_alias other)

/-- The only separator of an integer opens a literal that nothing closes. -/
theorem expand_singleSeparator :
    (expand defaultNames "COMPEX_TAG(1'000) int x;").1 = "COMPEX_TAG(1'000) int x;" ∧
      (expand defaultNames "COMPEX_TAG(1'000) int x;").1 ≠ "[[compex::tag(1'000)]] int x;" := by
  decide +kernel

end TypeCatalog.Expansion
