import Mathlib.Data.List.Induction
import TypeCatalog.Proofs.LookingParts

/-!
# Member declarations with several declarators

A member declaration with several declarators reads like one declaration for
each of them, except for widths: the first width of the declaration counts for
its last declarator, and no other declarator is a bit-field.
-/

namespace TypeCatalog

open Text (CodeText)

/-! ## The children of a member declaration -/

/-- Kinds of nodes that say something about a declaration wherever they stand in it. -/
def speakingKinds : List String :=
  ["attribute_declaration", "delete_method_clause", "ERROR"] ++ specifierKinds

def specifierWords : List CodeText :=
  ["static", "virtual", "explicit", "constexpr", "consteval"]

namespace SyntaxNode

/-- Whether a child says something about all declarators of a declaration, or may do so because
its text cannot be read. -/
def speaks (node : SyntaxNode) : Bool :=
  node.isKind speakingKinds || node.data.field == "type" ||
    !node.isNamed && match node.text with
      | .ok text => specifierWords.contains text
      | .error _ => true

def isPart (node : SyntaxNode) : Bool :=
  node.data.field == "declarator" || node.kind == "bitfield_clause"

end SyntaxNode

structure DeclaratorNode where
  node : SyntaxNode
  field : node.data.field = "declarator"
  apart : node.kind ≠ "bitfield_clause"

def DeclaratorNode.isVirtual (declarator : DeclaratorNode) : Bool :=
  (declarator.node.descendant? "virtual_specifier").isSome

structure WidthNode where
  node : SyntaxNode
  kind : node.kind = "bitfield_clause"
  apart : node.data.field ≠ "declarator"

structure MemberPart where
  declarator : DeclaratorNode
  width : Option WidthNode := none

namespace MemberPart

def clause (part : MemberPart) : Option SyntaxNode :=
  part.width.map (·.node)

def nodes (part : MemberPart) : List SyntaxNode :=
  part.declarator.node :: part.clause.toList

/-- The parts with the first of their widths at the last of them, and no other width. -/
def widthAtEnd (parts : List MemberPart) : List MemberPart :=
  parts.dropLast.map ({ · with width := none }) ++
    parts.getLast?.toList.map ({ · with width := parts.findSome? (·.width) })

theorem widthAtEnd_single (part : MemberPart) : widthAtEnd [part] = [part] := by
  rcases part with ⟨declarator, _ | width⟩ <;> rfl

theorem widthAtEnd_eq_self {parts : List MemberPart}
    (plain : ∀ part ∈ parts.dropLast, part.width = none) : widthAtEnd parts = parts := by
  induction parts using List.reverseRecOn with
  | nil => rfl
  | append_singleton early last _ =>
      rw [List.dropLast_concat] at plain
      have unsized : early.findSome? (·.width) = none := List.findSome?_eq_none_iff.mpr plain
      have kept : early.map ({ · with width := none }) = early := by
        conv_rhs => rw [← List.map_id early]
        refine List.map_congr_left fun part listed => ?_
        rw [← plain part listed]
        rfl
      have moved : (early ++ [last]).findSome? (·.width) = last.width := by
        rw [List.findSome?_append, unsized]
        cases width : last.width <;> simp [width]
      simp [widthAtEnd, kept, moved]

end MemberPart

structure MemberFrame where
  kind : String
  shared : List SyntaxNode
  declares : ["field_declaration", "declaration", "function_definition"].contains kind = true
  /-- No width is hidden in a syntax error. -/
  unsized : (SyntaxNode.mk { kind } (shared.filter (·.isError))).widthClause? = none
  typed : ∀ type, shared.find? (·.data.field == "type") = some type →
    type.isDefinedInPlace = false

namespace MemberFrame

def bare (frame : MemberFrame) : SyntaxNode :=
  .mk { kind := frame.kind } frame.shared

structure Declares (frame : MemberFrame) (parts : List MemberPart) (node : SyntaxNode) : Prop where
  kind : node.kind = frame.kind
  shared : node.children.filter (·.speaks) = frame.shared
  parts : node.children.filter (·.isPart) = parts.flatMap MemberPart.nodes

end MemberFrame

/-! ## What is read from the children -/

section Skipping

variable {α β : Type} {p : α → Bool} {items : List α}

theorem filter_filter_of_imp {q : α → Bool} (within : ∀ item, q item = true → p item = true) :
    (items.filter p).filter q = items.filter q := by
  rw [List.filter_filter]
  congr
  funext item
  cases holds : q item
  · rfl
  · simp [within item holds]

theorem find?_filter_of_imp {q : α → Bool} (within : ∀ item, q item = true → p item = true) :
    (items.filter p).find? q = items.find? q := by
  rw [← List.head?_filter, ← List.head?_filter, filter_filter_of_imp within]

theorem foldlM_filter_of_skips {step : β → α → Except ReadFault β}
    (skips : ∀ b item, p item = false → step b item = .ok b) (start : β) :
    (items.filter p).foldlM step start = items.foldlM step start := by
  induction items generalizing start with
  | nil => rfl
  | cons item rest ih =>
      cases kept : p item with
      | true => simp only [List.filter_cons_of_pos kept, List.foldlM_cons, ih]
      | false =>
          rw [List.filter_cons_of_neg (by simp [kept]), List.foldlM_cons, skips start item kept]
          exact ih start

theorem anyM_filter_of_skips {test : α → Except ReadFault Bool}
    (skips : ∀ item, p item = false → test item = .ok false) :
    (items.filter p).anyM test = items.anyM test := by
  induction items with
  | nil => rfl
  | cons item rest ih =>
      cases kept : p item with
      | true => simp only [List.filter_cons_of_pos kept, List.anyM, ih]
      | false =>
          rw [List.filter_cons_of_neg (by simp [kept]), List.anyM, skips item kept]
          exact ih

end Skipping

namespace SyntaxNode

variable {node : SyntaxNode}

theorem silent_isKind (silent : node.speaks = false) {kinds : List String}
    (listed : kinds ⊆ speakingKinds) : node.isKind kinds = false := by
  have unlisted : node.isKind speakingKinds = false := by
    simp only [speaks, Bool.or_eq_false_iff] at silent
    exact silent.1.1
  rw [isKind, List.contains_eq_mem, decide_eq_false_iff_not] at unlisted ⊢
  exact fun held => unlisted (listed held)

theorem silent_kind (silent : node.speaks = false) {kind : String} (listed : kind ∈ speakingKinds) :
    (node.kind == kind) = false := by
  have apart := silent_isKind silent (by simpa using listed : [kind] ⊆ speakingKinds)
  simpa [isKind] using apart

theorem silent_field (silent : node.speaks = false) : (node.data.field == "type") = false := by
  simp only [speaks, Bool.or_eq_false_iff] at silent
  exact silent.1.2

theorem silent_text (silent : node.speaks = false) (unnamed : node.isNamed = false) :
    ∃ text, node.text = .ok text ∧ ∀ word ∈ specifierWords, (text == word) = false := by
  simp only [speaks, unnamed, Bool.or_eq_false_iff, Bool.not_false, Bool.true_and] at silent
  cases read : node.text with
  | error fault => simp [read] at silent
  | ok text =>
      refine ⟨text, rfl, fun word listed => ?_⟩
      have apart : text ∉ specifierWords := by simpa [read] using silent.2
      exact beq_false_of_ne fun same => apart (same ▸ listed)

theorem addSpecifier_silent {isMethod : Bool} (flags : FunctionTraits)
    (silent : node.speaks = false) :
    FunctionTraits.addSpecifier isMethod flags node = .ok flags := by
  have kept := silent_kind silent (by decide : "delete_method_clause" ∈ speakingKinds)
  have plain := silent_isKind silent (List.subset_append_right _ specifierKinds)
  have implicit := silent_kind silent (by decide : "explicit_function_specifier" ∈ speakingKinds)
  unfold FunctionTraits.addSpecifier
  cases named : node.isNamed with
  | true =>
      simp only [kept, plain, Bool.false_eq_true, ↓reduceIte, Bool.not_false, Bool.and_self]
      rfl
  | false =>
      obtain ⟨text, read, apart⟩ := silent_text silent named
      simp only [specifierWords, List.forall_mem_cons] at apart
      simp only [kept, read, implicit, apart, bind, Except.bind, Bool.false_eq_true, ↓reduceIte,
        Bool.false_and, Bool.or_self]
      rfl

theorem speaks_of_kind {kind : String} (listed : kind ∈ speakingKinds)
    (same : (node.kind == kind) = true) : node.speaks = true := by
  by_contra silent
  rw [silent_kind (eq_false_of_ne_true silent) listed] at same
  cases same

def virtualMark (child : SyntaxNode) : Except ReadFault Bool := do
  if child.isKind virtualKinds then return true
  if child.isNamed then return false
  return (← child.text) == .ofString "virtual"

theorem virtualMark_silent (silent : node.speaks = false) : node.virtualMark = .ok false := by
  have plain := silent_isKind silent (by decide : virtualKinds ⊆ speakingKinds)
  unfold virtualMark
  cases named : node.isNamed with
  | true =>
      simp only [plain, Bool.false_eq_true, ↓reduceIte]
      rfl
  | false =>
      obtain ⟨text, read, apart⟩ := silent_text silent named
      have word := apart "virtual" (by simp [specifierWords])
      simp only [plain, read, bind, Except.bind, Bool.false_eq_true, ↓reduceIte, word]
      rfl

end SyntaxNode

namespace MemberFrame.Declares

open SyntaxNode

variable {frame : MemberFrame} {parts : List MemberPart} {node : SyntaxNode}

theorem filter_eq (declared : frame.Declares parts node) {q : SyntaxNode → Bool}
    (heard : ∀ child : SyntaxNode, q child = true → child.speaks = true) :
    node.children.filter q = frame.shared.filter q := by
  rw [← declared.shared, filter_filter_of_imp heard]

theorem ofKind_eq (declared : frame.Declares parts node) {kind : String}
    (listed : kind ∈ speakingKinds) :
    node.children.filter (·.kind == kind) = frame.shared.filter (·.kind == kind) :=
  declared.filter_eq fun _ => speaks_of_kind listed

theorem attributes_eq (declared : frame.Declares parts node) :
    node.attributes = frame.bare.attributes := by
  rw [attributes, declared.ofKind_eq (by decide), attributes]
  rfl

theorem cvQualifiers_eq (declared : frame.Declares parts node) :
    node.cvQualifiers = frame.bare.cvQualifiers := by
  rw [cvQualifiers, declared.ofKind_eq (by decide), cvQualifiers]
  rfl

theorem hasStorageClass_eq (declared : frame.Declares parts node) (storage : CodeText) :
    node.hasStorageClass storage = frame.bare.hasStorageClass storage := by
  have listed : "storage_class_specifier" ∈ speakingKinds := by decide
  unfold hasStorageClass
  rw [bare, children, ← declared.shared, anyM_filter_of_skips]
  intro child silent
  simp only [silent_kind silent listed, Bool.false_eq_true, ↓reduceIte]
  rfl

theorem written_eq (declared : frame.Declares parts node) (isMethod : Bool)
    (function : SyntaxNode) :
    FunctionTraits.written isMethod node function =
      FunctionTraits.written isMethod frame.bare function := by
  unfold FunctionTraits.written
  rw [bare, children, ← declared.shared, foldlM_filter_of_skips]
  exact fun flags child => addSpecifier_silent flags

theorem type_eq (declared : frame.Declares parts node) :
    node.child? "type" = frame.bare.child? "type" := by
  rw [child?, child?, bare, children, ← declared.shared, find?_filter_of_imp]
  intro child typed
  by_contra silent
  rw [silent_field (eq_false_of_ne_true silent)] at typed
  cases typed

theorem isMemberDeclaration_eq (declared : frame.Declares parts node) :
    node.isMemberDeclaration = true := by
  rw [isMemberDeclaration, isKind, declared.kind]
  exact frame.declares

/-! The parts of a declaration. -/

theorem declarators_eq (declared : frame.Declares parts node) :
    node.childrenBy "declarator" = parts.map (·.declarator.node) := by
  have part (child : SyntaxNode) (held : (child.data.field == "declarator") = true) :
      child.isPart = true := by simp [isPart, held]
  rw [childrenBy, ← filter_filter_of_imp part, declared.parts]
  clear declared
  induction parts with
  | nil => rfl
  | cons part rest ih =>
      have other : part.clause.toList.filter (·.data.field == "declarator") = [] := by
        rcases part with ⟨_, _ | clause⟩
        · rfl
        · simp [MemberPart.clause, clause.apart]
      simp [MemberPart.nodes, part.declarator.field, other, ih]

theorem clause_eq (declared : frame.Declares parts node) :
    node.childOfKind? "bitfield_clause" = parts.findSome? (·.clause) := by
  have part (child : SyntaxNode) (held : (child.kind == "bitfield_clause") = true) :
      child.isPart = true := by simp [isPart, held]
  rw [childOfKind?, ← find?_filter_of_imp part, declared.parts]
  clear declared
  induction parts with
  | nil => rfl
  | cons part rest ih =>
      rw [List.flatMap_cons, List.find?_append, ih]
      rcases part with ⟨declarator, _ | clause⟩
      · simp [MemberPart.nodes, MemberPart.clause, declarator.apart]
      · simp [MemberPart.nodes, MemberPart.clause, declarator.apart, clause.kind]

theorem widthClause?_eq (declared : frame.Declares parts node) :
    node.widthClause? = parts.findSome? (·.clause) := by
  have errors : node.children.filter (·.isError) = frame.shared.filter (·.isError) :=
    declared.ofKind_eq (by decide)
  have unsized := (Option.or_eq_none_iff.mp frame.unsized).2
  rw [children, List.filter_filter] at unsized
  simp only [Bool.and_self] at unsized
  rw [widthClause?, declared.clause_eq, errors, unsized, Option.or_none]

theorem marksVirtual_eq (declared : frame.Declares parts node) :
    node.marksVirtual = (do
      let marked ← frame.shared.anyM virtualMark
      return marked || (parts.map (·.declarator)).any (·.isVirtual)) := by
  have marks : node.children.anyM virtualMark = frame.shared.anyM virtualMark := by
    rw [← declared.shared, anyM_filter_of_skips]
    exact fun child => virtualMark_silent
  rw [← marks, marksVirtual, declared.isMemberDeclaration_eq, declared.declarators_eq,
    List.any_map, List.any_map]
  rfl

end MemberFrame.Declares

/-! ## Reading a declaration part by part -/

namespace MemberPart

theorem map_declarator_widthAtEnd (parts : List MemberPart) :
    (widthAtEnd parts).map (·.declarator) = parts.map (·.declarator) := by
  induction parts using List.reverseRecOn with
  | nil => rfl
  | append_singleton early last _ => simp [widthAtEnd]

theorem widthAtEnd_ne_nil {parts : List MemberPart} (some : parts ≠ []) : widthAtEnd parts ≠ [] := by
  intro none
  have same := map_declarator_widthAtEnd parts
  rw [none] at same
  exact some (List.map_eq_nil_iff.mp same.symm)

theorem findSome?_clause (parts : List MemberPart) :
    parts.findSome? (·.clause) = (parts.findSome? (·.width)).map (·.node) := by
  induction parts with
  | nil => rfl
  | cons part rest ih =>
      rw [List.findSome?_cons, List.findSome?_cons, ih]
      cases width : part.width <;> simp [clause, width]

end MemberPart

structure SharedReading where
  type : SpecifiedType
  own : List Attribute
  cvQualifiers : CodeText
  isStatic : Bool

namespace SessionPart

variable {α β γ : Type} {file : CodeText} {types : KnownTypes} {scope : List CodeText}
  {className : Option CodeText} {frame : MemberFrame} {parts : List MemberPart}
  {member : SyntaxNode} {state : MemberState}

def readShared (scope : List CodeText) (member : SyntaxNode) : SessionPart SharedReading := do
  let type ← match member.child? "type" with
    | some type => readSpecifier scope type
    | none => pure { spelling := "" }
  let own ← member.attributes
  let cvQualifiers ← member.cvQualifiers
  let isStatic ← member.hasStorageClass "static"
  return { type, own, cvQualifiers, isStatic }

def readPart (scope : List CodeText) (className : Option CodeText) (member : SyntaxNode)
    (shared : SharedReading) (state : MemberState) (part : MemberPart) :
    SessionPart MemberState :=
  readDeclarator scope ⟨Text.proper? className, shared.cvQualifiers, shared.type⟩ member shared.own
    shared.isStatic part.clause state part.declarator.node

theorem readPart_looks (shared : SharedReading) (part : MemberPart) :
    Looks (readPart scope className member shared state part) :=
  readDeclarator_looks _ _ _ _ _ _ _

theorem readShared_looks (frame : MemberFrame) : Looks (readShared scope frame.bare) := by
  have rest (type : SpecifiedType) : Looks (do
      let own ← frame.bare.attributes
      let cvQualifiers ← frame.bare.cvQualifiers
      let isStatic ← frame.bare.hasStorageClass "static"
      return ({ type, own, cvQualifiers, isStatic } : SharedReading)) := by
    refine (Looks.reading _).bind fun own => (Looks.reading _).bind fun qualifiers => ?_
    exact (Looks.reading _).bind fun isStatic => .pure _
  unfold readShared
  cases found : frame.bare.child? "type" with
  | none => exact rest _
  | some type => exact (readSpecifier_looks (frame.typed type found)).bind rest

theorem readShared_gives (frame : MemberFrame) :
    Gives (readShared scope frame.bare) fun shared => shared.type.nested = [] := by
  have rest (type : SpecifiedType) (empty : type.nested = []) : Gives (do
      let own ← frame.bare.attributes
      let cvQualifiers ← frame.bare.cvQualifiers
      let isStatic ← frame.bare.hasStorageClass "static"
      return ({ type, own, cvQualifiers, isStatic } : SharedReading))
      fun shared => shared.type.nested = [] :=
    .after fun own => .after fun qualifiers => .after fun isStatic => .pure empty
  unfold readShared
  cases found : frame.bare.child? "type" with
  | none => exact rest _ rfl
  | some type => exact (readSpecifier_gives_none (frame.typed type found)).bind rest

theorem bind_congr_of_gives {part : SessionPart α} {next other : α → SessionPart β}
    {post : α → Prop} (gives : Gives part post) (same : ∀ a, post a → next a = other a) :
    part >>= next = part >>= other := by
  funext session
  change (part >>= next).run session = (part >>= other).run session
  rw [run_bind, run_bind]
  rcases ran : part.run session with ⟨fault | a, after⟩
  · rfl
  · dsimp only
    rw [same a (gives session a after ran)]

theorem readDeclarator_declared (declared : frame.Declares parts member)
    (context : FieldContext) :
    readDeclarator scope context member = readDeclarator scope context frame.bare := by
  have functions : function member = function frame.bare := by
    funext
    simp only [function, declared.written_eq, declared.attributes_eq]
  have kind : member.kind = frame.bare.kind := declared.kind
  funext
  simp only [readDeclarator, readMethod, functions, kind]

theorem readDeclarators_declared (declared : frame.Declares parts member) (some : parts ≠ [])
    (type : SpecifiedType) (state : MemberState) :
    readDeclarators scope className member type state = (do
      let own ← frame.bare.attributes
      let cvQualifiers ← frame.bare.cvQualifiers
      let isStatic ← frame.bare.hasStorageClass "static"
      (MemberPart.widthAtEnd parts).foldlM
        (readPart scope className frame.bare { type, own, cvQualifiers, isStatic })
        { state with nested := state.nested ++ type.nested }) := by
  unfold readDeclarators
  simp only [declared.attributes_eq, declared.cvQualifiers_eq, declared.hasStorageClass_eq,
    declared.widthClause?_eq, declared.declarators_eq, readDeclarator_declared declared,
    MemberPart.findSome?_clause]
  cases parts using List.reverseRecOn with
  | nil => exact absurd rfl some
  | append_singleton early last =>
      simp only [MemberPart.widthAtEnd, List.map_append, List.map_cons, List.map_nil,
        List.getLast?_concat, List.dropLast_concat, Option.toList_some, List.foldlM_append,
        List.foldlM_map, List.foldlM_cons, List.foldlM_nil, bind_pure]
      rfl

theorem readMember_declared (declared : frame.Declares parts member) (some : parts ≠ [])
    (state : MemberState) :
    readMember scope className state member = (do
      let shared ← readShared scope frame.bare
      (MemberPart.widthAtEnd parts).foldlM (readPart scope className frame.bare shared) state) := by
  have whole : readMember scope className state member = (do
      let shared ← readShared scope frame.bare
      (MemberPart.widthAtEnd parts).foldlM (readPart scope className frame.bare shared)
        { state with nested := state.nested ++ shared.type.nested }) := by
    rw [readMember, if_pos declared.isMemberDeclaration_eq, readShared]
    split
    · rename_i type found
      rw [← declared.type_eq, found]
      simp only [readDeclarators_declared declared some, bind_assoc, pure_bind]
    · rename_i missing
      rw [← declared.type_eq, missing]
      simp only [readDeclarators_declared declared some, bind_assoc, pure_bind]
  rw [whole]
  refine bind_congr_of_gives (readShared_gives frame) fun shared empty => ?_
  rw [empty, List.append_nil]

theorem foldlM_repeated {header : SessionPart α} {step : α → β → γ → SessionPart β} {a : α}
    (ran : header.ComesTo file types (.ok a) types) (steps : ∀ b item, Looks (step a b item))
    (items : List γ) (start : β) :
    ∃ result, (items.foldlM (step a) start).ComesTo file types result types ∧
      (items.foldlM (fun b item => do let a ← header; step a b item) start).ComesTo file types
        result types := by
  induction items generalizing start with
  | nil => exact ⟨.ok start, fun reports => ⟨reports, rfl⟩, fun reports => ⟨reports, rfl⟩⟩
  | cons item rest ih =>
      simp only [List.foldlM_cons]
      obtain ⟨result, went⟩ := steps start item file types
      cases result with
      | error fault => exact ⟨.error fault, went.fails, (ran.bind went).fails⟩
      | ok next =>
          obtain ⟨result, early, late⟩ := ih next
          exact ⟨result, went.bind early, (ran.bind went).bind late⟩

theorem foldlM_shared {header : SessionPart α} {step : α → β → γ → SessionPart β}
    (looks : Looks header) (steps : ∀ a b item, Looks (step a b item)) {items : List γ}
    (some : items ≠ []) (start : β) :
    ∃ result, (do let a ← header; items.foldlM (step a) start).ComesTo file types result types ∧
      (items.foldlM (fun b item => do let a ← header; step a b item) start).ComesTo file types
        result types := by
  obtain ⟨result, ran⟩ := looks file types
  cases result with
  | error fault =>
      cases items with
      | nil => exact absurd rfl some
      | cons item rest =>
          refine ⟨.error fault, ran.fails, ?_⟩
          rw [List.foldlM_cons]
          exact ran.fails.fails
  | ok a =>
      obtain ⟨result, early, late⟩ := foldlM_repeated ran (steps a) items start
      exact ⟨result, ran.bind early, late⟩

abbrev Singles (frame : MemberFrame) (parts : List MemberPart) (singles : List SyntaxNode) : Prop :=
  List.Forall₂ (fun part single => frame.Declares [part] single) parts singles

theorem foldlM_singles {singles : List SyntaxNode} (apart : Singles frame parts singles)
    (state : MemberState) :
    singles.foldlM (readMember scope className) state =
      parts.foldlM (fun state part => do
        let shared ← readShared scope frame.bare
        readPart scope className frame.bare shared state part) state := by
  induction apart generalizing state with
  | nil => rfl
  | cons declared _ ih =>
      simp only [List.foldlM_cons, readMember_declared declared (List.cons_ne_nil _ _),
        MemberPart.widthAtEnd_single, List.foldlM_nil, bind_pure, ih]

/-- A member declaration comes to the same as one for each declarator. -/
theorem readMember_apart {singles : List SyntaxNode} (declared : frame.Declares parts member)
    (some : parts ≠ []) (apart : Singles frame (MemberPart.widthAtEnd parts) singles)
    (state : MemberState) :
    ∃ result, (readMember scope className state member).ComesTo file types result types ∧
      (singles.foldlM (readMember scope className) state).ComesTo file types result types := by
  rw [readMember_declared declared some, foldlM_singles apart]
  exact foldlM_shared (readShared_looks frame) (fun _ _ _ => readPart_looks _ _)
    (MemberPart.widthAtEnd_ne_nil some) state

theorem anyM_singles {singles : List SyntaxNode} (apart : Singles frame parts singles)
    (some : parts ≠ []) :
    singles.anyM SyntaxNode.marksVirtual = (do
      let marked ← frame.shared.anyM SyntaxNode.virtualMark
      return marked || (parts.map (·.declarator)).any (·.isVirtual)) := by
  induction apart with
  | nil => exact absurd rfl some
  | @cons part single rest others declared apart ih =>
      rw [List.anyM, declared.marksVirtual_eq]
      rcases marked : frame.shared.anyM SyntaxNode.virtualMark with fault | _ | _
      · rfl
      · cases apart with
        | nil => cases virtual : part.declarator.isVirtual <;> simp [virtual] <;> rfl
        | cons next others =>
            rw [ih (List.cons_ne_nil _ _), marked]
            cases virtual : part.declarator.isVirtual <;> simp [virtual] <;> rfl
      · rfl

theorem marksVirtual_apart {singles : List SyntaxNode} (declared : frame.Declares parts member)
    (some : parts ≠ []) (apart : Singles frame (MemberPart.widthAtEnd parts) singles) :
    singles.anyM SyntaxNode.marksVirtual = member.marksVirtual := by
  rw [anyM_singles apart (MemberPart.widthAtEnd_ne_nil some), declared.marksVirtual_eq,
    MemberPart.map_declarator_widthAtEnd]

/-! ## Parts side by side -/

def Alongside (root : SyntaxNode) (post : α → Prop) (first second : SessionPart α) : Prop :=
  ∀ file types, types.IsSound → ∃ result after, Outcome root post result ∧ after.IsSound ∧
    first.ComesTo file types result after ∧ second.ComesTo file types result after

variable {root : SyntaxNode} {post : α → Prop} {first second : SessionPart α}

theorem Secure.alongside (secure : Secure root post first) : Alongside root post first first := by
  intro file types sound
  obtain ⟨result, after, outcome, kept, ran⟩ := secure file types sound
  exact ⟨result, after, outcome, kept, ran, ran⟩

theorem ComesTo.unique {result other : Except SessionFault α} {after later : KnownTypes}
    (ran : first.ComesTo file types result after) (went : first.ComesTo file types other later) :
    result = other ∧ after = later := by
  obtain ⟨_, ran⟩ := ran #[]
  obtain ⟨_, went⟩ := went #[]
  rw [ran] at went
  cases went
  exact ⟨rfl, rfl⟩

theorem Secure.alongside_of_comesTo (secure : Secure root post first)
    (same : ∀ file types, ∃ result after, first.ComesTo file types result after ∧
      second.ComesTo file types result after) : Alongside root post first second := by
  intro file types sound
  obtain ⟨result, after, outcome, kept, ran⟩ := secure file types sound
  obtain ⟨other, later, went, beside⟩ := same file types
  obtain ⟨rfl, rfl⟩ := ran.unique went
  exact ⟨result, after, outcome, kept, ran, beside⟩

theorem Alongside.bind {last : β → Prop} {next other : α → SessionPart β}
    (alongside : Alongside root post first second)
    (rest : ∀ a, post a → Alongside root last (next a) (other a)) :
    Alongside root last (first >>= next) (second >>= other) := by
  intro file types sound
  obtain ⟨result, middle, outcome, kept, ran, went⟩ := alongside file types sound
  cases result with
  | error fault => exact ⟨.error fault, middle, outcome, kept, ran.fails, went.fails⟩
  | ok a =>
      obtain ⟨result, after, outcome, kept, ran', went'⟩ := rest a outcome file middle kept
      exact ⟨result, after, outcome, kept, ran.bind ran', went.bind went'⟩

end SessionPart

/-! ## Records -/

/-- Two definitions of a record.  One has a member that declares several parts where the other
has a member for each part of a list. -/
inductive DeclaredApart (frame : MemberFrame) (parts others : List MemberPart)
    (first second : SyntaxNode) : Prop
  | intro {body twin member : SyntaxNode} {before singles after : List SyntaxNode}
      (heads : first.SameHead second)
      (clauses : first.childOfKind? "base_class_clause" = second.childOfKind? "base_class_clause")
      (found : first.child? "body" = some body) (twin_found : second.child? "body" = some twin)
      (items : body.items = before ++ member :: after)
      (twin_items : twin.items = before ++ (singles ++ after))
      (some : parts ≠ []) (declared : frame.Declares parts member)
      (apart : SessionPart.Singles frame others singles)

namespace SessionPart

variable {root : SyntaxNode} {scope : List CodeText} {given : Option CodeText}
  {frame : MemberFrame} {parts : List MemberPart} {first second : SyntaxNode}

theorem warnErrors_alongside (errors others : Bool) (head : RecordHead) :
    Alongside root (fun _ => True) (warnErrors errors head) (warnErrors others head) := by
  have warns (errors : Bool) (file : CodeText) (types : KnownTypes) :
      (warnErrors errors head).ComesTo file types (.ok ()) types := by
    cases errors
    · exact fun reports => ⟨reports, rfl⟩
    · exact fun reports => ⟨reports.push _, rfl⟩
  exact fun file types sound => ⟨.ok (), types, trivial, sound, warns _ _ _, warns _ _ _⟩

theorem readMembers_apart {member : SyntaxNode} {before singles after : List SyntaxNode}
    (inside : ∀ node ∈ before ++ member :: after, node ∈ root.nodes)
    (declared : frame.Declares parts member) (some : parts ≠ [])
    (apart : Singles frame (MemberPart.widthAtEnd parts) singles) (className : Option CodeText)
    {state : MemberState} (aligned : StateAligned state) :
    Alongside root StateAligned
      ((before ++ member :: after).foldlM (readMember scope className) state)
      ((before ++ (singles ++ after)).foldlM (readMember scope className) state) := by
  have secure (nodes : List SyntaxNode) (within : ∀ node ∈ nodes, node ∈ root.nodes)
      (state : MemberState) (aligned : StateAligned state) :
      Secure root StateAligned (nodes.foldlM (readMember scope className) state) :=
    (Secure.composes root).foldlM (fun node listed state begun =>
      readMember_secure (within node listed) scope className begun) aligned
  simp only [List.forall_mem_append, List.forall_mem_cons] at inside
  simp only [List.foldlM_append, List.foldlM_cons]
  refine (secure before inside.1 state aligned).alongside.bind fun state aligned => ?_
  refine Alongside.bind ?_ fun state aligned => (secure after inside.2.2 state aligned).alongside
  refine (readMember_secure inside.2.1 scope className aligned).alongside_of_comesTo ?_
  intro file types
  obtain ⟨result, ran, went⟩ := readMember_apart declared some apart state
  exact ⟨result, types, ran, went⟩

theorem anyM_marksVirtual_apart {member : SyntaxNode} {before singles after : List SyntaxNode}
    (declared : frame.Declares parts member) (some : parts ≠ [])
    (apart : Singles frame (MemberPart.widthAtEnd parts) singles) :
    (before ++ (singles ++ after)).anyM SyntaxNode.marksVirtual =
      (before ++ member :: after).anyM SyntaxNode.marksVirtual := by
  have anyM_append (nodes others : List SyntaxNode) :
      (nodes ++ others).anyM SyntaxNode.marksVirtual = (do
        if ← nodes.anyM SyntaxNode.marksVirtual then return true
        others.anyM SyntaxNode.marksVirtual) := by
    induction nodes with
    | nil => rfl
    | cons node rest ih =>
        simp only [List.cons_append, List.anyM, ih]
        rcases node.marksVirtual with fault | _ | _ <;> rfl
  have anyM_cons : (member :: after).anyM SyntaxNode.marksVirtual = (do
        if ← member.marksVirtual then return true
        after.anyM SyntaxNode.marksVirtual) := by
    rw [List.anyM]
    rcases member.marksVirtual with fault | _ | _ <;> rfl
  rw [anyM_append, anyM_append, anyM_append, anyM_cons, marksVirtual_apart declared some apart]

theorem readRecord_apart
    (apart : DeclaredApart frame parts (MemberPart.widthAtEnd parts) first second) :
    Alongside first (fun built => built.layout.IsAligned) (readRecord scope given first)
      (readRecord scope given second) := by
  obtain ⟨heads, clauses, found, twin_found, items, twin_items, some, declared, singles⟩ := apart
  rename_i body twin member before nodes after
  have inside := SyntaxNode.self_mem_nodes first
  have within := SyntaxNode.mem_nodes_of_child? inside found
  have listed : ∀ node ∈ before ++ member :: after, node ∈ first.nodes := fun node held =>
    SyntaxNode.mem_nodes_of_items within (items ▸ held)
  have plans (head : RecordHead) :
      soundPlan scope head second twin = soundPlan scope head first body := by
    simp only [soundPlan, items, twin_items, anyM_marksVirtual_apart declared some singles,
      bases_eq heads.name clauses]
  have planned (head : RecordHead) : Alongside first (fun plan => BasesAligned plan.bases)
      (recordPlan scope head first body) (recordPlan scope head second twin) := by
    rw [recordPlan_eq, recordPlan_eq, plans]
    refine (warnErrors_alongside _ _ head).bind fun _ _ => ?_
    exact (soundPlan_secure inside within scope head).alongside
  rw [readRecord_eq scope given found, readRecord_eq scope given twin_found,
    ← recordHead_eq heads]
  refine (recordHead_safe inside scope given).alongside.bind fun head _ => ?_
  refine (planned head).bind fun plan aligned => ?_
  refine types_secure.alongside.bind fun table sound => ?_
  rw [items, twin_items]
  refine Alongside.bind ?_ fun state begun => (finishRecord_secure aligned begun).alongside
  exact readMembers_apart listed declared some singles _ (start_aligned aligned sound.model)

variable {session : Session}

/-- The first width of a declaration counts for its last declarator: a record reads as if each
declarator had a declaration of its own with widths moved in this way, and without any moving
if no other declarator has a width. -/
theorem first_width_goes_to_last_declarator (sound : session.types.IsSound) :
    (DeclaredApart frame parts (MemberPart.widthAtEnd parts) first second →
        ((readRecord scope given first).run session).1 =
          ((readRecord scope given second).run session).1) ∧
      ((∀ part ∈ parts.dropLast, part.width = none) →
        DeclaredApart frame parts parts first second →
          ((readRecord scope given first).run session).1 =
            ((readRecord scope given second).run session).1) := by
  have same (apart : DeclaredApart frame parts (MemberPart.widthAtEnd parts) first second) :
      ((readRecord scope given first).run session).1 =
        ((readRecord scope given second).run session).1 := by
    obtain ⟨result, after, -, -, ran, went⟩ := readRecord_apart apart session.file _ sound
    rw [ran.result_eq, went.result_eq]
  constructor
  · exact same
  · intro plain apart
    rw [MemberPart.widthAtEnd_eq_self plain] at same
    exact same apart

/-! ### Two declarators of type `int` -/

def intNode : SyntaxNode :=
  .mk { kind := "primitive_type", field := "type", named := true, bytes := some [105, 110, 116] } []

def intFrame : MemberFrame where
  kind := "field_declaration"
  shared := [intNode]
  declares := rfl
  unsized := rfl
  typed := by
    intro type found
    cases found
    rfl

def letterPart (letter : UInt8) (width : Option UInt8) : MemberPart where
  declarator :=
    { node := letterNode "field_identifier" "declarator" letter
      field := rfl
      apart := (by decide : "field_identifier" ≠ "bitfield_clause") }
  width := width.map fun digit =>
    { node := .mk { kind := "bitfield_clause", named := true }
        [letterNode "number_literal" "" digit]
      kind := rfl
      apart := (by decide : "" ≠ "declarator") }

/-- `int a : 3, b;` with any parts. -/
def intMember (parts : List MemberPart) : SyntaxNode :=
  .mk { kind := "field_declaration", named := true }
    (intNode :: ((parts.map MemberPart.nodes).intersperse [.mk { kind := "," } []]).flatten ++
      [.mk { kind := ";" } []])

def intBody (members : List (List MemberPart)) : SyntaxNode :=
  .mk { kind := "field_declaration_list", field := "body", named := true }
    (members.map intMember)

/-- `struct D { int a : 3, b; };` with any members. -/
def intStruct (members : List (List MemberPart)) : SyntaxNode :=
  .mk { kind := "struct_specifier", named := true }
    [letterNode "type_identifier" "name" 68, intBody members]

def emptySession : Session where
  file := "t.h"
  types := { model := .lp64 }

def placement (node : SyntaxNode) :
    Option (Option Int × Option Int × List (Option Int × Option Int)) :=
  ((readRecord [] none node).run emptySession).1.toOption.map fun built =>
    (built.record.size, built.record.align,
      built.record.fields.items.map fun field => (field.bitOffset, field.bitWidth))

theorem items_intBody (members : List (List MemberPart)) :
    (intBody members).items = members.map intMember := by
  have listed (members : List (List MemberPart)) :
      SyntaxNode.itemsFrom [] (members.map intMember) = members.map intMember := by
    induction members with
    | nil => rfl
    | cons parts rest ih =>
        rw [List.map_cons, SyntaxNode.itemsFrom, ih]
        rfl
  exact listed members

theorem readMember_int (scope : List CodeText) (className : Option CodeText)
    (state : MemberState) (parts : List MemberPart) :
    readMember scope className state (intMember parts) = (do
      let type ← plainType scope (Name.normalizeSpelling (← intNode.text)) intNode
      readDeclarators scope className (intMember parts) type state) := by
  rw [readMember_typed scope className state rfl rfl, readSpecifier_plain scope rfl, bind_assoc]

theorem readRecord_int (members : List (List MemberPart)) :
    readRecord [] none (intStruct members) = (do
      let head ← recordHead [] none (intStruct members)
      let plan ← recordPlan [] head (intStruct members) (intBody members)
      let table ← types
      let state ← members.foldlM (fun state parts => do
        let type ← plainType (head.memberScope []) (Name.normalizeSpelling (← intNode.text)) intNode
        readDeclarators (head.memberScope []) head.writtenName (intMember parts) type state)
        (plan.start table.model)
      finishRecord plan state) := by
  have found : (intStruct members).child? "body" = some (intBody members) := rfl
  rw [readRecord_eq [] none found]
  simp only [items_intBody, List.foldlM_map, readMember_int]

theorem intStruct_apart {parts others : List MemberPart} (some : parts ≠ [])
    (declared : intFrame.Declares parts (intMember parts))
    (apart : Singles intFrame others (others.map fun part => intMember [part])) :
    DeclaredApart intFrame parts others (intStruct [parts])
      (intStruct (others.map fun part => [part])) := by
  have items : (intBody [parts]).items = [] ++ intMember parts :: [] := items_intBody [parts]
  have twin_items : (intBody (others.map fun part => [part])).items =
      [] ++ ((others.map fun part => intMember [part]) ++ []) := by
    rw [items_intBody, List.map_map, List.append_nil]
    rfl
  exact .intro ⟨rfl, rfl, rfl, rfl⟩ rfl rfl rfl items twin_items some declared apart

/-- `int a : 3, b : 5;` reads as `int a; int b : 3;`, and `int a, b : 5;` as `int a; int b : 5;`. -/
theorem movedWidth_reads_alike :
    emptySession.types.IsSound ∧
      ((readRecord [] none (intStruct [[letterPart 97 (some 51), letterPart 98 (some 53)]])).run
          emptySession).1 =
        ((readRecord [] none (intStruct [[letterPart 97 none], [letterPart 98 (some 51)]])).run
          emptySession).1 ∧
      ((readRecord [] none (intStruct [[letterPart 97 none, letterPart 98 (some 53)]])).run
          emptySession).1 =
        ((readRecord [] none (intStruct [[letterPart 97 none], [letterPart 98 (some 53)]])).run
          emptySession).1 := by
  have sound : emptySession.types.IsSound := ⟨by decide, nofun⟩
  refine ⟨sound, ?_, ?_⟩
  · have apart : DeclaredApart intFrame [letterPart 97 (some 51), letterPart 98 (some 53)]
        [letterPart 97 none, letterPart 98 (some 51)] _ _ :=
      intStruct_apart (List.cons_ne_nil _ _) ⟨rfl, rfl, rfl⟩
        (.cons ⟨rfl, rfl, rfl⟩ (.cons ⟨rfl, rfl, rfl⟩ .nil))
    exact (first_width_goes_to_last_declarator sound).1 apart
  · have apart : DeclaredApart intFrame [letterPart 97 none, letterPart 98 (some 53)]
        [letterPart 97 none, letterPart 98 (some 53)] _ _ :=
      intStruct_apart (List.cons_ne_nil _ _) ⟨rfl, rfl, rfl⟩
        (.cons ⟨rfl, rfl, rfl⟩ (.cons ⟨rfl, rfl, rfl⟩ .nil))
    exact (first_width_goes_to_last_declarator sound).2 (by simp [letterPart]) apart

/-- `int a : 3, b : 5;` gives the width 3 to the second declarator and none to the first, so it
does not read as `int a : 3; int b : 5;`. -/
theorem twoWidths_read_apart :
    DeclaredApart intFrame [letterPart 97 (some 51), letterPart 98 (some 53)]
        [letterPart 97 (some 51), letterPart 98 (some 53)]
        (intStruct [[letterPart 97 (some 51), letterPart 98 (some 53)]])
        (intStruct [[letterPart 97 (some 51)], [letterPart 98 (some 53)]]) ∧
      placement (intStruct [[letterPart 97 (some 51), letterPart 98 (some 53)]]) =
        some (some 8, some 4, [(some 0, none), (some 32, some 3)]) ∧
      placement (intStruct [[letterPart 97 (some 51)], [letterPart 98 (some 53)]]) =
        some (some 4, some 4, [(some 0, some 3), (some 3, some 5)]) := by
  refine ⟨?_, ?_, ?_⟩
  · exact intStruct_apart (List.cons_ne_nil _ _) ⟨rfl, rfl, rfl⟩
      (.cons ⟨rfl, rfl, rfl⟩ (.cons ⟨rfl, rfl, rfl⟩ .nil))
  · rw [placement, readRecord_int]
    decide +kernel
  · rw [placement, readRecord_int]
    decide +kernel

end SessionPart

end TypeCatalog
