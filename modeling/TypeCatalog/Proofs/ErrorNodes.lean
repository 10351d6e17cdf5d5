import Mathlib.Data.List.Perm.Basic
import TypeCatalog.Proofs.FaultCauses

/-!
# Error and missing nodes

A tree is searched for error and missing nodes with a stack, and only nodes
marked as having an error inside are entered.  The order in which the stack
hands out the nodes does not count, so the search finds what is reached from
the root through marked nodes.  It misses no error or missing node exactly if
every node with one below it is marked.
-/

namespace TypeCatalog.SyntaxNode

/-! ## The nodes that are reached -/

mutual

def reached : SyntaxNode → List SyntaxNode
  | mk data children => mk data children :: if data.hasError then reachedOf children else []

def reachedOf : List SyntaxNode → List SyntaxNode
  | [] => []
  | child :: rest => reached child ++ reachedOf rest

end

theorem reached_eq (node : SyntaxNode) :
    node.reached = node :: if node.hasError then reachedOf node.children else [] := by
  cases node with
  | mk data children =>
    rw [reached]
    rfl

theorem reachedOf_append (first second : List SyntaxNode) :
    reachedOf (first ++ second) = reachedOf first ++ reachedOf second := by
  induction first with
  | nil => rfl
  | cons child rest ih => rw [List.cons_append, reachedOf, reachedOf, ih, List.append_assoc]

theorem reachedOf_reverse_perm (nodes : List SyntaxNode) :
    (reachedOf nodes.reverse).Perm (reachedOf nodes) := by
  induction nodes with
  | nil => exact .refl _
  | cons child rest ih =>
    rw [List.reverse_cons, reachedOf_append, reachedOf, reachedOf, reachedOf, List.append_nil]
    exact (ih.append_right _).trans List.perm_append_comm

/-- The search adds to its count what is reached from the stack. -/
theorem countErrors_eq (count : Nat) (stack : List SyntaxNode) :
    countErrors count stack = count + (reachedOf stack).countP isFaulty := by
  fun_induction countErrors count stack with
  | case1 count => rfl
  | case2 count node rest ih =>
    simp only [dite_eq_ite] at ih
    have pushed : (reachedOf (if node.hasError then node.children.reverse ++ rest else rest)).countP
        isFaulty = (if node.hasError then reachedOf node.children else []).countP isFaulty +
          (reachedOf rest).countP isFaulty := by
      split
      · rw [reachedOf_append, List.countP_append, (reachedOf_reverse_perm _).countP_eq]
      · rw [List.countP_nil, Nat.zero_add]
    rw [ih, pushed, reachedOf, reached_eq, List.cons_append, List.countP_cons, List.countP_append]
    split <;> omega

theorem errorCount_eq_reached (root : SyntaxNode) :
    root.errorCount = root.reached.countP isFaulty := by
  rw [errorCount, countErrors_eq, Nat.zero_add, reachedOf, reachedOf, List.append_nil]

/-! ## The nodes that are missed -/

def MarksBelow (node : SyntaxNode) : Prop :=
  (∃ inner ∈ nodesOf node.children, inner.isFaulty = true) → node.hasError = true

mutual

theorem countP_reached_le : ∀ root : SyntaxNode,
    root.reached.countP isFaulty ≤ root.nodes.countP isFaulty
  | mk data children => by
    have below := countP_reachedOf_le children
    rw [reached, nodes, List.countP_append, List.countP_cons, List.countP_singleton]
    split
    · omega
    · rw [List.countP_nil]
      omega

theorem countP_reachedOf_le : ∀ children : List SyntaxNode,
    (reachedOf children).countP isFaulty ≤ (nodesOf children).countP isFaulty
  | [] => Nat.le_refl _
  | child :: rest => by
    rw [reachedOf, nodesOf, List.countP_append, List.countP_append]
    exact Nat.add_le_add (countP_reached_le child) (countP_reachedOf_le rest)

end

theorem marksBelow_of_countP_eq_zero {children : List SyntaxNode}
    (none_faulty : (nodesOf children).countP isFaulty = 0) :
    ∀ node ∈ nodesOf children, node.MarksBelow := by
  rintro node inside ⟨inner, below, faulty⟩
  have deeper := nodesOf_subset inside inner ((nodesOf_sublist_nodes node).subset below)
  exact absurd faulty (List.countP_eq_zero.mp none_faulty inner deeper)

mutual

theorem countP_reached_eq_iff : ∀ root : SyntaxNode,
    root.reached.countP isFaulty = root.nodes.countP isFaulty ↔
      ∀ node ∈ root.nodes, node.MarksBelow
  | mk data children => by
    have whole : (mk data children).reached.countP isFaulty =
        (mk data children).nodes.countP isFaulty ↔
        (if data.hasError then reachedOf children else []).countP isFaulty =
          (nodesOf children).countP isFaulty := by
      rw [reached, nodes, List.countP_append, List.countP_cons, List.countP_singleton]
      omega
    have split_off : (∀ node ∈ (mk data children).nodes, node.MarksBelow) ↔
        (∀ node ∈ nodesOf children, node.MarksBelow) ∧ (mk data children).MarksBelow := by
      simp [nodes, or_imp, forall_and]
    rw [whole, split_off]
    rcases marked : data.hasError with _ | _
    · rw [if_neg Bool.false_ne_true, List.countP_nil]
      constructor
      · intro none_faulty
        refine ⟨marksBelow_of_countP_eq_zero none_faulty.symm, fun ⟨inner, below, faulty⟩ => ?_⟩
        exact absurd faulty (List.countP_eq_zero.mp none_faulty.symm inner below)
      · rintro ⟨-, own⟩
        refine (List.countP_eq_zero.mpr fun inner below faulty => ?_).symm
        exact Bool.false_ne_true (marked.symm.trans (own ⟨inner, below, faulty⟩))
    · rw [if_pos rfl, countP_reachedOf_eq_iff children]
      exact (and_iff_left fun _ => marked).symm

theorem countP_reachedOf_eq_iff : ∀ children : List SyntaxNode,
    (reachedOf children).countP isFaulty = (nodesOf children).countP isFaulty ↔
      ∀ node ∈ nodesOf children, node.MarksBelow
  | [] => by simp [reachedOf, nodesOf]
  | child :: rest => by
    have first := countP_reached_le child
    have others := countP_reachedOf_le rest
    have parts : (∀ node ∈ nodesOf (child :: rest), node.MarksBelow) ↔
        (∀ node ∈ child.nodes, node.MarksBelow) ∧ ∀ node ∈ nodesOf rest, node.MarksBelow := by
      simp [nodesOf, or_imp, forall_and]
    rw [parts, ← countP_reached_eq_iff child, ← countP_reachedOf_eq_iff rest, reachedOf, nodesOf,
      List.countP_append, List.countP_append]
    omega

end

theorem errorCount_le (root : SyntaxNode) : root.errorCount ≤ root.nodes.countP isFaulty := by
  rw [errorCount_eq_reached]
  exact countP_reached_le root

theorem errorCount_eq_iff (root : SyntaxNode) :
    root.errorCount = root.nodes.countP isFaulty ↔ ∀ node ∈ root.nodes, node.MarksBelow := by
  rw [errorCount_eq_reached]
  exact countP_reached_eq_iff root

/-! ## Marked trees -/

/-- Every node is marked that is an error or missing node or has one below it. -/
def MarksErrors (root : SyntaxNode) : Prop :=
  ∀ node ∈ root.nodes, (∃ inner ∈ node.nodes, inner.isFaulty = true) → node.hasError = true

instance (root : SyntaxNode) : Decidable root.MarksErrors :=
  inferInstanceAs (Decidable (∀ node ∈ root.nodes,
    (∃ inner ∈ node.nodes, inner.isFaulty = true) → node.hasError = true))

/-- In a tree that is marked as a parser marks it, all error and missing nodes are counted. -/
theorem errorCount_of_marksErrors {root : SyntaxNode} (marks : root.MarksErrors) :
    root.errorCount = root.nodes.countP isFaulty := by
  refine root.errorCount_eq_iff.mpr fun node inside ⟨inner, below, faulty⟩ => ?_
  exact marks node inside ⟨inner, (nodesOf_sublist_nodes node).subset below, faulty⟩

def nestedErrors : SyntaxNode :=
  .mk { kind := "translation_unit", hasError := true }
    [.mk { kind := "ERROR", hasError := true }
      [.mk { kind := "identifier", named := true, missing := true, hasError := true } [],
        .mk { kind := "identifier", named := true } [],
        .mk { kind := "ERROR", hasError := true } [.mk { kind := ";" } []]],
      .mk { kind := "declaration", named := true } [.mk { kind := ";" } []]]

theorem nestedErrors_counted : nestedErrors.MarksErrors ∧ nestedErrors.errorCount = 3 := by
  have marks : nestedErrors.MarksErrors := by decide +kernel
  exact ⟨marks, (errorCount_of_marksErrors marks).trans (by decide +kernel)⟩

end TypeCatalog.SyntaxNode
