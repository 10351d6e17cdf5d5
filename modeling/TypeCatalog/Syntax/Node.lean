import TypeCatalog.Text.CodePoint
import TypeCatalog.Text.Utf8

/-!
# Syntax trees

A node knows its kind, the name under which its parent holds it, its place in
the source and the bytes it covers.  The bytes of a broken node cannot be
read.  Trees need not come from a sound parse: any kind may stand anywhere.
-/

namespace TypeCatalog

open Text (CodeText)

structure NodeData where
  kind : String
  /-- The name under which the parent holds the node, empty if there is none. -/
  field : String := ""
  /-- The offsets of the first byte and of the byte after the last. -/
  start : Nat := 0
  stop : Nat := 0
  /-- The number of line feeds before the node. -/
  row : Nat := 0
  named : Bool := false
  missing : Bool := false
  hasError : Bool := false
  /-- The bytes of the node, unless it is broken. -/
  bytes : Option (List UInt8) := some []
  deriving DecidableEq, Repr, Inhabited

def NodeData.samePlace (a b : NodeData) : Bool :=
  a.kind == b.kind && a.start == b.start && a.stop == b.stop

inductive SyntaxNode where
  | mk (data : NodeData) (children : List SyntaxNode)
  deriving Repr, Inhabited

inductive ReadFault where
  | brokenNode
  | negatedText
  deriving DecidableEq, Repr

def ReadFault.message : ReadFault → String
  | brokenNode => "broken node"
  | negatedText => "bad operand type for unary -: 'str'"

namespace SyntaxNode

def data : SyntaxNode → NodeData
  | mk data _ => data

def children : SyntaxNode → List SyntaxNode
  | mk _ children => children

def kind (node : SyntaxNode) : String := node.data.kind

def isNamed (node : SyntaxNode) : Bool := node.data.named

def isMissing (node : SyntaxNode) : Bool := node.data.missing

def hasError (node : SyntaxNode) : Bool := node.data.hasError

def isError (node : SyntaxNode) : Bool := node.kind == "ERROR"

/-- The line of a node, counted from 1. -/
def line (node : SyntaxNode) : Nat := node.data.row + 1

def isKind (kinds : List String) (node : SyntaxNode) : Bool :=
  kinds.contains node.kind

/-! ## Children -/

def namedChildren (node : SyntaxNode) : List SyntaxNode :=
  node.children.filter (·.isNamed)

def child? (node : SyntaxNode) (field : String) : Option SyntaxNode :=
  node.children.find? (·.data.field == field)

def childrenBy (node : SyntaxNode) (field : String) : List SyntaxNode :=
  node.children.filter (·.data.field == field)

def childOfKind? (node : SyntaxNode) (kind : String) : Option SyntaxNode :=
  node.children.find? (·.kind == kind)

/-! ## Size -/

theorem sizeOf_lt_of_mem {node child : SyntaxNode} (member : child ∈ node.children) :
    sizeOf child < sizeOf node := by
  cases node with
  | mk data children =>
    have := List.sizeOf_lt_of_mem (show child ∈ children from member)
    simp only [SyntaxNode.mk.sizeOf_spec]
    omega

theorem sizeOf_child?_lt {node child : SyntaxNode} {field : String}
    (found : node.child? field = some child) : sizeOf child < sizeOf node :=
  sizeOf_lt_of_mem (List.mem_of_find?_eq_some found)

theorem sizeOf_namedChildren_lt {node child : SyntaxNode} (member : child ∈ node.namedChildren) :
    sizeOf child < sizeOf node :=
  sizeOf_lt_of_mem (List.mem_filter.mp member).1

mutual

def weight : SyntaxNode → Nat
  | mk _ children => weightList children + 1

def weightList : List SyntaxNode → Nat
  | [] => 0
  | child :: rest => weight child + weightList rest

end

theorem weightList_append (first second : List SyntaxNode) :
    weightList (first ++ second) = weightList first + weightList second := by
  induction first with
  | nil => simp [weightList]
  | cons child rest ih => simp [weightList, ih, Nat.add_assoc]

theorem weightList_reverse (nodes : List SyntaxNode) :
    weightList nodes.reverse = weightList nodes := by
  induction nodes with
  | nil => rfl
  | cons child rest ih =>
    rw [List.reverse_cons, weightList_append, ih]
    simp [weightList, Nat.add_comm]

theorem weight_eq (node : SyntaxNode) : node.weight = weightList node.children + 1 := by
  cases node with
  | mk data children => simp [weight, SyntaxNode.children]

/-! ## Text -/

/-- The characters of a node; bytes that are not UTF-8 are replaced. -/
def characters (node : SyntaxNode) : Except ReadFault (List Char) :=
  match node.data.bytes with
  | some bytes => .ok (Text.Utf8.decodeLossy bytes)
  | none => .error .brokenNode

def text (node : SyntaxNode) : Except ReadFault CodeText :=
  (node.characters).map .ofChars

def textOf : Option SyntaxNode → Except ReadFault CodeText
  | some node => node.text
  | none => .ok ""

/-! ## Searches -/

/-- The first node of a kind among nodes and, breadth first, what is below them.  The
inside of a compound statement is not searched. -/
def findBreadthFirst (kind : String) : List SyntaxNode → Option SyntaxNode
  | [] => none
  | node :: rest =>
    if node.kind == kind then some node
    else if node.kind == "compound_statement" then findBreadthFirst kind rest
    else findBreadthFirst kind (rest ++ node.children)
termination_by queue => weightList queue
decreasing_by
  · simp only [weightList, weight_eq]
    omega
  · simp only [weightList, weightList_append, weight_eq]
    omega

def descendant? (node : SyntaxNode) (kind : String) : Option SyntaxNode :=
  findBreadthFirst kind node.children

/-! ## Errors -/

/-- An error node, or one that the parser put in where a token was missing. -/
def isFaulty (node : SyntaxNode) : Bool :=
  node.isError || node.isMissing

/-- The number counted so far and that of the error and missing nodes on a stack and below it.
Only nodes with an error inside are entered, and the last child is looked at first. -/
def countErrors (count : Nat) : List SyntaxNode → Nat
  | [] => count
  | node :: rest =>
    countErrors (if node.isFaulty then count + 1 else count)
      (if node.hasError then node.children.reverse ++ rest else rest)
termination_by stack => weightList stack
decreasing_by
  split <;> simp only [weightList, weightList_append, weightList_reverse, weight_eq] <;> omega

def errorCount (root : SyntaxNode) : Nat :=
  countErrors 0 [root]

/-! ## Items -/

def conditionalKinds : List String := ["preproc_ifdef", "preproc_if"]

/-- The children of a conditional group that are not among its items: the other branch and
the condition. -/
def conditionParts (data : NodeData) (children : List SyntaxNode) : List NodeData :=
  if conditionalKinds.contains data.kind then
    ["alternative", "name", "condition"].filterMap fun field =>
      (children.find? (·.data.field == field)).map (·.data)
  else []

mutual

/-- The named children that are no comments; a conditional group counts as the items of its
first branch. -/
def items : SyntaxNode → List SyntaxNode
  | mk data children => itemsFrom (conditionParts data children) children

def itemsFrom (excluded : List NodeData) : List SyntaxNode → List SyntaxNode
  | [] => []
  | child :: rest =>
    if !child.isNamed || child.kind == "comment" ||
        excluded.any child.data.samePlace then
      itemsFrom excluded rest
    else if conditionalKinds.contains child.kind then items child ++ itemsFrom excluded rest
    else child :: itemsFrom excluded rest

end

mutual

theorem sizeOf_items_lt {item : SyntaxNode} :
    ∀ {container : SyntaxNode}, item ∈ container.items → sizeOf item < sizeOf container
  | mk data children, member => by
    have := sizeOf_itemsFrom_lt (by simpa only [items] using member)
    simp only [SyntaxNode.mk.sizeOf_spec]
    omega

theorem sizeOf_itemsFrom_lt {item : SyntaxNode} {excluded : List NodeData} :
    ∀ {nodes : List SyntaxNode}, item ∈ itemsFrom excluded nodes → sizeOf item < sizeOf nodes
  | [], member => by simp [itemsFrom] at member
  | child :: rest, member => by
    simp only [List.cons.sizeOf_spec]
    rw [itemsFrom] at member
    split at member
    · have := sizeOf_itemsFrom_lt member
      omega
    · split at member
      · rcases List.mem_append.mp member with inside | after
        · have := sizeOf_items_lt inside
          omega
        · have := sizeOf_itemsFrom_lt after
          omega
      · rcases List.mem_cons.mp member with same | after
        · subst same
          omega
        · have := sizeOf_itemsFrom_lt after
          omega

end

end SyntaxNode

end TypeCatalog
