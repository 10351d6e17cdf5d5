import TypeCatalog.Document.LineWriter

/-!
# Programs that write a document

A program performs operations of a line writer, some of which open a block,
and leaves blocks again.  A block remembers the depth at which it was entered.
When it is left, by its end or by a fault of the program, the depth is what it
was then, whatever has happened inside.
-/

namespace TypeCatalog.Document

open Text (CodeText)

/-! ## Operations -/

inductive Operation where
  | scalar (key : CodeText) (value : Scalar)
  /-- `key: true`, or no line. -/
  | flag (key : CodeText) (enabled : Bool)
  | reference (key anchor : CodeText)
  | emptyList (key : CodeText)
  | scalarItem (value : Scalar)
  | mapping (key : CodeText) (tag anchor : Option CodeText)
  | sequence (key : CodeText)
  | item (tag : Option CodeText)
  deriving DecidableEq, Repr

def Operation.opensBlock : Operation → Bool
  | .mapping .. | .sequence _ | .item _ => true
  | _ => false

def LineWriter.perform (writer : LineWriter) : Operation → Except LineFault (String × LineWriter)
  | .scalar key value => writer.scalar key value
  | .flag key enabled => if enabled then writer.scalar key (.bool true) else .ok ("", writer)
  | .reference key anchor => writer.reference key anchor
  | .emptyList key => .ok (writer.emptyList key)
  | .scalarItem value => writer.scalarItem value
  | .mapping key tag anchor => writer.mapping key tag anchor
  | .sequence key => .ok (writer.sequence key)
  | .item tag => writer.item tag

/-! ## Open blocks -/

/-- A writer, and for each open block the depth at its entry, the innermost block first. -/
structure BlockWriter where
  writer : LineWriter := {}
  entries : List Nat := []
  deriving DecidableEq, Repr, Inhabited

inductive ProgramStep where
  | operation (operation : Operation)
  | leave (blocks : Nat)
  deriving DecidableEq, Repr

structure StepAnswer where
  text : String := ""
  fault : Option LineFault := none
  deriving DecidableEq, Repr

namespace BlockWriter

def depth (state : BlockWriter) : Nat :=
  state.writer.depth

def leaveBlock (state : BlockWriter) : BlockWriter :=
  match state.entries with
  | [] => state
  | depth :: outer => { writer := { state.writer with depth }, entries := outer }

def leave (state : BlockWriter) : Nat → BlockWriter
  | 0 => state
  | blocks + 1 => state.leaveBlock.leave blocks

/-- Takes one step; an operation that is refused changes nothing. -/
def take (state : BlockWriter) : ProgramStep → StepAnswer × BlockWriter
  | .leave blocks => ({}, state.leave blocks)
  | .operation operation =>
    match state.writer.perform operation with
    | .error fault => ({ fault := some fault }, state)
    | .ok (text, writer) =>
      let entries := if operation.opensBlock then state.depth :: state.entries else state.entries
      ({ text }, { writer, entries })

end BlockWriter

end TypeCatalog.Document
