import TypeCatalog.Diagnostic
import TypeCatalog.Layout.KnownTypes
import TypeCatalog.Layout.Placement
import TypeCatalog.Syntax.Node

/-!
# Sessions: reading the declarations of one file against the types of a run

A session may end in the middle of a declaration, at a node that cannot be
read or a member that cannot be placed.  The types entered and the reports
made up to then stay.
-/

namespace TypeCatalog

open Text (CodeText)

structure Session where
  file : CodeText
  types : KnownTypes
  reports : Array Diagnostic := #[]

inductive SessionFault where
  | node (fault : ReadFault)
  | layout (fault : LayoutFault)
  deriving DecidableEq, Repr

abbrev SessionPart := ExceptT SessionFault (StateM Session)

instance : MonadLift (Except ReadFault) SessionPart :=
  ⟨fun reading => ExceptT.mk (pure (reading.mapError .node))⟩

instance : MonadLift (Except LayoutFault) SessionPart :=
  ⟨fun placing => ExceptT.mk (pure (placing.mapError .layout))⟩

namespace SessionPart

def report (level : Level) (message : CodeText) (channel : CodeText := Channel.traversal) :
    SessionPart Unit :=
  modify fun session =>
    { session with reports := session.reports.push { level, channel, message } }

def types : SessionPart KnownTypes :=
  return (← get).types

def location (node : SyntaxNode) : SessionPart Location :=
  return ⟨(← get).file, node.line⟩

def define (entry : KnownType) : SessionPart Unit := do
  if !(← types).keepsRecord entry then
    report .debug ("Registered " ++ entry.kind.name ++ " " ++ Name.normalize entry.name ++ " (" ++
      entry.layout.shown ++ ")") Channel.layout
  modify fun session => { session with types := session.types.define entry }

def resolve (spelling : CodeText) (scope : List CodeText) :
    SessionPart (Layout × Option KnownType) := do
  if (← types).isUnknown spelling scope then
    report .debug ("Unresolved type " ++ spelling) Channel.layout
  return (← types).resolve spelling scope

end SessionPart

end TypeCatalog
