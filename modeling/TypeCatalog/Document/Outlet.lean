import TypeCatalog.Diagnostic
import TypeCatalog.Text.Utf8

/-!
# Destinations of a document

A stream may refuse a call; an outlet turns the first refusal into a report and
leaves the stream alone from then on, so the stream holds a prefix of what
was to be written.
-/

namespace TypeCatalog.Document

open Text (CodeText EncodingFault)

/-! ## Streams -/

/-- Which call of each kind a stream refuses, counted from 1. -/
structure FailurePlan where
  write : Option Nat := none
  flush : Option Nat := none
  close : Option Nat := none
  deriving DecidableEq, Repr, Inhabited

structure Stream where
  plan : FailurePlan := {}
  content : String := ""
  writes : Nat := 0
  flushes : Nat := 0
  closes : Nat := 0
  deriving DecidableEq, Repr, Inhabited

namespace Stream

def write (stream : Stream) (text : String) : Bool × Stream :=
  let called := { stream with writes := stream.writes + 1 }
  if stream.plan.write == some called.writes then (false, called)
  else (true, { called with content := called.content ++ text })

def flush (stream : Stream) : Bool × Stream :=
  let called := { stream with flushes := stream.flushes + 1 }
  (stream.plan.flush != some called.flushes, called)

def close (stream : Stream) : Bool × Stream :=
  let called := { stream with closes := stream.closes + 1 }
  (stream.plan.close != some called.closes, called)

end Stream

/-! ## Outlets -/

inductive StreamCall where
  | write
  | flush
  | close
  deriving DecidableEq, Repr

def StreamCall.name : StreamCall → String
  | write => "write"
  | flush => "flush"
  | close => "close"

structure Outlet where
  stream : Stream := {}
  name : CodeText := "<stream>"
  owned : Bool := false
  failed : Bool := false
  bytes : Nat := 0
  deriving DecidableEq, Repr, Inhabited

namespace Outlet

def failure (outlet : Outlet) (operation : StreamCall) : Diagnostic :=
  { level := .error, channel := Channel.outlet,
    message := "Failed to " ++ operation.name ++ " output " ++ outlet.name ++
      ": [Errno 28] No space left on device" }

def write (outlet : Outlet) (text : String) : Outlet × List Diagnostic :=
  if outlet.failed then (outlet, [])
  else
    match outlet.stream.write text with
    | (true, stream) =>
      ({ outlet with stream, bytes := outlet.bytes + Text.Utf8.length text.toList }, [])
    | (false, stream) => ({ outlet with stream, failed := true }, [outlet.failure .write])

/-- Hands a text from outside to the stream.  The bytes of a text are counted once the stream
has it, so surrogates are at fault only if neither the outlet nor the stream refuses the text. -/
def writeText (outlet : Outlet) (text : CodeText) :
    Except EncodingFault (Outlet × List Diagnostic) :=
  let (after, reports) := outlet.write text.toString
  if after.failed || !text.any (·.isSurrogate) then .ok (after, reports)
  else .error (.of (!·.isSurrogate) text)

def flush (outlet : Outlet) : Outlet × List Diagnostic :=
  if outlet.failed then (outlet, [])
  else
    match outlet.stream.flush with
    | (true, stream) => ({ outlet with stream }, [])
    | (false, stream) => ({ outlet with stream, failed := true }, [outlet.failure .flush])

/-- Flushes, then closes the stream if the outlet owns it, failed or not. -/
def close (outlet : Outlet) : Outlet × List Diagnostic :=
  let (flushed, reports) := outlet.flush
  if flushed.owned then
    match flushed.stream.close with
    | (true, stream) => ({ flushed with stream }, reports)
    | (false, stream) =>
      ({ flushed with stream, failed := true }, reports ++ [flushed.failure .close])
  else (flushed, reports)

end Outlet

/-! ## Events -/

inductive Event where
  | line (text : String)
  | flush
  | report (diagnostic : Diagnostic)
  deriving DecidableEq, Repr

namespace Event

def text? : Event → Option String
  | line text => some text
  | _ => none

def report? : Event → Option Diagnostic
  | report diagnostic => some diagnostic
  | _ => none

def document (events : List Event) : String :=
  String.join (events.filterMap text?)

def isFlush : Event → Bool
  | flush => true
  | _ => false

/-- The text that has arrived for certain: that before the last flush. -/
def flushed (events : List Event) : String :=
  document (events.reverse.dropWhile (!·.isFlush)).reverse

end Event

namespace Outlet

def accept (outlet : Outlet) : Event → Outlet × List Diagnostic
  | .line text => outlet.write text
  | .flush => outlet.flush
  | .report diagnostic => (outlet, [diagnostic])

def acceptAll (outlet : Outlet) : List Event → Outlet × List Diagnostic
  | [] => (outlet, [])
  | event :: rest =>
    let (next, reports) := outlet.accept event
    let (last, others) := next.acceptAll rest
    (last, reports ++ others)

end Outlet

end TypeCatalog.Document
