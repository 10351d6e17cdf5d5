import TypeCatalog.Text.CodePoint

/-!
# Diagnostics: what a run reports beside its document
-/

namespace TypeCatalog

open Text (CodeText)

inductive Level where
  | debug
  | info
  | warning
  | error
  | critical
  deriving DecidableEq, Repr, Inhabited

namespace Level

def rank : Level → Nat
  | debug => 10
  | info => 20
  | warning => 30
  | error => 40
  | critical => 50

def name : Level → String
  | debug => "DEBUG"
  | info => "INFO"
  | warning => "WARNING"
  | error => "ERROR"
  | critical => "CRITICAL"

def all : List Level :=
  [debug, info, warning, error, critical]

def ofName? (text : String) : Option Level :=
  all.find? (·.name == text)

end Level

structure Diagnostic where
  level : Level
  channel : CodeText
  message : CodeText
  /-- The source being processed, `-` outside of any. -/
  source : CodeText := "-"
  deriving DecidableEq, Repr, Inhabited

namespace Diagnostic

def within (source : CodeText) (diagnostic : Diagnostic) : Diagnostic :=
  { diagnostic with source }

def passes (threshold : Nat) (diagnostic : Diagnostic) : Bool :=
  threshold ≤ diagnostic.level.rank

end Diagnostic

/-! ## Channels -/

namespace Channel

def catalog : String := "emission.walker"
def outlet : String := "emission.sink"
def tags : String := "emission.tags"
def identity : String := "emission.identity"
def traversal : String := "extraction.traversal"
def parser : String := "extraction.parser"
def expansion : String := "extraction.preprocess"
def layout : String := "extraction.layout"
def extractor : String := "extraction.extractor"
def settings : String := "core.dump_config"
def command : String := "run_compex"

end Channel

end TypeCatalog
