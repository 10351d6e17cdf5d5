import TypeCatalog.Text.CodePoint
import TypeCatalog.Text.Digit

/-!
# The words of a command line

An option has a name after two dashes, which may be cut short as long as it
fits one option only, and perhaps a letter after one dash.  Its value is in
the same word, after `=` or directly after its letter, or it is the next
plain word.  After the word `--` all words are plain.
-/

namespace TypeCatalog.CommandLine

open Text (CodePoint CodeText)

/-! ## Options -/

inductive Switch where
  | help
  | output
  | dumpAll
  | config
  | dataModel
  | tagMacro
  | repoRoot
  | reportDir
  | failFast
  | strictConfig
  | logLevel
  deriving DecidableEq, Repr

namespace Switch

def all : List Switch :=
  [help, output, dumpAll, config, dataModel, tagMacro, repoRoot, reportDir, failFast,
    strictConfig, logLevel]

def name : Switch → String
  | help => "help"
  | output => "output"
  | dumpAll => "dump-all"
  | config => "config"
  | dataModel => "data-model"
  | tagMacro => "tag-macro"
  | repoRoot => "repo-root"
  | reportDir => "report-dir"
  | failFast => "fail-fast"
  | strictConfig => "strict-config"
  | logLevel => "log-level"

def letter? : Switch → Option Char
  | help => some 'h'
  | output => some 'o'
  | _ => none

def takesValue : Switch → Bool
  | help | dumpAll | failFast | strictConfig => false
  | _ => true

def ofLetter? (letter : CodePoint) : Option Switch :=
  all.find? fun switch => switch.letter?.map CodePoint.scalar == some letter

/-- The options that a name, perhaps cut short, can mean.  A full name means only its own
option. -/
def meant (name : CodeText) : List Switch :=
  match all.find? fun switch => switch.name == name with
  | some switch => [switch]
  | none => all.filter fun switch => name.isPrefixOf switch.name

end Switch

/-! ## Words -/

inductive Fault where
  | help
  | usage
  /-- The value of an option is the word `--`, which counts as no value. -/
  | noValue
  deriving DecidableEq, Repr

def Fault.message : Fault → String
  | help | usage => ""
  | noValue => "not enough values to unpack (expected 1, got 0)"

structure Use where
  switch : Switch
  value : Option CodeText := none
  deriving DecidableEq, Repr

inductive Word where
  | plain (text : CodeText)
  | mark
  /-- Options, of which only the last can have a value. -/
  | options (uses : List Use)
  | unknown
  | malformed
  deriving DecidableEq, Repr

namespace Word

def attached : CodeText → Option CodeText
  | [] => none
  | .scalar '=' :: value => some value
  | value => some value

/-- The options that letters stand for: options without a value stand together, and one with
a value takes what is left.  Every letter has to be that of an option. -/
def cluster : CodeText → Option (List Use)
  | [] => some []
  | letter :: rest =>
    match Switch.ofLetter? letter with
    | none => none
    | some switch =>
      if switch.takesValue then
        some [⟨switch, if rest.isEmpty then none else some rest⟩]
      else (cluster rest).map (⟨switch, none⟩ :: ·)

/-- The options of a word that starts with the letter of one.  After an option without a value
there may be a sign `=` before further letters. -/
def ofSwitch (switch : Switch) (rest : CodeText) : Option (List Use) :=
  if switch.takesValue then some [⟨switch, attached rest⟩]
  else
    match rest with
    | [.scalar '='] => none
    | .scalar '=' :: letters => (cluster letters).map (⟨switch, none⟩ :: ·)
    | letters => (cluster letters).map (⟨switch, none⟩ :: ·)

/-- The digits of a number, or digits around a point; a line feed may follow. -/
def isNumber (text : CodeText) : Bool :=
  let isDigit (c : CodePoint) : Bool := c.isIn fun c => (Text.digitValue? c).isSome
  let body := if text.getLast? == some (.scalar '\n') then text.dropLast else text
  match body.dropWhile isDigit with
  | [] => !body.isEmpty
  | .scalar '.' :: fraction => !fraction.isEmpty && fraction.all isDigit
  | _ => false

/-- A word that starts with a dash but is no known option: it is plain if it looks like a
number below zero or if it holds a space. -/
def ofOther (text : CodeText) : Word :=
  if isNumber (text.drop 1) || text.contains (.scalar ' ') then .plain text else .unknown

def ofLetters (letters : CodeText) : Word :=
  match letters with
  | [] => .plain "-"
  | letter :: rest =>
    match Switch.ofLetter? letter with
    | none => ofOther ("-" ++ letters)
    | some switch =>
      match ofSwitch switch rest with
      | some uses => .options uses
      | none => .malformed

def ofName (text : CodeText) : Except Fault Word :=
  let name := text.takeWhile (· != .scalar '=')
  let value := match text.dropWhile (· != .scalar '=') with
    | [] => none
    | _ :: value => some value
  match Switch.meant name with
  | [] => .ok (ofOther ("--" ++ text))
  | [switch] =>
    .ok (if value.isSome && !switch.takesValue then .malformed else .options [⟨switch, value⟩])
  | _ => .error .usage

def ofText (text : CodeText) : Except Fault Word :=
  match text with
  | .scalar '-' :: .scalar '-' :: name => ofName name
  | .scalar '-' :: letters => .ok (ofLetters letters)
  | _ => .ok (.plain text)

end Word

/-- The words of a command line.  A name that fits several options is a fault wherever it
stands. -/
def words : List CodeText → Except Fault (List Word)
  | [] => .ok []
  | text :: rest =>
    if text == "--" then .ok (.mark :: rest.map .plain)
    else do
      let word ← Word.ofText text
      return word :: (← words rest)

end TypeCatalog.CommandLine
