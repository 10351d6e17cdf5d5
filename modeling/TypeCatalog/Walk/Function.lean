import TypeCatalog.Walk.Basic

/-!
# Functions in a walk: the blocks of methods and of free functions

Two free functions are the same if their names and the names of their
parameter types agree; only the first one is documented.
-/

namespace TypeCatalog.Walk

open Document

/-- The traits with a key of their own, in the order of the document. -/
def traitKeys (flags : FunctionTraits) : List (String × Bool) :=
  [("constexpr", flags.constexpr), ("deleted", flags.deleted), ("externc", flags.externC),
    ("noreturn", flags.noreturn), ("varargs", flags.variadic), ("implicit", flags.implicit),
    ("static", flags.static), ("const", flags.const), ("virtual", flags.virtual),
    ("nothrow", flags.nothrow), ("artificial", flags.artificial), ("operator", flags.operator),
    ("cast_operator", flags.conversion), ("thunk", flags.thunk)]

def writeParameter (parameter : Parameter) : Walk Unit :=
  block (·.item (some "param")) do
    scalar "name" (.text (parameter.name.getD ""))
    scalar "type" (.text (parameter.type.name.getD ""))
    writeTags (← tagsOf (.parameter parameter))

def writeQualifiers (declaration : Function) : Walk Unit := do
  scalar "name" (.text (declaration.name.getD ""))
  match Text.proper? declaration.mangledName with
  | some name => scalar "asm" (.text name)
  | none => pure ()
  (traitKeys declaration.flags).forM fun (key, enabled) => flag key enabled
  let isConstructor := declaration.role == .constructor
  flag "constructor" isConstructor
  flag "explicit" declaration.flags.explicit
  flag "default" (isConstructor && declaration.constructorKind == some .default)
  flag "copy" (isConstructor && declaration.constructorKind == some .copy)
  flag "move" (isConstructor && declaration.constructorKind == some .move)
  flag "destructor" (declaration.role == .destructor)

def writeParameters (parameters : List Parameter) : Walk Unit :=
  if parameters.isEmpty then line fun writer => .ok (writer.emptyList "args")
  else block (fun writer => .ok (writer.sequence "args")) do parameters.forM writeParameter

/-- The body of a method; its parameters and tags are asked for only when they are due. -/
def writeMethod (declaration : Function) : Walk Unit := do
  writeQualifiers declaration
  writeParameters (← allMembers declaration.parameters)
  writeTags (← tagsOf (.function declaration))

def documentFunction (declaration : Function) : Walk Bool := do
  let tags ← tagsOf (.function declaration)
  if !Tag.isEligible tags (← catalog).dumpAll then
    modifyStats fun stats => { stats with skipped := stats.skipped + 1 }
    return false
  let parameters ← allMembers declaration.parameters
  let signature : Signature := (declaration.name, parameters.map (·.type.name))
  if (← catalog).signatures.contains signature then
    report .info ("Function " ++ (Declaration.function declaration).shown ++
      " already dumped, ignoring redeclaration")
    modifyStats fun stats => { stats with duplicates := stats.duplicates + 1 }
    return false
  modifyCatalog fun catalog => { catalog with signatures := signature :: catalog.signatures }
  let name ← match Text.proper? declaration.name with
    | some name => pure name
    | none => identities Identities.unknownType
  let (key, keys) := (← catalog).keys.claim name
  modifyCatalog ({ · with keys })
  mapping key "function" none do
    writeLocation declaration.location
    writeQualifiers declaration
    writeParameters parameters
    writeTags tags
  modifyStats fun stats => { stats with functionsEmitted := stats.functionsEmitted + 1 }
  return true

end TypeCatalog.Walk
