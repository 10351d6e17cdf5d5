import TypeCatalog.Syntax.Declarator
import TypeCatalog.Text.WordChar

/-!
# Functions and methods

A function is read from three nodes: the declaration, the function declarator
in it and the declared name.  Inside a record it is a method, and a
constructor if it has the name of the record.
-/

namespace TypeCatalog

open Text

/-! ## Parameters -/

def parameterKinds : List String :=
  ["parameter_declaration", "optional_parameter_declaration", "variadic_parameter_declaration"]

structure ParameterList where
  parameters : List Parameter := []
  /-- For each parameter, whether it has a default. -/
  defaults : List Bool := []
  variadic : Bool := false

def SyntaxNode.cvQualifiers (node : SyntaxNode) : Except ReadFault CodeText := do
  let texts ← (node.children.filter (·.kind == "type_qualifier")).mapM SyntaxNode.text
  return joinWith " " (texts.filter fun text => text == "const" || text == "volatile")

namespace SessionPart

/-- Adds a parameter to a list.  The lone `void` of an empty list is none. -/
def readParameter (scope : List CodeText) (list : ParameterList) (node : SyntaxNode) :
    SessionPart ParameterList := do
  let declared := node.child? "declarator"
  let spelling := Name.normalizeSpelling (← SyntaxNode.textOf (node.child? "type"))
  if spelling == "void" && declared.isNone then return list
  let (layout, entry) ← resolve spelling scope
  let info ← declarator declared layout
  let display := Name.normalizeSpelling
    ((← node.cvQualifiers) ++ " " ++ spelling ++ " " ++ info.suffix)
  let typeAttributes := if info.derived then [] else (entry.map (·.attributes)).getD []
  let name ← SyntaxNode.textOf info.name
  let own ← node.attributes
  let parameter : Parameter :=
    { name := some name
      type :=
        { name := some display, size := info.layout.size, align := info.layout.align,
          attributes := typeAttributes }
      attributes := own ++ info.attributes }
  return { list with
    parameters := list.parameters ++ [parameter]
    defaults := list.defaults ++ [node.kind == "optional_parameter_declaration"] }

def parameters (scope : List CodeText) : Option SyntaxNode → SessionPart ParameterList
  | none => pure {}
  | some node => node.children.foldlM (fun list child =>
      if child.kind == "..." || child.kind == "variadic_parameter" then
        pure { list with variadic := true }
      else if child.isKind parameterKinds then readParameter scope list child
      else pure list) {}

end SessionPart

/-! ## Constructors -/

def startsWithWord (word text : CodeText) : Bool :=
  word.isPrefixOf text && !(text.drop word.length).head?.any CodePoint.isWordChar

/-- Drops blanks and the words `const` and `volatile`.  `inWord` says that the previous
character belongs to a word; the number counts characters of a dropped word. -/
def dropQualifiers : Bool → Nat → CodeText → CodeText
  | _, _, [] => []
  | _, skip + 1, c :: rest => dropQualifiers c.isWordChar skip rest
  | inWord, 0, c :: rest =>
    if c.isBlank then dropQualifiers false 0 rest
    else if !inWord && startsWithWord "const" (c :: rest) then
      dropQualifiers c.isWordChar 4 rest
    else if !inWord && startsWithWord "volatile" (c :: rest) then
      dropQualifiers c.isWordChar 7 rest
    else c :: dropQualifiers c.isWordChar 0 rest

/-- What a constructor is for: it is a default constructor if no argument is needed, a copy
or move constructor if exactly one is, a reference to the record itself. -/
def constructorKind? (list : ParameterList) (className : CodeText) : Option ConstructorKind :=
  if list.defaults.all id then some .default
  else if list.defaults.head? == some true || !list.defaults.tail.all id then none
  else
    let spelling := (list.parameters.head?.bind (·.type.name)).getD ""
    let compact := dropQualifiers false 0 spelling
    let marks := (compact.reverse.takeWhile (· == .scalar '&')).length
    let referenced := compact.take (compact.length - marks)
    if Name.simple referenced != Name.simple className then none
    else if marks == 1 then some .copy
    else if marks == 2 then some .move
    else none

/-! ## Flags -/

def specifierKinds : List String :=
  ["storage_class_specifier", "virtual", "virtual_function_specifier", "type_qualifier",
    "explicit_function_specifier"]

namespace FunctionTraits

def addSpecifier (isMethod : Bool) (flags : FunctionTraits) (child : SyntaxNode) :
    Except ReadFault FunctionTraits := do
  if child.kind == "delete_method_clause" then return { flags with deleted := true }
  if child.isNamed && !child.isKind specifierKinds then return flags
  let text ← child.text
  if text == "static" && isMethod then return { flags with static := true }
  else if text == "virtual" then return { flags with virtual := true }
  else if child.kind == "explicit_function_specifier" || text == "explicit" then
    return { flags with explicit := true }
  else if text == "constexpr" || text == "consteval" then return { flags with constexpr := true }
  else return flags

def addQualifier (flags : FunctionTraits) (child : SyntaxNode) :
    Except ReadFault FunctionTraits := do
  let text := (Name.normalizeSpelling (← child.text)).filter (· != .scalar ' ')
  if child.kind == "type_qualifier" && text == "const" then return { flags with const := true }
  else if child.kind == "virtual_specifier" then return { flags with virtual := true }
  else if child.kind == "noexcept" && (text == "noexcept" || text == "noexcept(true)") then
    return { flags with nothrow := true }
  else if child.kind == "throw_specifier" && text == "throw()" then
    return { flags with nothrow := true }
  else return flags

def written (isMethod : Bool) (declaration function : SyntaxNode) :
    Except ReadFault FunctionTraits := do
  let flags ← declaration.children.foldlM (addSpecifier isMethod) {}
  function.children.foldlM addQualifier flags

end FunctionTraits

/-! ## Functions -/

def declaredName (node : SyntaxNode) : Except ReadFault CodeText := do
  if node.kind == "operator_cast" then
    return Name.normalizeSpelling (SyntaxNode.beforeParen (← node.text))
  else return Name.normalize (← node.text)

namespace SessionPart

def isKnownMember (scope : List CodeText) (name : CodeText) : SessionPart Bool := do
  match (← types).lookup (Name.owner name) scope with
  | some entry => return entry.kind == .record
  | none => return false

/-- Reads a method of a record, given the name of the record, or a function outside of any.
There is none if the declaration defines a member of a record known to the run. -/
def function (declaration functionNode nameNode : SyntaxNode) (scope : List CodeText)
    (className : Option CodeText) (externC : Bool) (outer : List Attribute) :
    SessionPart (Option Function) := do
  let name ← (declaredName nameNode : Except ReadFault CodeText)
  if className.isNone && nameNode.kind == "qualified_identifier" then
    if ← isKnownMember scope name then
      report .debug ("Skipping out-of-line member definition " ++ name)
      return none
  let written ←
    (FunctionTraits.written className.isSome declaration functionNode : Except ReadFault _)
  let isDestructor := nameNode.kind == "destructor_name"
  let isOperator := nameNode.kind == "operator_name"
  let isConversion := nameNode.kind == "operator_cast"
  let role : FunctionRole := match className with
    | none => .function
    | some record =>
      if isDestructor then .destructor
      else if isOperator || isConversion then .method
      else if name == Name.simple record then .constructor
      else .method
  let attributes := (← declaration.attributes) ++ (← functionNode.attributes) ++ outer
  let list ← parameters scope (functionNode.child? "parameters")
  let kind := if role == .constructor then constructorKind? list (className.getD "") else none
  return some
    { name := some (if className.isSome then name else Name.qualify scope name)
      location := ← location nameNode
      role
      flags :=
        { written with
          operator := isOperator, conversion := isConversion
          noreturn := attributes.any fun a => Name.simple a.name == "noreturn"
          externC, variadic := list.variadic }
      constructorKind := kind
      parameters := { items := list.parameters }
      attributes }

end SessionPart

end TypeCatalog
