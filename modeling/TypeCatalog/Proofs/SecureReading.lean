import TypeCatalog.Proofs.SoundTypes

/-!
# Sessions keep their types sound and end early only over a node

Each part of a session keeps the table of types sound.  If it fails, the cause
is a node of the tree that is read, and never a member that cannot be placed.
What was reported before has no say in any of this.
-/

namespace TypeCatalog

open Text (CodeText)

def SessionFault.IsExplained (root : SyntaxNode) : SessionFault → Prop
  | node fault => root.Explains fault
  | layout _ => False

def Outcome {α : Type} (root : SyntaxNode) (post : α → Prop) : Except SessionFault α → Prop
  | .ok a => post a
  | .error fault => fault.IsExplained root

namespace SessionPart

variable {α β : Type} {root node : SyntaxNode} {scope : List CodeText}

/-- Whatever was reported before, a part of a session comes to a result and a table of types. -/
def ComesTo (part : SessionPart α) (file : CodeText) (types : KnownTypes)
    (result : Except SessionFault α) (after : KnownTypes) : Prop :=
  ∀ reports, ∃ later, part.run ⟨file, types, reports⟩ = (result, ⟨file, after, later⟩)

/-- A part of a session that keeps the types sound, gives only results with a property, and
fails only with a cause in the tree. -/
def Secure (root : SyntaxNode) (post : α → Prop) (part : SessionPart α) : Prop :=
  ∀ file types, types.IsSound → ∃ result after,
    Outcome root post result ∧ after.IsSound ∧ part.ComesTo file types result after

namespace Secure

variable {post : α → Prop} {last : β → Prop}

theorem pure {a : α} (holds : post a) : Secure root post (pure a) :=
  fun _ types sound => ⟨.ok a, types, holds, sound, fun reports => ⟨reports, rfl⟩⟩

theorem bind {part : SessionPart α} {next : α → SessionPart β} (first : Secure root post part)
    (rest : ∀ a, post a → Secure root last (next a)) : Secure root last (part >>= next) := by
  intro file types sound
  obtain ⟨result, middle, outcome, kept, ran⟩ := first file types sound
  cases result with
  | error fault =>
      refine ⟨.error fault, middle, outcome, kept, fun reports => ?_⟩
      obtain ⟨later, ran⟩ := ran reports
      exact ⟨later, by rw [run_bind, ran]⟩
  | ok a =>
      obtain ⟨result, after, outcome, kept, went⟩ := rest a outcome file middle kept
      refine ⟨result, after, outcome, kept, fun reports => ?_⟩
      obtain ⟨later, ran⟩ := ran reports
      rw [run_bind, ran]
      exact went later

theorem reading {reading : Except ReadFault α} (reads : Reads root post reading) :
    Secure root post (liftM reading) := by
  intro file types sound
  refine ⟨reading.mapError .node, types, ?_, sound, fun reports => ⟨reports, rfl⟩⟩
  cases reading with
  | error fault => exact reads
  | ok a => exact reads

theorem composes (root : SyntaxNode) :
    ComposesWith fun α post (part : SessionPart α) => Secure root post part where
  pure := pure
  bind := bind

end Secure

abbrev Safe (root : SyntaxNode) (part : SessionPart α) : Prop :=
  Secure root (fun _ => True) part

theorem Secure.discard {post : α → Prop} {part : SessionPart α} (secure : Secure root post part) :
    Safe root (discard part) :=
  secure.bind fun _ _ => .pure trivial

theorem Safe.composes (root : SyntaxNode) :
    Composes fun α (part : SessionPart α) => Safe root part :=
  (Secure.composes root).unconditional

/-! ## Steps of a session -/

theorem report_safe (level : Level) (message channel : CodeText) :
    Safe root (report level message channel) :=
  fun _ types sound => ⟨.ok (), types, trivial, sound, fun reports => ⟨reports.push _, rfl⟩⟩

theorem types_secure : Secure root KnownTypes.IsSound types :=
  fun _ table sound => ⟨.ok table, table, sound, sound, fun reports => ⟨reports, rfl⟩⟩

theorem location_safe (node : SyntaxNode) : Safe root (location node) :=
  fun file types sound => ⟨.ok ⟨file, node.line⟩, types, trivial, sound, fun reports =>
    ⟨reports, rfl⟩⟩

theorem define_safe {entry : KnownType} (entered : entry.IsSound) : Safe root (define entry) := by
  have put : Safe root (modify fun session : Session =>
      { session with types := session.types.define entry } : SessionPart Unit) :=
    fun _ types sound => ⟨.ok (), types.define entry, trivial, sound.define entered,
      fun reports => ⟨reports, rfl⟩⟩
  refine types_secure.bind fun table _ => ?_
  dsimp only
  split
  · exact (report_safe _ _ _).bind fun _ _ => put
  · exact put

theorem resolve_secure (spelling : CodeText) (scope : List CodeText) :
    Secure root (fun found => found.1.IsAligned ∧ ∀ entry, found.2 = some entry → entry.IsSound)
      (resolve spelling scope) := by
  have found : Secure root
      (fun found => found.1.IsAligned ∧ ∀ entry, found.2 = some entry → entry.IsSound)
      (do return (← types).resolve spelling scope) :=
    types_secure.bind fun table sound => .pure (sound.resolve spelling scope)
  refine types_secure.bind fun table _ => ?_
  dsimp only
  split
  · exact (report_safe _ _ _).bind fun _ _ => found
  · exact found

/-! ## Declarators -/

end SessionPart

def SyntaxNode.Within (root : SyntaxNode) (node : Option SyntaxNode) : Prop :=
  ∀ inner, node = some inner → inner ∈ root.nodes

theorem SyntaxNode.Within.none {root : SyntaxNode} : root.Within none :=
  fun _ found => nomatch found

theorem SyntaxNode.Within.some {root node : SyntaxNode} (inside : node ∈ root.nodes) :
    root.Within (some node) :=
  fun _ found => Option.some.inj found ▸ inside

structure DeclaratorChain.IsSound (root : SyntaxNode) (chain : DeclaratorChain) : Prop where
  aligned : chain.layout.IsAligned
  function : root.Within chain.function

structure DeclaredEntity.IsSound (root : SyntaxNode) (entity : DeclaredEntity) : Prop where
  aligned : entity.layout.IsAligned
  name : root.Within entity.name
  function : root.Within entity.function

namespace DeclaratorChain

variable {root node : SyntaxNode} {chain : DeclaratorChain} {pointer : Layout}

open SyntaxNode

theorem apply_sound (sound : chain.IsSound root) (pointed : pointer.IsAligned)
    (inside : node ∈ root.nodes) : Reads root (IsSound root) (chain.apply pointer node) := by
  unfold apply
  split
  · exact ⟨KnownAlignment.none, .some inside⟩
  split
  · exact ⟨pointed, .none⟩
  split
  · exact (elementCount_reads inside).bind fun count _ => ⟨sound.aligned.array count, .none⟩
  split
  · exact (attributes_reads inside).bind fun attributes _ => ⟨sound.aligned, sound.function⟩
  split
  · exact ⟨sound.aligned, sound.function⟩
  · exact sound

theorem follow_sound {node : SyntaxNode} {chain : DeclaratorChain} (sound : chain.IsSound root)
    (pointed : pointer.IsAligned) (inside : node ∈ root.nodes) :
    Reads root (fun found => root.Within found.1 ∧ found.2.IsSound root)
      (chain.follow pointer node) := by
  rw [follow]
  split
  · exact ⟨.some inside, sound⟩
  refine (apply_sound sound pointed inside).bind fun next sound => ?_
  split
  · exact ⟨.none, sound⟩
  · rename_i inner found
    have smaller := sizeOf_innerDeclarator?_lt found
    exact follow_sound sound pointed (mem_nodes_of_innerDeclarator? inside found)
termination_by sizeOf node

end DeclaratorChain

namespace SessionPart

open SyntaxNode

variable {α β : Type} {root node : SyntaxNode} {scope : List CodeText}

def declaredBy (declared name : Option SyntaxNode) (chain : DeclaratorChain) :
    SessionPart DeclaredEntity := do
  match chain.unhandled with
  | some kind => report .debug ("Unhandled declarator " ++ kind)
  | none => pure ()
  let suffix ← (textAroundName declared name : Except ReadFault CodeText)
  return { name, suffix, layout := chain.layout, function := chain.function,
           derived := chain.derived, attributes := chain.attributes }

theorem declaredBy_secure {declared name : Option SyntaxNode} {chain : DeclaratorChain}
    (inside : root.Within declared) (named : root.Within name) (sound : chain.IsSound root) :
    Secure root (DeclaredEntity.IsSound root) (declaredBy declared name chain) := by
  have ended : Secure root (DeclaredEntity.IsSound root) (do
      let suffix ← (textAroundName declared name : Except ReadFault CodeText)
      return { name, suffix, layout := chain.layout, function := chain.function,
               derived := chain.derived, attributes := chain.attributes }) :=
    (Secure.reading (textAroundName_reads inside name)).bind fun suffix _ =>
      .pure ⟨sound.aligned, named, sound.function⟩
  unfold declaredBy
  dsimp only
  split
  · exact (report_safe _ _ _).bind fun _ _ => ended
  · exact ended

theorem declarator_secure {declared : Option SyntaxNode} (inside : root.Within declared)
    {base : Layout} (aligned : base.IsAligned) :
    Secure root (DeclaredEntity.IsSound root) (declarator declared base) := by
  have begun : DeclaratorChain.IsSound root { layout := base } := ⟨aligned, .none⟩
  refine types_secure.bind fun table sound => ?_
  have pointed := DataModel.pointer_aligned sound.model
  rcases declared with _ | node
  · exact declaredBy_secure inside .none begun
  · refine (Secure.reading (DeclaratorChain.follow_sound begun pointed (inside node rfl))).bind ?_
    rintro ⟨name, chain⟩ ⟨named, sound⟩
    exact declaredBy_secure inside named sound

/-! ## Functions -/

theorem readParameter_safe (inside : node ∈ root.nodes) (list : ParameterList) :
    Safe root (readParameter scope list node) := by
  have declared : root.Within (node.child? "declarator") :=
    fun inner found => mem_nodes_of_child? inside found
  refine (Secure.reading (textOf_reads fun inner found => ?_)).bind fun text _ => ?_
  · exact mem_nodes_of_child? inside found
  dsimp only
  split
  · exact .pure trivial
  refine (resolve_secure _ scope).bind fun ⟨layout, entry⟩ ⟨aligned, _⟩ => ?_
  refine (declarator_secure declared aligned).bind fun info sound => ?_
  refine (Secure.reading (cvQualifiers_reads inside)).bind fun qualifiers _ => ?_
  refine (Secure.reading (textOf_reads sound.name)).bind fun name _ => ?_
  exact (Secure.reading (attributes_reads inside)).bind fun own _ => .pure trivial

theorem parameters_safe {list : Option SyntaxNode} (inside : root.Within list) :
    Safe root (parameters scope list) := by
  rcases list with _ | node
  · exact .pure trivial
  refine (Safe.composes root).foldlM (fun child listed list => ?_) _
  split
  · exact .pure trivial
  split
  · exact readParameter_safe (mem_nodes_of_mem (inside node rfl) listed) list
  · exact .pure trivial

theorem isKnownMember_safe (scope : List CodeText) (name : CodeText) :
    Safe root (isKnownMember scope name) := by
  refine types_secure.bind fun table _ => ?_
  split <;> exact .pure trivial

theorem function_safe {declaration functionNode nameNode : SyntaxNode}
    (outside : declaration ∈ root.nodes) (inside : functionNode ∈ root.nodes)
    (named : nameNode ∈ root.nodes) (className : Option CodeText) (externC : Bool)
    (outer : List Attribute) :
    Safe root (function declaration functionNode nameNode scope className externC outer) := by
  have parameterList : root.Within (functionNode.child? "parameters") :=
    fun inner found => mem_nodes_of_child? inside found
  have rest (finish : FunctionTraits → List Attribute → List Attribute → ParameterList →
      Location → Option Function) : Safe root (do
        let written ←
          (FunctionTraits.written className.isSome declaration functionNode : Except ReadFault _)
        let own ← declaration.attributes
        let attributes ← functionNode.attributes
        let list ← parameters scope (functionNode.child? "parameters")
        let place ← location nameNode
        return finish written own attributes list place) := by
    refine (Secure.reading (FunctionTraits.written_reads outside inside _)).bind fun _ _ => ?_
    refine (Secure.reading (attributes_reads outside)).bind fun _ _ => ?_
    refine (Secure.reading (attributes_reads inside)).bind fun _ _ => ?_
    refine (parameters_safe parameterList).bind fun list _ => ?_
    exact (location_safe nameNode).bind fun place _ => .pure trivial
  unfold function
  refine (Secure.reading (declaredName_reads named)).bind fun name _ => ?_
  dsimp only
  split
  · refine (isKnownMember_safe scope name).bind fun known _ => ?_
    split
    · exact (report_safe _ _ _).bind fun _ _ => .pure trivial
    · exact rest _
  · exact rest _

/-! ## Types without members -/

def keepEnumeration (node : SyntaxNode) (scope : List CodeText) (layout : Layout) :
    SessionPart Layout := do
  match node.child? "name", node.child? "body" with
  | some name, some _ =>
    define { name := Name.qualify scope (← name.text), kind := .enumeration, layout }
  | _, _ => pure ()
  return layout

theorem keepEnumeration_secure (inside : node ∈ root.nodes) (scope : List CodeText)
    {layout : Layout} (aligned : layout.IsAligned) :
    Secure root Layout.IsAligned (keepEnumeration node scope layout) := by
  unfold keepEnumeration
  dsimp only
  split
  · rename_i name _ found _
    refine (Secure.reading (text_reads (mem_nodes_of_child? inside found))).bind fun text _ => ?_
    refine (define_safe ⟨aligned, fun record => ?_⟩).bind fun _ _ => .pure aligned
    cases record
  · exact .pure aligned

theorem enumeration_secure (inside : node ∈ root.nodes) (scope : List CodeText) :
    Secure root Layout.IsAligned (enumeration node scope) := by
  refine types_secure.bind fun table sound => ?_
  have standard := sound.builtin?_getD "int"
  dsimp only
  split
  · rename_i base found
    refine (Secure.reading (text_reads (mem_nodes_of_child? inside found))).bind fun text _ => ?_
    refine keepEnumeration_secure inside scope ?_
    rcases known : table.builtin? text with _ | layout
    · exact standard
    · exact DataModel.builtin?_aligned sound.model known
  · exact keepEnumeration_secure inside scope standard

theorem namedType_secure (scope : List CodeText) (spelling name : CodeText) :
    Secure root (fun type => type.layout.IsAligned) (namedType scope spelling name) :=
  (resolve_secure name scope).bind fun _ ⟨aligned, _⟩ => .pure aligned

theorem plainType_secure (inside : node ∈ root.nodes) (scope : List CodeText)
    (spelling : CodeText) :
    Secure root (fun type => type.layout.IsAligned) (plainType scope spelling node) := by
  unfold plainType
  split
  · exact types_secure.bind fun table sound => .pure (sound.builtin?_getD spelling)
  split
  · split
    · exact .pure KnownAlignment.none
    · rename_i name found
      exact (Secure.reading (text_reads (mem_nodes_of_child? inside found))).bind fun _ _ =>
        namedType_secure scope _ _
  split
  · split
    · refine (enumeration_secure inside scope).bind fun layout aligned => ?_
      dsimp only
      split
      · rename_i name found
        exact (Secure.reading (text_reads (mem_nodes_of_child? inside found))).bind fun _ _ =>
          .pure aligned
      · exact .pure aligned
    · refine (Secure.reading (textOf_reads fun inner found => ?_)).bind fun text _ => ?_
      · exact mem_nodes_of_child? inside found
      · exact (resolve_secure text scope).bind fun _ known => .pure known.1
  split
  · exact namedType_secure scope _ _
  · exact (report_safe _ _ _).bind fun _ _ => .pure KnownAlignment.none

theorem synonyms_safe {layout : Layout} (aligned : layout.IsAligned) (attributes : List Attribute)
    {declarators : List SyntaxNode} (inside : ∀ node ∈ declarators, node ∈ root.nodes) :
    Safe root (synonyms scope layout attributes declarators) := by
  refine (Safe.composes root).forM fun node listed => ?_
  refine (declarator_secure (.some (inside node listed)) aligned).bind fun info sound => ?_
  split
  · exact .pure trivial
  · rename_i name found
    refine (Secure.reading (text_reads (sound.name name found))).bind fun text _ => ?_
    exact define_safe ⟨sound.aligned, fun kind => nomatch kind⟩

/-! ## Bases -/

def BasesAligned (bases : List KnownBase) : Prop :=
  ∀ known ∈ bases, known.layout.IsAligned

structure BasesRead (root : SyntaxNode) (state : List KnownBase × BaseSpecifier) : Prop where
  aligned : BasesAligned state.1
  named : root.Within state.2.name

theorem closeBase_secure {record : SyntaxNode} (outside : record ∈ root.nodes)
    (scope : List CodeText) (access : Access) {bases : List KnownBase}
    (aligned : BasesAligned bases) {specifier : BaseSpecifier}
    (named : root.Within specifier.name) :
    Secure root BasesAligned (closeBase record scope access bases specifier) := by
  unfold closeBase
  split
  · exact .pure aligned
  rename_i name found
  refine (Secure.reading (text_reads (named name found))).bind fun text _ => ?_
  refine (resolve_secure _ scope).bind fun ⟨layout, entry⟩ ⟨_, sound⟩ => ?_
  have rest (base : Base) : BasesAligned (bases ++ [⟨base, entry⟩]) := by
    refine List.forall_mem_append.mpr ⟨aligned, List.forall_mem_singleton.mpr ?_⟩
    rcases entry with _ | entry
    · exact KnownAlignment.none
    · exact (sound entry rfl).aligned
  dsimp only
  split
  · refine (Secure.reading (textOf_reads fun inner found => ?_)).bind fun text _ => ?_
    · exact mem_nodes_of_child? outside found
    · exact (report_safe _ _ _).bind fun _ _ => .pure (rest _)
  · exact .pure (rest _)

theorem readBaseNode_secure {record : SyntaxNode} (outside : record ∈ root.nodes)
    (inside : node ∈ root.nodes) (scope : List CodeText) (access : Access)
    {state : List KnownBase × BaseSpecifier} (read : BasesRead root state) :
    Secure root (BasesRead root) (readBaseNode record scope access state node) := by
  obtain ⟨bases, specifier⟩ := state
  obtain ⟨aligned, named⟩ := read
  unfold readBaseNode
  dsimp only
  split
  · exact (closeBase_secure outside scope access aligned named).bind fun bases aligned =>
      .pure ⟨aligned, .none⟩
  split
  · exact .pure ⟨aligned, named⟩
  refine (Secure.reading (text_reads inside)).bind fun text _ => ?_
  split
  · split
    · exact .pure ⟨aligned, named⟩
    · exact (report_safe _ _ _).bind fun _ _ => .pure ⟨aligned, named⟩
  split
  · exact .pure ⟨aligned, named⟩
  split
  · exact .pure ⟨aligned, .some inside⟩
  · exact .pure ⟨aligned, named⟩

theorem bases_secure {record : SyntaxNode} (outside : record ∈ root.nodes)
    (scope : List CodeText) (access : Access) :
    Secure root BasesAligned (bases record scope access) := by
  unfold bases
  split
  · exact .pure fun _ listed => nomatch listed
  rename_i clause found
  have inside := mem_nodes_of_childOfKind? outside found
  have begun : BasesRead root ([], {}) := ⟨fun _ listed => (nomatch listed), .none⟩
  have nodes : Secure root (BasesRead root)
      (clause.children.foldlM (readBaseNode record scope access) ([], {})) :=
    (Secure.composes root).foldlM (fun child listed state read =>
      readBaseNode_secure outside (mem_nodes_of_mem inside listed) scope access read) begun
  exact nodes.bind fun _ read => closeBase_secure outside scope access read.aligned read.named

/-! ## Members -/

theorem Secure.placing {placing : Except LayoutFault α} (placed : ∃ a, placing = .ok a) :
    Safe root (liftM placing) := by
  obtain ⟨a, rfl⟩ := placed
  exact fun _ types sound => ⟨.ok a, types, trivial, sound, fun reports => ⟨reports, rfl⟩⟩

theorem placed_aligned {builder : LayoutBuilder} (aligned : builder.IsAligned) {layout : Layout}
    (member : layout.IsAligned) (unknown : Bool) (width : Option Int) (named : Bool) :
    (∃ offset, (placed builder layout unknown width named).1 = .ok offset) ∧
      (placed builder layout unknown width named).2.IsAligned := by
  have begun : (if unknown then builder.giveUp else builder).IsAligned := by
    cases unknown <;> exact aligned
  unfold placed
  cases width with
  | none => exact ⟨⟨_, rfl⟩, begun.placeField member⟩
  | some width => exact begun.placeBitfield member width named

theorem fieldName_safe {name : Option SyntaxNode} (named : root.Within name) :
    Safe root (fieldName name) := by
  rcases name with _ | node
  · exact .pure trivial
  unfold fieldName
  dsimp only
  split
  · exact .pure trivial
  · exact (Secure.reading (text_reads (named node rfl))).bind fun text _ => .pure trivial

theorem fieldWidth_safe {clause : Option SyntaxNode} (inside : root.Within clause) :
    Safe root (fieldWidth clause) := by
  rcases clause with _ | clause
  · exact .pure trivial
  · exact Secure.reading (bitfieldWidth_reads (inside clause rfl))

theorem warnWidth_safe (unknown : Bool) (className name : Option CodeText) :
    Safe root (warnWidth unknown className name) := by
  cases unknown
  · exact .pure trivial
  · exact report_safe _ _ _

def StateAligned (state : MemberState) : Prop :=
  state.builder.IsAligned

theorem readField_secure {context : FieldContext} (typed : context.type.layout.IsAligned)
    {name : Option SyntaxNode} (named : root.Within name) {info : Option DeclaredEntity}
    (sound : ∀ entity, info = some entity → entity.IsSound root) (attributes : List Attribute)
    {clause : Option SyntaxNode} (inside : root.Within clause) {state : MemberState}
    (aligned : StateAligned state) :
    Secure root StateAligned (readField context name info attributes clause state) := by
  have member : ((info.map (·.layout)).getD context.type.layout).IsAligned := by
    rcases info with _ | info
    · exact typed
    · exact (sound info rfl).aligned
  rw [readField_eq]
  refine (fieldName_safe named).bind fun name _ => ?_
  refine (fieldWidth_safe inside).bind fun width _ => ?_
  refine (warnWidth_safe _ _ _).bind fun _ _ => ?_
  have result := placed_aligned aligned member (clause.isSome && width.isNone) width name.isSome
  exact (Secure.placing result.1).bind fun offset _ => .pure result.2

theorem readMethod_secure {member functionNode name : SyntaxNode} (outside : member ∈ root.nodes)
    (inside : functionNode ∈ root.nodes) (named : name ∈ root.nodes) (scope : List CodeText)
    (className : Option CodeText) (attributes : List Attribute) {state : MemberState}
    (aligned : StateAligned state) :
    Secure root StateAligned
      (readMethod scope className member functionNode name attributes state) := by
  refine (function_safe outside inside named _ _ _).bind fun method _ => ?_
  rcases method with _ | method
  · exact .pure aligned
  · exact .pure aligned

theorem readDeclarator_secure {context : FieldContext} (typed : context.type.layout.IsAligned)
    {member : SyntaxNode} (outside : member ∈ root.nodes) (inside : node ∈ root.nodes)
    (scope : List CodeText) (own : List Attribute) (isStatic : Bool)
    {clause : Option SyntaxNode} (within : root.Within clause) {state : MemberState}
    (aligned : StateAligned state) :
    Secure root StateAligned
      (readDeclarator scope context member own isStatic clause state node) := by
  unfold readDeclarator
  split
  · refine readMethod_secure outside ?_ inside scope _ _ aligned
    rcases found : node.descendant? "abstract_function_declarator" with _ | inner
    · exact inside
    · exact mem_nodes_of_descendant? inside found
  refine (declarator_secure (.some inside) typed).bind fun info sound => ?_
  split
  · rename_i functionNode name found named
    exact readMethod_secure outside (sound.function _ found) (sound.name _ named) scope _ _ aligned
  · split
    · exact .pure aligned
    · rename_i name _ named _
      refine readField_secure typed (.some (sound.name _ named)) ?_ _ within aligned
      exact fun entity same => Option.some.inj same ▸ sound
  · exact .pure aligned

theorem readDeclarators_secure {member : SyntaxNode} (inside : member ∈ root.nodes)
    (scope : List CodeText) (className : Option CodeText) {type : SpecifiedType}
    (typed : type.layout.IsAligned) {state : MemberState} (aligned : StateAligned state) :
    Secure root StateAligned (readDeclarators scope className member type state) := by
  have width : root.Within member.widthClause? :=
    fun clause found => mem_nodes_of_widthClause? inside found
  have listed (node : SyntaxNode) (held : node ∈ member.childrenBy "declarator") :
      node ∈ root.nodes := mem_nodes_of_childrenBy inside held
  unfold readDeclarators
  refine (Secure.reading (attributes_reads inside)).bind fun own _ => ?_
  refine (Secure.reading (cvQualifiers_reads inside)).bind fun qualifiers _ => ?_
  dsimp only
  split
  · split
    · exact readField_secure typed .none (fun _ found => by cases found) own width aligned
    · exact .pure aligned
  · rename_i last found
    refine (Secure.reading (hasStorageClass_reads inside _)).bind fun isStatic _ => ?_
    have early : Secure root StateAligned ((member.childrenBy "declarator").dropLast.foldlM
        (readDeclarator scope ⟨Text.proper? className, qualifiers, type⟩ member own isStatic none)
        { state with nested := state.nested ++ type.nested }) := by
      refine (Secure.composes root).foldlM (fun node held state aligned => ?_) aligned
      exact readDeclarator_secure typed inside (listed node (List.dropLast_subset _ held)) scope
        own isStatic .none aligned
    refine early.bind fun state aligned => ?_
    exact readDeclarator_secure typed inside (listed last (List.mem_of_getLast? found)) scope
      own isStatic width aligned

/-! ## Records -/

theorem recordHead_safe (inside : node ∈ root.nodes) (scope : List CodeText)
    (given : Option CodeText) : Safe root (recordHead scope given node) := by
  have rest (writtenName : Option CodeText) : Safe root (do
      return {
        kind := (recordKinds.lookup node.kind).getD ""
        writtenName
        qualified := (Text.proper? writtenName).map (Name.qualify scope)
        attributes := ← node.attributes
        location := ← location ((node.child? "name").getD node) : RecordHead }) :=
    (Secure.reading (attributes_reads inside)).bind fun attributes _ =>
      (location_safe _).bind fun place _ => .pure trivial
  unfold recordHead
  dsimp only
  split
  · rename_i name found
    exact (Secure.reading (text_reads (mem_nodes_of_child? inside found))).bind fun text _ =>
      rest _
  · exact rest _

theorem enter_safe {head : RecordHead} {layout : Layout} (aligned : layout.IsAligned)
    (sized : ∀ size, layout.size = some size → 1 ≤ size) (dynamic empty : Bool) :
    Safe root ((head.entry? layout dynamic empty).forM define) := by
  rcases entry_eq : head.entry? layout dynamic empty with _ | entry
  · exact .pure trivial
  · obtain ⟨name, -, rfl⟩ := Option.map_eq_some_iff.mp entry_eq
    exact define_safe ⟨aligned, fun _ => sized⟩

theorem soundPlan_secure {body : SyntaxNode} (outside : node ∈ root.nodes)
    (inside : body ∈ root.nodes) (scope : List CodeText) (head : RecordHead) :
    Secure root (fun plan => BasesAligned plan.bases) (soundPlan scope head node body) := by
  unfold soundPlan
  refine (enter_safe KnownAlignment.none (fun _ found => by cases found) _ _).bind fun _ _ => ?_
  refine (bases_secure outside scope _).bind fun bases aligned => ?_
  refine (Secure.reading ((Explained.composes root).anyM fun member listed => ?_)).bind
    fun _ _ => .pure aligned
  exact marksVirtual_reads (mem_nodes_of_items inside listed)

theorem warnErrors_safe (errors : Bool) (head : RecordHead) :
    Safe root (warnErrors errors head) := by
  cases errors
  · exact .pure trivial
  · exact report_safe _ _ _

theorem recordPlan_secure {body : SyntaxNode} (outside : node ∈ root.nodes)
    (inside : body ∈ root.nodes) (scope : List CodeText) (head : RecordHead) :
    Secure root (fun plan => BasesAligned plan.bases) (recordPlan scope head node body) := by
  rw [recordPlan_eq]
  exact (warnErrors_safe _ head).bind fun _ _ => soundPlan_secure outside inside scope head

theorem mem_firstToFront {p : α → Bool} {items : List α} {item : α}
    (listed : item ∈ firstToFront p items) : item ∈ items := by
  unfold firstToFront at listed
  split at listed
  · exact listed
  split at listed
  · exact listed
  · rename_i found
    rcases List.mem_cons.mp listed with rfl | later
    · exact List.mem_of_getElem? found
    · exact List.mem_of_mem_eraseIdx later

theorem mem_ordered {plan : RecordPlan} {known : KnownBase} (listed : known ∈ plan.ordered) :
    known ∈ plan.bases := by
  rcases List.mem_append.mp listed with first | last
  · exact (List.mem_filter.mp (mem_firstToFront first)).1
  · exact (List.mem_filter.mp last).1

theorem start_aligned {plan : RecordPlan} (aligned : BasesAligned plan.bases) {model : DataModel}
    (listed : model ∈ DataModel.all) : StateAligned (plan.start model) := by
  have bare : LayoutBuilder.IsAligned { model, isUnion := plan.head.kind == "union" } :=
    fun align found => Option.some.inj found ▸ ⟨0, by decide, rfl⟩
  have based {builder : LayoutBuilder} (begun : builder.IsAligned) :
      LayoutBuilder.IsAligned ((plan.ordered.filter (!·.isVirtual)).foldl
        (fun builder base => (builder.placeBase base.layout base.isEmpty).2) builder) :=
    LayoutBuilder.IsAligned.foldl (fun base held builder begun =>
      begun.placeBase (aligned base (mem_ordered (List.mem_filter.mp held).1)) _) begun
  unfold RecordPlan.start StateAligned
  dsimp only
  split
  · exact based (bare.placeVptr listed)
  · exact based bare

theorem finish_aligned {plan : RecordPlan} (aligned : BasesAligned plan.bases)
    {state : MemberState} (begun : StateAligned state) : (plan.finish state).IsAligned :=
  LayoutBuilder.IsAligned.foldl (fun base held _ begun =>
    begun.placeField (aligned base (mem_ordered (List.mem_filter.mp held).1))) begun

theorem finishRecord_secure {plan : RecordPlan} (aligned : BasesAligned plan.bases)
    {state : MemberState} (begun : StateAligned state) :
    Secure root (fun built => built.layout.IsAligned) (finishRecord plan state) := by
  have finished := (finish_aligned aligned begun).finish
  exact (enter_safe finished (LayoutBuilder.one_le_finish _) _ _).bind fun _ _ => .pure finished

theorem givenName_safe (node : SyntaxNode) {declarators : List SyntaxNode}
    (listed : ∀ node ∈ declarators, node ∈ root.nodes) : Safe root (givenName node declarators) := by
  unfold givenName
  split
  · rename_i first _ _
    refine (declarator_secure (.some (listed first List.mem_cons_self)) KnownAlignment.none).bind
      fun info sound => ?_
    split
    · rename_i name found
      split
      · exact .pure trivial
      · exact (Secure.reading (text_reads (sound.name name found))).bind fun _ _ => .pure trivial
    · exact .pure trivial
  · exact .pure trivial

-- The readings call each other, so their rules are proved together, by the measure that the
-- readings themselves decrease.
mutual

theorem readSpecifier_secure {node : SyntaxNode} (inside : node ∈ root.nodes)
    (scope : List CodeText) :
    Secure root (fun type => type.layout.IsAligned) (readSpecifier scope node) := by
  rw [readSpecifier]
  refine (Secure.reading (text_reads inside)).bind fun text _ => ?_
  dsimp only
  split
  · refine (readRecord_secure inside scope none).bind fun built aligned => ?_
    split
    · rename_i name found
      exact (Secure.reading (text_reads (mem_nodes_of_child? inside found))).bind fun _ _ =>
        .pure aligned
    · exact .pure aligned
  · exact plainType_secure inside scope _
termination_by (sizeOf node, 1)
decreasing_by exact Prod.Lex.right _ (by omega)

theorem readRecord_secure {node : SyntaxNode} (inside : node ∈ root.nodes) (scope : List CodeText)
    (given : Option CodeText) :
    Secure root (fun built => built.layout.IsAligned) (readRecord scope given node) := by
  rcases found : node.child? "body" with _ | body
  · rw [readRecord]
    refine (recordHead_safe inside scope given).bind fun head _ => ?_
    split
    · exact .pure KnownAlignment.none
    · rename_i same
      cases found.symm.trans same
  · have within := mem_nodes_of_child? inside found
    rw [readRecord_eq scope given found]
    refine (recordHead_safe inside scope given).bind fun head _ => ?_
    refine (recordPlan_secure inside within scope head).bind fun plan aligned => ?_
    refine types_secure.bind fun table sound => ?_
    have members : Secure root StateAligned (body.items.foldlM
        (readMember (head.memberScope scope) head.writtenName) (plan.start table.model)) :=
      (Secure.composes root).foldlM (fun member listed state begun =>
        readMember_secure (mem_nodes_of_items within listed) _ _ begun)
        (start_aligned aligned sound.model)
    exact members.bind fun state begun => finishRecord_secure aligned begun
termination_by (sizeOf node, 0)
decreasing_by
  have inner := SyntaxNode.sizeOf_items_lt listed
  have outer := SyntaxNode.sizeOf_child?_lt found
  exact Prod.Lex.left _ _ (by omega)

theorem readMember_secure {member : SyntaxNode} (inside : member ∈ root.nodes)
    (scope : List CodeText) (className : Option CodeText) {state : MemberState}
    (aligned : StateAligned state) :
    Secure root StateAligned (readMember scope className state member) := by
  rw [readMember]
  split
  · split
    · rename_i type found
      have smaller := SyntaxNode.sizeOf_child?_lt found
      refine (readSpecifier_secure (mem_nodes_of_child? inside found) scope).bind fun type typed => ?_
      exact readDeclarators_secure inside scope className typed aligned
    · exact readDeclarators_secure inside scope className KnownAlignment.none aligned
  split
  · exact (typeDefinition_safe inside scope).bind fun records _ => .pure aligned
  split
  · exact (synonym_safe inside scope).bind fun _ _ => .pure aligned
  split
  · exact (report_safe _ _ _).bind fun _ _ => .pure aligned
  · exact .pure aligned
termination_by (sizeOf member, 1)
decreasing_by
  · exact Prod.Lex.right _ (by omega)
  · exact Prod.Lex.right _ (by omega)
  · exact Prod.Lex.left _ _ smaller

theorem typeDefinition_safe {node : SyntaxNode} (inside : node ∈ root.nodes)
    (scope : List CodeText) : Safe root (typeDefinition scope node) := by
  have listed (inner : SyntaxNode) (held : inner ∈ node.childrenBy "declarator") :
      inner ∈ root.nodes := mem_nodes_of_childrenBy inside held
  rw [typeDefinition]
  split
  · exact (synonyms_safe KnownAlignment.none [] listed).bind fun _ _ => .pure trivial
  rename_i type found
  have smaller := SyntaxNode.sizeOf_child?_lt found
  have within := mem_nodes_of_child? inside found
  split
  · refine (givenName_safe type listed).bind fun given _ => ?_
    refine (readRecord_secure within scope given).bind fun built aligned => ?_
    exact (synonyms_safe aligned _ listed).bind fun _ _ => .pure trivial
  · refine (readSpecifier_secure within scope).bind fun resolved aligned => ?_
    exact (synonyms_safe aligned _ listed).bind fun _ _ => .pure trivial
termination_by (sizeOf node, 0)
decreasing_by all_goals exact Prod.Lex.left _ _ smaller

theorem synonym_safe {node : SyntaxNode} (inside : node ∈ root.nodes) (scope : List CodeText) :
    Safe root (synonym scope node) := by
  have rest {name descriptor : SyntaxNode} (named : name ∈ root.nodes)
      (within : descriptor ∈ root.nodes) {type : SpecifiedType} (typed : type.layout.IsAligned) :
      Safe root (do
        let info ← declarator (descriptor.child? "declarator") type.layout
        define
          { name := Name.qualify scope (← name.text), kind := .synonym, layout := info.layout,
            attributes := if info.derived then [] else type.attributes }) := by
    have declared : root.Within (descriptor.child? "declarator") :=
      fun inner found => mem_nodes_of_child? within found
    refine (declarator_secure declared typed).bind fun info sound => ?_
    refine (Secure.reading (text_reads named)).bind fun text _ => ?_
    exact define_safe ⟨sound.aligned, fun record => nomatch record⟩
  rw [synonym]
  split
  · rename_i name descriptor named outer
    have within := mem_nodes_of_child? inside outer
    split
    · rename_i type inner
      have smaller : sizeOf type < sizeOf node :=
        Nat.lt_trans (SyntaxNode.sizeOf_child?_lt inner) (SyntaxNode.sizeOf_child?_lt outer)
      refine (readSpecifier_secure (mem_nodes_of_child? within inner) scope).bind fun type typed => ?_
      exact rest (mem_nodes_of_child? inside named) within typed
    · exact rest (mem_nodes_of_child? inside named) within KnownAlignment.none
  · exact .pure trivial
termination_by (sizeOf node, 0)
decreasing_by exact Prod.Lex.left _ _ smaller

end

/-! ## Items -/

theorem declaredFunction_safe {item : Item} (inside : item.node ∈ root.nodes)
    {declared : Option SyntaxNode} (within : root.Within declared) :
    Safe root (declaredFunction item declared) := by
  refine (declarator_secure within KnownAlignment.none).bind fun info sound => ?_
  split
  · rename_i functionNode name found named
    exact function_safe inside (sound.function _ found) (sound.name _ named) _ _ _
  dsimp only
  split
  · exact (report_safe _ _ _).bind fun _ _ => .pure trivial
  · exact .pure trivial

theorem leadingType_safe {item : Item} (inside : item.node ∈ root.nodes) :
    Safe root (leadingType item) := by
  unfold leadingType
  split
  · exact .pure trivial
  rename_i type found
  have within := mem_nodes_of_child? inside found
  split
  · split
    · exact (readRecord_secure within _ none).bind fun built _ => .pure trivial
    · exact .pure trivial
  dsimp only
  split
  · exact (enumeration_secure within _).discard.bind fun _ _ => .pure trivial
  · exact .pure trivial

theorem declaration_safe {item : Item} (inside : item.node ∈ root.nodes) :
    Safe root (declaration item) := by
  refine (leadingType_safe inside).bind fun leading _ => ?_
  refine ((Safe.composes root).filterMapM fun node listed => ?_).bind
    fun functions _ => .pure trivial
  exact declaredFunction_safe inside (.some (mem_nodes_of_childrenBy inside listed))

theorem group_safe {item : Item} (inside : item.node ∈ root.nodes) : Safe root (group item) := by
  rw [group]
  dsimp only
  split
  · split
    · rename_i inner found
      have listed := List.mem_of_find?_eq_some found
      have smaller := SyntaxNode.sizeOf_namedChildren_lt listed
      have below : ({ item with node := inner } : Item).node ∈ root.nodes :=
        mem_nodes_of_named inside listed
      exact group_safe below
    · exact .pure trivial
  split
  · exact (readRecord_secure inside _ none).bind fun built _ => .pure trivial
  split
  · exact (enumeration_secure inside _).discard.bind fun _ _ => .pure trivial
  split
  · refine (declaredFunction_safe inside fun inner found => ?_).bind fun function _ => .pure trivial
    exact mem_nodes_of_child? inside found
  split
  · exact declaration_safe inside
  split
  · exact (typeDefinition_safe inside _).bind fun records _ => .pure trivial
  split
  · exact (synonym_safe inside _).bind fun _ _ => .pure trivial
  · exact .pure trivial
termination_by sizeOf item.node

end SessionPart

end TypeCatalog
