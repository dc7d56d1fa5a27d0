import BlockExtension.Proofs.OwnProperties
import BlockExtension.Proofs.TextCase
import BlockExtension.Proofs.TreeCase

/-!
# The two compile steps agree

An operation goes through the compiler twice. The tree step finds its case by
the opcode and builds a node; the text step finds its case by the kind of that
node and reads the node's entries. The descriptor tells the host which identifier
each argument has. The emitters of all this know nothing of each other, so what
makes the parts fit is stated here: `Link` follows one operation from the tree
case to the text cases and to its descriptor entry, and every comparison in it is
between things that were read back from what is emitted.

The literal of a node is read twice. `readNode` lists its entries as they are
written, and every one of them has a binding that reads it. `ownNames` lists the
properties that the node has by the rules of the script. The two differ in one
case: the entry of an argument `__proto__` sets the prototype of the node, so the
text cases read a property that the node does not define.

## Main results

* `descriptorArguments_ofOperation`: what a descriptor entry says about the
  identifiers of arguments.
* `Link.definesRead_iff`: a node defines what the text cases read of it exactly when
  no argument is named like the prototype.
* `backends_agree`: the tables list the same operations, and every one of them is
  linked through.
-/

namespace BlockExtension

open BlockExtension.Script (Literal)
open BlockExtension.Script.Lexer (filter_prototypeName_eq_self_iff ownNames propertiesBehind
  prototypeName)
open BlockExtension.Dispatch
open BlockExtension.Descriptor (fieldOf textOf)

/-! ## Reading the descriptor -/

def descriptorOpcode (entry : Literal) : Option String := (fieldOf entry "opcode").bind textOf

def descriptorEntry? (entries : List Literal) (opcode : String) : Option Literal :=
  entries.find? fun entry => descriptorOpcode entry = some opcode

/--
The names of the arguments of an entry, each with the identifier that the entry says. An
entry without arguments has no such field.
-/
def descriptorArguments (entry : Literal) : List (String × String) :=
  match fieldOf entry "arguments" with
  | some (.record fields) => fields.filterMap fun (name, value) =>
      ((fieldOf value "gen_id").bind textOf).map fun id => (name, id)
  | _ => []

/-- The entry of a block says the opcode of its operation, if it has one. -/
theorem descriptorOpcode_entry (block : Block) :
    descriptorOpcode (Descriptor.entry block) = block.operation?.map (·.opcode) := by
  cases block with
  | separator => rfl
  | label text => rfl
  | operation operation => rfl

/-- The entry of an operation says which identifier each of its arguments has. -/
theorem descriptorArguments_ofOperation (operation : Operation) :
    descriptorArguments (Descriptor.ofOperation operation) =
      operation.arguments.map fun argument => (argument.name, argument.id) := by
  have hArguments : fieldOf (Descriptor.ofOperation operation) "arguments" =
      Descriptor.ofArguments operation.arguments := by
    simp only [fieldOf, Descriptor.ofOperation, List.lookup_append, lookup_optionalField]
    cases Descriptor.ofArguments operation.arguments <;> rfl
  rw [descriptorArguments, hArguments, Descriptor.ofArguments]
  cases hEmpty : operation.arguments with
  | nil => rfl
  | cons first rest =>
      have hId : ∀ argument, (fieldOf (Descriptor.ofArgument argument) "gen_id").bind textOf =
          some argument.id := fun argument => rfl
      simp only [List.isEmpty_cons, Bool.false_eq_true, if_false, List.filterMap_map,
        Function.comp_def, hId, Option.map_some]
      exact congrFun List.filterMap_eq_map _

/--
Under the opcode of an operation the descriptor has the entry of that operation. No other
entry has that opcode, so it is the only one that is found.
-/
theorem descriptorEntry?_of_mem {blocks : List Block} {operation : Operation}
    (hNodup : ((blocks.filterMap Block.operation?).map (·.opcode)).Nodup)
    (hMem : .operation operation ∈ blocks) :
    descriptorEntry? (Descriptor.entries blocks) operation.opcode =
      some (Descriptor.ofOperation operation) := by
  induction blocks with
  | nil => cases hMem
  | cons block blocks ih =>
      rw [Descriptor.entries, List.map_cons, descriptorEntry?, List.find?_cons,
        descriptorOpcode_entry]
      rcases List.mem_cons.1 hMem with rfl | hMem
      · simp [Block.operation?, Descriptor.entry]
      · cases hBlock : block.operation? with
        | none =>
            rw [List.filterMap_cons_none hBlock] at hNodup
            exact ih hNodup hMem
        | some first =>
            rw [List.filterMap_cons_some hBlock, List.map_cons, List.nodup_cons] at hNodup
            have hOther : first.opcode ≠ operation.opcode := by
              intro hSame
              refine hNodup.1 (hSame ▸ List.mem_map_of_mem ?_)
              exact List.mem_filterMap.2 ⟨_, hMem, rfl⟩
            have hRest := ih hNodup.2 hMem
            rw [Option.map_some, show decide (some first.opcode = some operation.opcode) = false by
              simp [hOther]]
            exact hRest

/-! ## Links -/

/--
The way of an operation through the compiler: its tree case, the node that this
case returns, the text cases that are found by the kind of the node, and the
entry of the descriptor.
-/
structure Link (extension : Extension) (blocks : List Block) (operation : Operation) where
  treeCase : Case
  /-- The node that the tree case returns, its entries as they are written. -/
  node : Node
  /-- The properties that the node defines besides the block and its kind. -/
  own : List String
  statementCase : Case
  expressionCase : Case
  statement : TextCase
  expression : TextCase
  entry : Literal
  /-- The host finds the tree case by the opcode. -/
  treeCase_found : (tables extension blocks).treeBuild.find?
    (KeyStyle.underscored.key extension.id operation.opcode) = some treeCase
  node_read : readNode treeCase.body = some node
  /-- The own properties of the literal, wherever the case stands in the module. -/
  own_read : ∀ indent,
    (propertiesBehind "return \x7b" (bodyText indent treeCase.body)).map ownNames =
      some (["block", "kind"] ++ own)
  /-- The host finds the text cases by the kind of the node. -/
  statementCase_found : (tables extension blocks).statement.find? node.kind = some statementCase
  expressionCase_found : (tables extension blocks).expression.find? node.kind = some expressionCase
  statement_opcode : statementCase.opcode = operation.opcode
  expression_opcode : expressionCase.opcode = operation.opcode
  statement_read : readTextCase statementCase.body = some statement
  expression_read : readTextCase expressionCase.body = some expression
  /-- The text cases read the entries that the tree case writes, in the same order. -/
  statement_names : statement.bindings.map (·.name) = node.entries.map (·.name)
  expression_names : expression.bindings.map (·.name) = node.entries.map (·.name)
  sources_eq : ∀ nodeEntry ∈ node.entries, nodeEntry.source = nodeEntry.name
  /-- The descriptor says the identifiers that the text cases bind. -/
  entry_found : descriptorEntry? (Descriptor.entries blocks) operation.opcode = some entry
  statement_ids :
    statement.bindings.map (fun binding => (binding.name, binding.id)) = descriptorArguments entry
  expression_ids :
    expression.bindings.map (fun binding => (binding.name, binding.id)) = descriptorArguments entry

/--
The properties that the node defines besides the block and its kind are the ones
that the text cases read, in the same order.
-/
structure Link.DefinesRead {extension : Extension} {blocks : List Block} {operation : Operation}
    (link : Link extension blocks operation) : Prop where
  statement : link.own = link.statement.bindings.map (·.name)
  expression : link.own = link.expression.bindings.map (·.name)

/--
All four tables list the operations declared with code, and every one is linked
through. What the text cases read of its node is what the node defines, with one
exception: a node does not define what the prototype is named.
-/
structure Agreement (extension : Extension) (declarations : List Declaration)
    (blocks : List Block) : Prop where
  statement_opcodes : (tables extension blocks).statement.cases.map (·.opcode) =
    emittingOpcodes declarations
  expression_opcodes : (tables extension blocks).expression.cases.map (·.opcode) =
    emittingOpcodes declarations
  treeBuild_opcodes : (tables extension blocks).treeBuild.cases.map (·.opcode) =
    emittingOpcodes declarations
  treeInput_opcodes : (tables extension blocks).treeInput.cases.map (·.opcode) =
    emittingOpcodes declarations
  tree_cases : (tables extension blocks).treeBuild.cases = (tables extension blocks).treeInput.cases
  linked : ∀ operation ∈ Block.emitting blocks, Nonempty (Link extension blocks operation)
  definesRead_iff : ∀ operation ∈ Block.emitting blocks,
    ∀ link : Link extension blocks operation,
      link.DefinesRead ↔ prototypeName ∉ operation.arguments.map (·.name)

/-- The text case of a resolved operation binds its arguments. -/
private theorem exists_readTextCase {declared : OperationDeclaration} {operation : Operation}
    (h : declared.Resolves operation) {code : String} (hCode : declared.code = some code) :
    (∃ template, readTextCase (statementBody operation) =
      some ⟨operation.arguments.map bindingOf, template⟩) ∧
    ∃ template, readTextCase (expressionBody operation) =
      some ⟨operation.arguments.map bindingOf, template⟩ := by
  have hCoded := coded_of_resolves h hCode
  refine ⟨?_, ?_⟩
  · obtain ⟨template, hRead, _⟩ := evaluates_statementBody hCoded
    exact ⟨template, hRead⟩
  · obtain ⟨template, hRead, _⟩ := evaluates_expressionBody hCoded
    exact ⟨template, hRead⟩

/--
An operation that emits code is linked through: the tree case builds a node whose kind finds
the text cases of the same operation.
-/
theorem nonempty_link {naming : Naming} {declarations : List Declaration}
    {resolution : Resolution}
    (hRead : ∀ declaration ∈ declarations, ∃ index entry,
      Declaration.ofJson index entry = .ok declaration)
    (hResolve : resolve naming declarations = .ok resolution) (extension : Extension)
    {operation : Operation} (hMem : operation ∈ Block.emitting resolution.blocks) :
    Nonempty (Link extension resolution.blocks operation) := by
  have hWellFormed := Declaration.wellFormed_of_read hRead
  have hBlocks := Resolution.forall₂_resolves hWellFormed hResolve
  obtain ⟨hIn, hEmits⟩ := Block.mem_emitting.1 hMem
  obtain ⟨declared, hDeclared, hOperation⟩ := Resolution.exists_declared hBlocks hIn
  obtain ⟨code, hCode⟩ :=
    (Resolution.emitsCode_iff (hWellFormed _ hDeclared) hOperation).1 hEmits
  obtain ⟨⟨statement, hStatement⟩, expression, hExpression⟩ := exists_readTextCase hOperation hCode
  have hNodup := Block.nodup_emitting hWellFormed hResolve
  have hOpcodes : ((resolution.blocks.filterMap Block.operation?).map (·.opcode)).Nodup := by
    rw [Resolution.opcodes_operations hBlocks]
    exact Resolution.nodup_opcodes hResolve
  have hNamed := Resolution.named_arguments hRead hResolve hIn
  have hNames : ∀ argument ∈ operation.arguments, Script.isIdentifier argument.name :=
    fun argument hArgument => (hNamed.wellFormed argument hArgument).name_isIdentifier
  exact ⟨{
    treeCase := caseOf extension .underscored (nodeBody extension .dotted) operation
    node := nodeOf extension .dotted operation
    own := (operation.arguments.map Argument.name).filter (· ≠ prototypeName)
    statementCase := caseOf extension .dotted statementBody operation
    expressionCase := caseOf extension .dotted expressionBody operation
    statement := ⟨operation.arguments.map bindingOf, statement⟩
    expression := ⟨operation.arguments.map bindingOf, expression⟩
    entry := Descriptor.ofOperation operation
    treeCase_found :=
      find?_caseOf .treeBuild extension .underscored (nodeBody extension .dotted) hNodup hMem
    node_read := readNode_nodeBody hNames extension .dotted
    own_read := ownNames_nodeBody hNamed extension .dotted
    statementCase_found := find?_caseOf .statement extension .dotted statementBody hNodup hMem
    expressionCase_found := find?_caseOf .expression extension .dotted expressionBody hNodup hMem
    statement_opcode := rfl
    expression_opcode := rfl
    statement_read := hStatement
    expression_read := hExpression
    statement_names := by
      rw [List.map_map, nodeOf, List.map_map]
      rfl
    expression_names := by
      rw [List.map_map, nodeOf, List.map_map]
      rfl
    sources_eq := by
      intro nodeEntry hEntry
      obtain ⟨argument, _, rfl⟩ := List.mem_map.1 hEntry
      rfl
    entry_found := descriptorEntry?_of_mem hOpcodes hIn
    statement_ids := by
      rw [descriptorArguments_ofOperation, List.map_map]
      rfl
    expression_ids := by
      rw [descriptorArguments_ofOperation, List.map_map]
      rfl }⟩

/--
A node defines what is read of it exactly when no argument is named like the prototype. An
entry under that name sets the prototype of the node and defines nothing.
-/
theorem Link.definesRead_iff {naming : Naming} {declarations : List Declaration}
    {resolution : Resolution}
    (hRead : ∀ declaration ∈ declarations, ∃ index entry,
      Declaration.ofJson index entry = .ok declaration)
    (hResolve : resolve naming declarations = .ok resolution) {extension : Extension}
    {operation : Operation} (hMem : operation ∈ Block.emitting resolution.blocks)
    (link : Link extension resolution.blocks operation) :
    link.DefinesRead ↔ prototypeName ∉ operation.arguments.map (·.name) := by
  have hNamed := Resolution.named_arguments hRead hResolve (Block.mem_emitting.1 hMem).1
  have hNodup := Block.nodup_emitting (Declaration.wellFormed_of_read hRead) hResolve
  have hCase : caseOf extension .underscored (nodeBody extension .dotted) operation =
      link.treeCase :=
    Option.some_inj.1 ((find?_caseOf .treeBuild extension .underscored
      (nodeBody extension .dotted) hNodup hMem).symm.trans link.treeCase_found)
  have hNode : nodeOf extension .dotted operation = link.node := by
    have hBody := readNode_nodeBody (fun argument hArgument =>
      (hNamed.wellFormed argument hArgument).name_isIdentifier) extension .dotted
    have hLink := link.node_read
    rw [← hCase] at hLink
    exact Option.some_inj.1 (hBody.symm.trans hLink)
  have hEntries : link.node.entries.map (·.name) = operation.arguments.map (·.name) := by
    rw [← hNode, nodeOf, List.map_map]
    rfl
  have hOwn : link.own = (operation.arguments.map (·.name)).filter (· ≠ prototypeName) := by
    have hBody := ownNames_nodeBody hNamed extension .dotted 0
    have hLink := link.own_read 0
    rw [← hCase] at hLink
    exact List.append_cancel_left (Option.some_inj.1 (hLink.symm.trans hBody))
  constructor
  · intro h
    have hStatement := h.statement
    rw [hOwn, link.statement_names, hEntries] at hStatement
    exact filter_prototypeName_eq_self_iff.1 hStatement
  · intro h
    rw [filter_prototypeName_eq_self_iff.2 h] at hOwn
    exact ⟨by rw [hOwn, link.statement_names, hEntries],
      by rw [hOwn, link.expression_names, hEntries]⟩

/--
Whatever declarations were accepted, in whatever order, once they resolve the
four tables and the descriptor agree on every operation that emits code. Its text
cases read what its node defines, unless an argument is named like the prototype.
-/
theorem backends_agree {naming : Naming} {declarations : List Declaration}
    {resolution : Resolution}
    (hRead : ∀ declaration ∈ declarations, ∃ index entry,
      Declaration.ofJson index entry = .ok declaration)
    (hResolve : resolve naming declarations = .ok resolution) (extension : Extension) :
    Agreement extension declarations resolution.blocks := by
  have hWellFormed := Declaration.wellFormed_of_read hRead
  have hOpcodes :=
    Block.opcodes_emitting hWellFormed (Resolution.forall₂_resolves hWellFormed hResolve)
  exact
    { statement_opcodes := (opcodes_statementTable ..).trans hOpcodes
      expression_opcodes := (opcodes_expressionTable ..).trans hOpcodes
      treeBuild_opcodes := (opcodes_treeTable ..).trans hOpcodes
      treeInput_opcodes := (opcodes_treeTable ..).trans hOpcodes
      tree_cases := rfl
      linked := fun operation hMem => nonempty_link hRead hResolve extension hMem
      definesRead_iff := fun operation hMem => Link.definesRead_iff hRead hResolve hMem }

/-- A separator and a statement with one argument. -/
theorem backends_agree_statement :
    Agreement ⟨"ext", "ext", none, none⟩
      [.separator, .operation ⟨"say", .command, "say [x]", some "say([x])", none, false, none,
        [⟨"x", .string, none⟩]⟩]
      [.separator, .operation ⟨"say", .command, "say [x]",
        some ⟨[.literal "say(", .argument "say_arg1", .literal ")"]⟩, none, false,
        .argument "say_arg1", [⟨"x", .string, "say_arg1", none⟩]⟩] := by
  have hResolve : resolve .ordinal
      [.separator, .operation ⟨"say", .command, "say [x]", some "say([x])", none, false, none,
        [⟨"x", .string, none⟩]⟩] =
      .ok ⟨[.separator, .operation ⟨"say", .command, "say [x]",
        some ⟨[.literal "say(", .argument "say_arg1", .literal ")"]⟩, none, false,
        .argument "say_arg1", [⟨"x", .string, "say_arg1", none⟩]⟩], []⟩ := by cbv
  refine backends_agree ?_ hResolve _
  intro declaration hMem
  rcases List.mem_cons.1 hMem with rfl | hMem
  · exact ⟨0, .string "---", by rfl⟩
  · rw [List.mem_singleton.1 hMem]
    exact ⟨1, .object [("opcode", .string "say"), ("blockType", .string "COMMAND"),
      ("text", .string "say [x]"), ("code", .string "say([x])"),
      ("arguments", .object [("x", .object [("type", .string "STRING")])])], by rfl⟩

/-- An argument `__proto__` is accepted and linked through, and no node defines it. -/
theorem not_definesRead_prototype :
    Declaration.ofJson 0 (.object [("opcode", .string "say"), ("blockType", .string "COMMAND"),
        ("text", .string "say [__proto__]"), ("code", .string "say([__proto__])"),
        ("arguments", .object [("__proto__", .object [("type", .string "STRING")])])]) =
      .ok (.operation ⟨"say", .command, "say [__proto__]", some "say([__proto__])", none, false,
        none, [⟨"__proto__", .string, none⟩]⟩) ∧
    resolve .ordinal [.operation ⟨"say", .command, "say [__proto__]", some "say([__proto__])", none,
        false, none, [⟨"__proto__", .string, none⟩]⟩] =
      .ok ⟨[.operation ⟨"say", .command, "say [__proto__]",
        some ⟨[.literal "say(", .argument "say_arg1", .literal ")"]⟩, none, false,
        .argument "say_arg1", [⟨"__proto__", .string, "say_arg1", none⟩]⟩], []⟩ ∧
    ∃ operation, Block.emitting [.operation ⟨"say", .command, "say [__proto__]",
        some ⟨[.literal "say(", .argument "say_arg1", .literal ")"]⟩, none, false,
        .argument "say_arg1", [⟨"__proto__", .string, "say_arg1", none⟩]⟩] = [operation] ∧
      Nonempty (Link ⟨"ext", "ext", none, none⟩ [.operation operation] operation) ∧
      ∀ link : Link ⟨"ext", "ext", none, none⟩ [.operation operation] operation,
        ¬ link.DefinesRead := by
  have hJson : Declaration.ofJson 0 (.object [("opcode", .string "say"),
        ("blockType", .string "COMMAND"), ("text", .string "say [__proto__]"),
        ("code", .string "say([__proto__])"),
        ("arguments", .object [("__proto__", .object [("type", .string "STRING")])])]) =
      .ok (.operation ⟨"say", .command, "say [__proto__]", some "say([__proto__])", none, false,
        none, [⟨"__proto__", .string, none⟩]⟩) := by rfl
  have hResolve : resolve .ordinal [.operation ⟨"say", .command, "say [__proto__]",
        some "say([__proto__])", none, false, none, [⟨"__proto__", .string, none⟩]⟩] =
      .ok ⟨[.operation ⟨"say", .command, "say [__proto__]",
        some ⟨[.literal "say(", .argument "say_arg1", .literal ")"]⟩, none, false,
        .argument "say_arg1", [⟨"__proto__", .string, "say_arg1", none⟩]⟩], []⟩ := by cbv
  have hRead : ∀ declaration ∈ [Declaration.operation ⟨"say", .command, "say [__proto__]",
      some "say([__proto__])", none, false, none, [⟨"__proto__", .string, none⟩]⟩],
      ∃ index entry, Declaration.ofJson index entry = .ok declaration := by
    intro declaration hMem
    rw [List.mem_singleton.1 hMem]
    exact ⟨0, _, hJson⟩
  refine ⟨hJson, hResolve, _, rfl, nonempty_link hRead hResolve _ (List.mem_singleton.2 rfl),
    fun link h => ?_⟩
  exact (link.definesRead_iff hRead hResolve (List.mem_singleton.2 rfl)).1 h (by decide)

end BlockExtension
