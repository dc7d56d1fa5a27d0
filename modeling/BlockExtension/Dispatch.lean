import BlockExtension.Block.Declaration
import BlockExtension.Block.Resolved
import BlockExtension.Script.Literal

/-!
# Dispatch tables

The host compiles a script in two steps, and in each step a statement and an
input are compiled by different hooks, so there are four tables of cases, one
case in each for every operation that emits code.

In the tree step a case turns a block into a node that has the arguments as
properties; it is found by the block's opcode, which the host writes with an
underscore between extension and operation. In the text step a case turns such a
node into script text; it is found by the node's kind, written with a dot.

## Main results

* `Table.find?_key`: a case that is found has the key that was looked up.
* `opcodes_statementTable`, `opcodes_expressionTable`, `opcodes_treeTable`: all
  tables list the same operations in the same order.
-/

namespace BlockExtension.Dispatch

open BlockExtension.Script (quote spaces)

/-! ## Tables -/

/-- The hook that a table is for. -/
inductive Pass where
  | statement
  | expression
  | treeBuild
  | treeInput
  deriving DecidableEq, Repr

/--
How an operation is named within its extension: the identifier of the extension and the
opcode, with a dot or an underscore between them.
-/
inductive KeyStyle where
  | dotted
  | underscored
  deriving DecidableEq, Repr

/-- The name of an operation of an extension. -/
def KeyStyle.key (style : KeyStyle) (extensionId opcode : String) : String :=
  match style with
  | .dotted => extensionId ++ "." ++ opcode
  | .underscored => extensionId ++ "_" ++ opcode

/-- One case of a switch: the operation it is for, the key it is found by and its lines. -/
structure Case where
  opcode : String
  key : String
  body : List String
  deriving DecidableEq, Repr

/-- The cases for one hook. -/
structure Table where
  pass : Pass
  cases : List Case
  deriving DecidableEq, Repr

namespace Table

def find? (table : Table) (key : String) : Option Case :=
  table.cases.find? (·.key = key)

/-- A case that is found has the key that was looked up. -/
theorem find?_key {table : Table} {key : String} {case : Case}
    (h : table.find? key = some case) : case.key = key := by
  simpa using List.find?_some h

def renderLine (indent : Nat) (line : String) : String := spaces (indent + 2) ++ line ++ "\n"

def renderCase (indent : Nat) (case : Case) : String :=
  spaces indent ++ "case " ++ quote case.key ++ ": \x7b\n" ++
    String.join (case.body.map (renderLine indent)) ++
    spaces indent ++ "\x7d\n"

/-- The cases as they stand in a switch, `indent` spaces deep. -/
def render (table : Table) (indent : Nat) : String :=
  String.join (table.cases.map (renderCase indent))

end Table

/-! ## The text step -/

/-- The lines that bind the identifiers of arguments to the code of their inputs. -/
def bindings (operation : Operation) : List String :=
  operation.arguments.map fun argument =>
    "const " ++ argument.id ++ " = this.descendInput(node?." ++ argument.name ++ ")." ++
      argument.kind.accessor ++ "();"

def codeBody (operation : Operation) : String :=
  match operation.code with
  | some code => code.literalBody
  | none => ""

def backQuote : String := "\x60"

def appendStatement (code : String) : String :=
  "this.source += " ++ backQuote ++ "\\n" ++ code ++ ";\\n" ++ backQuote ++ ";"

/-- The line that makes a click on a block show a value. -/
def appendReport (value : String) : String :=
  "this.source += " ++ backQuote ++
    "\\nvm.runtime.visualReport(\"$\x7bblock.id\x7d\", " ++ value ++ ");\\n" ++ backQuote ++ ";"

def reportedValue (operation : Operation) : String :=
  match operation.report with
  | .argument id => CodeTemplate.substitution id
  | .expression => "(" ++ codeBody operation ++ ")"

def caseOf (extension : Extension) (style : KeyStyle) (body : Operation → List String)
    (operation : Operation) : Case :=
  { opcode := operation.opcode
    key := style.key extension.id operation.opcode
    body := body operation }

/--
The lines that compile an operation where a statement stands. An operation that stands for a
value is no statement, so there it shows what a click on it shows.
-/
def statementBody (operation : Operation) : List String :=
  bindings operation ++
    [if operation.shape.isStatement then appendStatement (codeBody operation)
     else appendReport (reportedValue operation),
     "return;"]

/-- The lines that compile an operation where a value stands. -/
def expressionBody (operation : Operation) : List String :=
  bindings operation ++
    ["return new TypedInput(" ++ backQuote ++ codeBody operation ++ backQuote ++ ", " ++
      ReturnKind.inputType operation.returns ++ ");"]

def statementTable (extension : Extension) (blocks : List Block) : Table :=
  ⟨.statement, (Block.emitting blocks).map (caseOf extension .dotted statementBody)⟩

def expressionTable (extension : Extension) (blocks : List Block) : Table :=
  ⟨.expression, (Block.emitting blocks).map (caseOf extension .dotted expressionBody)⟩

/-! ## The tree step -/

/-- The places of the tree that a table fills. -/
inductive TreeSlot where
  | stackedBlock
  | input
  deriving DecidableEq, Repr

def TreeSlot.pass : TreeSlot → Pass
  | .stackedBlock => .treeBuild
  | .input => .treeInput

/-- How cases are found and nodes are named in the tree step. -/
structure TreeStyle where
  caseKeys : KeyStyle
  nodeKinds : KeyStyle
  deriving DecidableEq, Repr

/-- Cases are found by opcodes with an underscore, and nodes are named with a dot. -/
def TreeStyle.standard : TreeStyle := ⟨.underscored, .dotted⟩

/--
The lines that make a node of a block. Besides the block and its kind the node has one entry
for each argument, under the name of the argument.
-/
def nodeBody (extension : Extension) (kinds : KeyStyle) (operation : Operation) : List String :=
  ["return \x7b", "  block,",
    "  kind: " ++ quote (kinds.key extension.id operation.opcode) ++ ","] ++
  operation.arguments.map (fun argument =>
    "  " ++ argument.name ++ ": this.descendInputOfBlock(block, " ++ quote argument.name ++ "),") ++
  ["\x7d;"]

def treeTable (style : TreeStyle) (slot : TreeSlot) (extension : Extension)
    (blocks : List Block) : Table :=
  ⟨slot.pass,
    (Block.emitting blocks).map
      (caseOf extension style.caseKeys (nodeBody extension style.nodeKinds))⟩

/-! ## All four tables -/

/-- The tables of an extension, one for each pair of a step and a place in a script. -/
structure Tables where
  statement : Table
  expression : Table
  treeBuild : Table
  treeInput : Table
  deriving DecidableEq, Repr

def tables (extension : Extension) (blocks : List Block) : Tables :=
  { statement := statementTable extension blocks
    expression := expressionTable extension blocks
    treeBuild := treeTable .standard .stackedBlock extension blocks
    treeInput := treeTable .standard .input extension blocks }

private theorem opcodes_map_caseOf (extension : Extension) (style : KeyStyle)
    (body : Operation → List String) (operations : List Operation) :
    (operations.map (caseOf extension style body)).map (·.opcode) =
      operations.map (·.opcode) := by
  simp [caseOf, Function.comp_def]

theorem opcodes_statementTable (extension : Extension) (blocks : List Block) :
    (statementTable extension blocks).cases.map (·.opcode) =
      (Block.emitting blocks).map (·.opcode) :=
  opcodes_map_caseOf ..

theorem opcodes_expressionTable (extension : Extension) (blocks : List Block) :
    (expressionTable extension blocks).cases.map (·.opcode) =
      (Block.emitting blocks).map (·.opcode) :=
  opcodes_map_caseOf ..

theorem opcodes_treeTable (style : TreeStyle) (slot : TreeSlot) (extension : Extension)
    (blocks : List Block) :
    (treeTable style slot extension blocks).cases.map (·.opcode) =
      (Block.emitting blocks).map (·.opcode) :=
  opcodes_map_caseOf ..

end BlockExtension.Dispatch
