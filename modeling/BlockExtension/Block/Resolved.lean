import BlockExtension.Json.Value
import BlockExtension.Block.Kind
import BlockExtension.Template

/-!
# Resolved blocks

The palette once every argument has an identifier and every placeholder of the
code is bound to one. From these blocks everything else is emitted.
-/

namespace BlockExtension

/-- An argument with the identifier that the emitted code knows it by. -/
structure Argument where
  name : String
  kind : ArgumentKind
  id : String
  defaultValue : Option Json
  deriving Repr

/--
What a block that stands for a value shows when it is clicked: the value of one of its
arguments, or of its own code.
-/
inductive Report where
  | argument (id : String)
  | expression
  deriving DecidableEq, Repr

/--
A resolved operation. Every argument has an identifier, and every placeholder of the code is
bound to the identifier of an argument.
-/
structure Operation where
  opcode : String
  shape : BlockShape
  text : String
  code : Option CodeTemplate
  returns : Option ReturnKind
  allowDropAnywhere : Bool
  report : Report
  arguments : List Argument
  deriving Repr

/-- An operation without code, or with empty code, is in the palette only. -/
def Operation.emitsCode (operation : Operation) : Bool :=
  match operation.code with
  | some code => !code.isEmpty
  | none => false

/-- A resolved entry of the palette. -/
inductive Block where
  | separator
  | label (text : String)
  | operation (operation : Operation)
  deriving Repr

namespace Block

def operation? : Block → Option Operation
  | .operation found => some found
  | _ => none

def emitting (blocks : List Block) : List Operation :=
  (blocks.filterMap operation?).filter Operation.emitsCode

end Block

end BlockExtension
