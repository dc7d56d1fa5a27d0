import BlockExtension.Block.Declaration
import BlockExtension.Block.Resolved
import BlockExtension.Configuration
import BlockExtension.Script.Literal

/-!
# The descriptor

What an extension tells the host about itself: its id, name and color, and one
entry for each block of the palette. A separator is a text, a label and an
operation are records. Fields that say nothing are left out: code, return kind
and color that were not declared, a permission that was not given, an empty list
of arguments.
-/

namespace BlockExtension.Descriptor

open BlockExtension.Script (Literal)

def dispatchMethod : String := "err"

def optionalField (name : String) (value : Option Literal) : List (String × Literal) :=
  match value with
  | some value => [(name, value)]
  | none => []

def ofArgument (argument : Argument) : Literal :=
  .record ([("type", .reference argument.kind.reference), ("gen_id", .text argument.id)] ++
    optionalField "defaultValue" (argument.defaultValue.map .json))

/-- The record of all arguments, by name; none if there are none. -/
def ofArguments (arguments : List Argument) : Option Literal :=
  if arguments.isEmpty then none
  else some (.record (arguments.map fun argument => (argument.name, ofArgument argument)))

/--
What the descriptor says about an operation. The fields come in a fixed order, and what was
not declared has no field.
-/
def ofOperation (operation : Operation) : Literal :=
  .record (
    [("opcode", .text operation.opcode),
     ("blockType", .reference operation.shape.reference),
     ("text", .text operation.text)] ++
    optionalField "code" (operation.code.map fun code => .text code.interpolated) ++
    optionalField "returns" (operation.returns.map fun kind => .text kind.tag) ++
    optionalField "allowDropAnywhere"
      (if operation.allowDropAnywhere then some (.flag true) else none) ++
    optionalField "arguments" (ofArguments operation.arguments) ++
    [("func", .text dispatchMethod)])

def entry : Block → Literal
  | .separator => .text Configuration.separatorText
  | .label text =>
      .record [("blockType", .reference BlockShape.labelReference), ("text", .text text)]
  | .operation operation => ofOperation operation

def entries (blocks : List Block) : List Literal := blocks.map entry

def ofBlocks (extension : Extension) (blocks : List Block) : Literal :=
  .record (
    [("id", .text extension.id), ("name", .text extension.name)] ++
    optionalField "color1" (extension.color.map .text) ++
    [("blocks", .sequence (entries blocks))])

end BlockExtension.Descriptor
