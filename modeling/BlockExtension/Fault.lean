/-!
# What can be wrong with a configuration

Each way in which a configuration is refused is a constructor that carries what
a message needs; the wording is in one function, `Fault.message`.
-/

namespace BlockExtension

/-- How a message names a block: by its opcode if it has one, else by its position. -/
inductive BlockRef where
  | opcode (value : String)
  /-- The position among all entries, counted from zero. -/
  | index (value : Nat)
  deriving DecidableEq, Repr

/-- Opcodes are quoted, positions are counted from one. -/
def BlockRef.shown : BlockRef → String
  | .opcode value => s!"'{value}'"
  | .index value => s!"#{value + 1}"

/-- The closed set that a tag was looked up in. -/
inductive TagSet where
  | blockShape
  | argumentKind
  | returnKind
  deriving DecidableEq, Repr

/-- What the members of a closed set are called. -/
def TagSet.shown : TagSet → String
  | .blockShape => "blockType"
  | .argumentKind => "argument type"
  | .returnKind => "returns kind"

/-- The two texts of an operation that may hold placeholders. -/
inductive PlaceholderField where
  | text
  | code
  deriving DecidableEq, Repr

/-- The name of a field. -/
def PlaceholderField.shown : PlaceholderField → String
  | .text => "text"
  | .code => "code"

/--
Why a configuration is refused. Each reason carries all that its message says, such as the
path of the field or the block that it is about.
-/
inductive Fault where
  | missingField (field : String)
  | invalidField (field problem : String)
  | invalidIdentifier (what value : String)
  | unknownTag (set : TagSet) (value : String) (block : BlockRef)
  /-- A placeholder that names no argument, and where it stands in its text. -/
  | unresolvedPlaceholder (block : BlockRef) (field : PlaceholderField) (name : String)
      (column : Nat)
  /-- Two operations with one opcode, and their positions counted from one. -/
  | duplicateOpcode (opcode : String) (first second : Nat)
  | duplicateArgument (block : BlockRef) (argument : String)
  | reservedArgumentName (block : BlockRef) (argument : String)
  | unknownReportArgument (block : BlockRef) (argument : String)
  deriving DecidableEq, Repr

/-- The fault in one sentence. -/
def Fault.message : Fault → String
  | .missingField field => s!"Configuration must include a '{field}' property."
  | .invalidField field problem => s!"Invalid '{field}': {problem}"
  | .invalidIdentifier what value =>
      s!"{what} '{value}' is not a valid identifier " ++
        "(expected letters, digits, '_' or '$', not starting with a digit)."
  | .unknownTag set value block =>
      s!"Unknown {set.shown} '{value}' in block {block.shown}."
  | .unresolvedPlaceholder block field name column =>
      s!"Unresolved placeholder '[{name}]' in {field.shown} of block {block.shown} " ++
        s!"(column {column}); no argument named '{name}' is declared."
  | .duplicateOpcode opcode first second =>
      s!"Duplicate opcode '{opcode}' (blocks {first} and {second})."
  | .duplicateArgument block argument =>
      s!"Duplicate argument '{argument}' in block {block.shown}."
  | .reservedArgumentName block argument =>
      s!"Argument name '{argument}' in block {block.shown} is reserved for the " ++
        "compiled node's own fields; rename it."
  | .unknownReportArgument block argument =>
      s!"Block {block.shown} reports argument '{argument}', which is not declared."

end BlockExtension
