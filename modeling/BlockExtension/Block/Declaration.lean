import BlockExtension.Json.Value
import BlockExtension.Block.Kind

/-!
# Declarations

What a configuration says, once it is known to be well formed: the extension
itself and the entries of its palette. Names in text and code are still
placeholders here; `Resolution` binds them.
-/

namespace BlockExtension

/--
What a configuration says about the extension itself. The name is the identifier unless one
is given, and a blank comment is none.
-/
structure Extension where
  id : String
  name : String
  color : Option String
  comment : Option String
  deriving DecidableEq, Repr

/-- An argument as declared. A default value is a string, a number or a boolean. -/
structure ArgumentDeclaration where
  name : String
  kind : ArgumentKind
  defaultValue : Option Json
  deriving Repr

/--
An operation as declared. Its text and its code name arguments in brackets; code that is
declared empty is none.
-/
structure OperationDeclaration where
  opcode : String
  shape : BlockShape
  text : String
  code : Option String
  returns : Option ReturnKind
  allowDropAnywhere : Bool
  /-- The name of the argument whose value the block shows when it is clicked. -/
  reports : Option String
  arguments : List ArgumentDeclaration
  deriving Repr

/--
An entry of the palette as declared. Separators and labels are for the eye only; operations
are what the palette is about.
-/
inductive Declaration where
  | separator
  | label (text : String)
  | operation (declaration : OperationDeclaration)
  deriving Repr

/-- A whole configuration. -/
structure Configuration where
  extension : Extension
  blocks : List Declaration
  deriving Repr

end BlockExtension
