import BlockExtension.Block.Declaration
import BlockExtension.Fault
import BlockExtension.Json.Reader
import BlockExtension.Script.Identifier
import BlockExtension.Text.Blank

/-!
# Reading a configuration

A configuration is an object with an `extension` and a list of `blocks`. Each
entry of the list is a separator, a label or an operation. The reader checks
every field it knows and ignores every other one; it stops at the first thing
wrong, in the order of the checks below. For most optional fields `null` is as
good as absence.
-/

namespace BlockExtension

namespace Configuration

/-! ## Fields -/

def separatorText : String := "---"

def labelTag : String := "LABEL"

/-- The names that a compiled node uses itself, so that no argument may have them. -/
def reservedNames : List String := ["block", "kind"]

/-- A value that must be there. -/
def required (value : Option Json) (field : String) : Except Fault Json :=
  match value with
  | some value => .ok value
  | none => .error (.missingField field)

def expectString (value : Json) (field : String) : Except Fault String :=
  match value.string? with
  | some text => .ok text
  | none => .error (.invalidField field "expected a string")

/-- A value that must be a string, unless it is not there or `null`. Then there is none. -/
def optionalString (value : Option Json) (field : String) : Except Fault (Option String) :=
  match value with
  | none => .ok none
  | some .null => .ok none
  | some value => (expectString value field).map some

def blockField (index : Nat) (name : String) : String := s!"blocks[{index}].{name}"

def expectIdentifier (what value : String) : Except Fault Unit :=
  if Script.isIdentifier value then .ok () else .error (.invalidIdentifier what value)

/-! ## Arguments -/

/-- The default value of an argument: a string, a number or a boolean. -/
def defaultValue (value : Option Json) (field : String) : Except Fault (Option Json) :=
  match value with
  | none => .ok none
  | some .null => .ok none
  | some (.string text) => .ok (some (.string text))
  | some (.number value) => .ok (some (.number value))
  | some (.bool value) => .ok (some (.bool value))
  | some _ => .error (.invalidField field "expected a string, number or boolean")

/--
One argument of the entry at `index`, which messages call `block`. The name is checked
before anything is read of the value.
-/
def readArgument (index : Nat) (block : BlockRef) (name : String) (value : Json) :
    Except Fault ArgumentDeclaration := do
  let field := s!"blocks[{index}].arguments.{name}"
  expectIdentifier ("Argument of block " ++ block.shown) name
  if reservedNames.contains name then
    throw (.reservedArgumentName block name)
  match value with
  | .object fields =>
      let tag ← expectString (← required (fields.lookup "type") (field ++ ".type"))
        (field ++ ".type")
      match ArgumentKind.ofTag? tag with
      | none => throw (.unknownTag .argumentKind tag block)
      | some kind =>
          let default ← defaultValue (fields.lookup "defaultValue") (field ++ ".defaultValue")
          return { name := name, kind := kind, defaultValue := default }
  | _ => throw (.invalidField field "expected an object")

/-- The arguments of an entry, in the order of their keys. -/
def readArguments (index : Nat) (block : BlockRef) (value : Option Json) :
    Except Fault (List ArgumentDeclaration) :=
  match value with
  | none => .ok []
  | some .null => .ok []
  | some (.object fields) =>
      fields.mapM fun field => readArgument index block field.1 field.2
  | some _ =>
      .error (.invalidField (blockField index "arguments")
        "expected an object mapping argument names to declarations")

/-! ## Entries -/

/-- What an operation returns. -/
def readReturns (index : Nat) (block : BlockRef) (value : Option Json) :
    Except Fault (Option ReturnKind) := do
  match ← optionalString value (blockField index "returns") with
  | none => return none
  | some tag =>
      match ReturnKind.ofTag? tag with
      | none => throw (.unknownTag .returnKind tag block)
      | some kind => return some kind

/-- Whether an operation may be dropped into any input. -/
def readAllowDrop (index : Nat) (value : Option Json) : Except Fault Bool :=
  match value with
  | none => .ok false
  | some .null => .ok false
  | some (.bool value) => .ok value
  | some _ =>
      .error (.invalidField (blockField index "allowDropAnywhere") "expected a boolean")

def requiredText (text : Option String) (field : String) : Except Fault String :=
  match text with
  | some text => .ok text
  | none => .error (.missingField field)

/--
An entry that is an object: a label or an operation. Its fields are read in a fixed order,
so of several things wrong the first in that order is reported; an opcode that is there
names the block in messages.
-/
def readFields (index : Nat) (fields : List (String × Json)) : Except Fault Declaration := do
  let opcode ← optionalString (fields.lookup "opcode") (blockField index "opcode")
  let block := match opcode with
    | some opcode => BlockRef.opcode opcode
    | none => BlockRef.index index
  let tag ← expectString
    (← required (fields.lookup "blockType") (blockField index "blockType"))
    (blockField index "blockType")
  let text ← optionalString (fields.lookup "text") (blockField index "text")
  if tag = labelTag then
    return .label (← requiredText text (blockField index "text"))
  match BlockShape.ofTag? tag with
  | none => throw (.unknownTag .blockShape tag block)
  | some shape =>
      let opcode ← requiredText opcode (blockField index "opcode")
      expectIdentifier s!"Opcode of block #{index + 1}" opcode
      let text ← requiredText text (blockField index "text")
      let code ← optionalString (fields.lookup "code") (blockField index "code")
      let returns ← readReturns index block (fields.lookup "returns")
      let allowDropAnywhere ← readAllowDrop index (fields.lookup "allowDropAnywhere")
      let reports ← optionalString (fields.lookup "reports") (blockField index "reports")
      let arguments ← readArguments index block (fields.lookup "arguments")
      return .operation
        { opcode := opcode
          shape := shape
          text := text
          code := code.filter (!·.isEmpty)
          returns := returns
          allowDropAnywhere := allowDropAnywhere
          reports := reports
          arguments := arguments }

end Configuration

/-- The declaration of one entry, at a position counted from zero. -/
def Declaration.ofJson (index : Nat) (entry : Json) : Except Fault Declaration :=
  match entry with
  | .string text =>
      if text = Configuration.separatorText then .ok .separator else .ok (.label text)
  | .object fields => Configuration.readFields index fields
  | _ => .error (.invalidField s!"blocks[{index}]" "expected a string or an object")

/-- The declarations of entries, the first of which is at position `index`. -/
def Declaration.ofEntries (index : Nat) : List Json → Except Fault (List Declaration)
  | [] => .ok []
  | entry :: rest => do
      let declaration ← Declaration.ofJson index entry
      let more ← Declaration.ofEntries (index + 1) rest
      return declaration :: more

namespace Configuration

/-- What a configuration says about the extension itself. -/
def readExtension (value : Json) : Except Fault Extension := do
  match value with
  | .object fields =>
      let id ← expectString (← required (fields.lookup "id") "extension.id") "extension.id"
      expectIdentifier "Extension id" id
      let name ← optionalString (fields.lookup "name") "extension.name"
      let color ← optionalString (fields.lookup "color1") "extension.color1"
      let comment ← optionalString (fields.lookup "comment") "extension.comment"
      return {
        id := id
        name := name.getD id
        color := color
        comment := comment.filter fun text => !(Text.trim text.toList).isEmpty }
  | _ => throw (.invalidField "extension" "expected an object")

/--
The configuration that a document holds. Both parts must be there before either is looked
at, and the extension is read before the blocks.
-/
def ofJson (document : Json) : Except Fault Configuration := do
  match document with
  | .object fields =>
      let extension ← required (fields.lookup "extension") "extension"
      let blocks ← required (fields.lookup "blocks") "blocks"
      let extension ← readExtension extension
      match blocks with
      | .array entries =>
          return { extension := extension, blocks := ← Declaration.ofEntries 0 entries }
      | _ => throw (.invalidField "blocks" "expected an array")
  | _ => throw (.invalidField "configuration" "expected a JSON object")

/-- Why a configuration text is refused. -/
inductive Refusal where
  | notJson
  | fault (cause : Fault)
  deriving DecidableEq, Repr

/-- Why a text is refused, in one sentence. -/
def Refusal.message : Refusal → String
  | .notJson => "Configuration is not valid JSON"
  | .fault cause => cause.message

/-- The configuration that a text holds. -/
def parse (text : String) : Except Refusal Configuration :=
  match Json.parse? Json.nestingLimit text with
  | none => .error .notJson
  | some document =>
      match ofJson document with
      | .ok configuration => .ok configuration
      | .error cause => .error (.fault cause)

end Configuration

end BlockExtension
