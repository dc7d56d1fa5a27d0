import BlockExtension.Descriptor
import BlockExtension.Proofs.RepeatedKeys

/-!
# What a descriptor tells

The descriptor leaves out whatever says nothing, turns shapes and kinds into paths of
the host and arguments into the fields of an object, and puts separators, labels and
operations into one array. Nothing is lost by that. `read` takes the document of a
descriptor apart again and gives back all that the palette declares: the extension
itself, and for each block in order what it is and what it says.

A field that is there is not mistaken for another one because the fields of a record
have different names. For the record of arguments that is so because no two arguments
of a resolved operation share a name. A label that reads like a separator stays a
label, since it is a record and a separator is a text.

## Main results

* `toJson_record`: a record whose names differ becomes an object field by field.
* `readEntry_entry`: the entry of a block is read as what it declares.
* `read_exact`: the document of a descriptor is read as what it declares, so equal
  descriptors declare the same.
-/

namespace BlockExtension

open BlockExtension.Script (Literal)

/-! ## Fields of records -/

namespace Descriptor

def fieldOf (literal : Literal) (name : String) : Option Literal :=
  match literal with
  | .record fields => fields.lookup name
  | _ => none

def textOf : Literal → Option String
  | .text value => some value
  | _ => none

end Descriptor

theorem lookup_optionalField (name key : String) (value : Option Literal) :
    (Descriptor.optionalField name value).lookup key = if key = name then value else none := by
  cases value with
  | none => simp [Descriptor.optionalField]
  | some value =>
      by_cases hKey : key = name
      · simp [Descriptor.optionalField, hKey]
      · have hOther : (key == name) = false := by simpa using hKey
        simp [Descriptor.optionalField, hKey, List.lookup_cons, hOther]

/-! ## Documents of records -/

namespace Association

/-- Where no key stands twice, writing all entries in turn yields them as they are. -/
theorem putAll_eq_self {κ α : Type} [BEq κ] [LawfulBEq κ] {entries : List (κ × α)}
    (h : (entries.map Prod.fst).Nodup) : putAll entries = entries := by
  have hPut : ∀ (written : List (κ × α)) (key : κ) (value : α), key ∉ written.map Prod.fst →
      put written key value = written ++ [(key, value)] := by
    intro written key value hNew
    induction written with
    | nil => rfl
    | cons entry rest ih =>
        obtain ⟨hHead, hRest⟩ := not_or.1 (mt List.mem_cons.2 hNew)
        have hOther : (entry.1 == key) = false := beq_eq_false_iff_ne.2 (Ne.symm hHead)
        simp [put, hOther, ih hRest]
  induction entries using List.reverseRecOn with
  | nil => rfl
  | append_singleton entries entry ih =>
      rw [List.map_append, List.map_singleton, List.nodup_append_comm,
        List.singleton_append, List.nodup_cons] at h
      rw [putAll_concat, ih h.2, hPut _ _ _ h.1]

end Association

namespace Script.Literal

theorem fieldsToJson_eq_map (fields : List (String × Literal)) :
    fieldsToJson fields = fields.map (Prod.map id toJson) := by
  induction fields with
  | nil => rfl
  | cons field rest ih => rw [fieldsToJson, ih, List.map_cons, Prod.map, id]

theorem itemsToJson_eq_map (items : List Literal) : itemsToJson items = items.map toJson := by
  induction items with
  | nil => rfl
  | cons item rest ih => rw [itemsToJson, ih, List.map_cons]

/-- A record whose names differ becomes an object field by field. -/
theorem toJson_record {fields : List (String × Literal)} (h : (fields.map Prod.fst).Nodup) :
    (record fields).toJson = .object (fields.map (Prod.map id toJson)) := by
  rw [toJson, fieldsToJson_eq_map, Association.putAll_eq_self]
  rw [List.map_map]
  exact h

/-- A record no two of whose fields have one name. -/
def Distinct : Literal → Prop
  | record fields => (fields.map Prod.fst).Nodup
  | _ => False

/-- A field of the document is the document of the field. -/
theorem field?_toJson {literal : Literal} (h : literal.Distinct) (name : String) :
    literal.toJson.field? name = (Descriptor.fieldOf literal name).map toJson := by
  cases literal with
  | record fields =>
      rw [toJson_record h, Json.field?, Descriptor.fieldOf]
      replace h : (fields.map Prod.fst).Nodup := h
      induction fields with
      | nil => rfl
      | cons field rest ih =>
          obtain ⟨key, value⟩ := field
          rw [List.map_cons, List.nodup_cons] at h
          rw [List.map_cons, Prod.map, id, List.lookup_cons, List.lookup_cons, ih h.2]
          cases name == key <;> rfl
  | _ => exact h.elim

end Script.Literal

/-! ## What is declared -/

/--
What a descriptor tells about an operation: all but what a click on it shows, since that is
in the emitted code alone.
-/
structure OperationSummary where
  opcode : String
  shape : BlockShape
  text : String
  /-- The code with its arguments shown as substitutions. -/
  code : Option String
  returns : Option ReturnKind
  allowDropAnywhere : Bool
  arguments : List Argument

/-- What a descriptor tells about a block. -/
inductive BlockSummary where
  | separator
  | label (text : String)
  | operation (summary : OperationSummary)

/-- What a descriptor tells of the extension and, in their order, of its blocks. -/
structure PaletteSummary where
  id : String
  name : String
  color : Option String
  blocks : List BlockSummary

/-- The summary of an operation. -/
def Operation.summary (operation : Operation) : OperationSummary :=
  { opcode := operation.opcode
    shape := operation.shape
    text := operation.text
    code := operation.code.map CodeTemplate.interpolated
    returns := operation.returns
    allowDropAnywhere := operation.allowDropAnywhere
    arguments := operation.arguments }

def Block.summary : Block → BlockSummary
  | .separator => .separator
  | .label text => .label text
  | .operation found => .operation found.summary

/-- The summary of an extension with its blocks, in order. -/
def Extension.summary (extension : Extension) (blocks : List Block) : PaletteSummary :=
  { id := extension.id
    name := extension.name
    color := extension.color
    blocks := blocks.map Block.summary }

/-- The shape with a name of the host. -/
def BlockShape.ofReference? (path : String) : Option BlockShape :=
  all.find? (·.reference = path)

theorem BlockShape.ofReference?_reference (shape : BlockShape) :
    ofReference? shape.reference = some shape := by
  cases shape <;> decide

theorem BlockShape.reference_ne_labelReference (shape : BlockShape) :
    shape.reference ≠ labelReference := by
  cases shape <;> decide

/-- The kind with a name of the host. -/
def ArgumentKind.ofReference? (path : String) : Option ArgumentKind :=
  all.find? (·.reference = path)

theorem ArgumentKind.ofReference?_reference (kind : ArgumentKind) :
    ofReference? kind.reference = some kind := by
  cases kind <;> decide

namespace Descriptor

open BlockExtension.Script (Literal)
open BlockExtension.Script.Literal (Distinct toJson_record field?_toJson itemsToJson_eq_map)

/-! ## Reading a document -/

def textField (document : Json) (name : String) : Option String :=
  (document.field? name).bind Json.string?

/--
A field that may be missing, and that has to be readable if it is there. What cannot be read
is not taken for missing.
-/
def readOptional {α : Type} (read : Json → Option α) (document : Json) (name : String) :
    Option (Option α) :=
  match document.field? name with
  | none => some none
  | some value => (read value).map some

/-- A truth value; nothing for any other value. -/
def flagOf : Json → Option Bool
  | .bool value => some value
  | _ => none

def returnKindOf (document : Json) : Option ReturnKind := document.string?.bind ReturnKind.ofTag?

/-- The argument that a field of the record of arguments declares. -/
def readArgument (field : String × Json) : Option Argument := do
  let kind ← (textField field.2 "type").bind ArgumentKind.ofReference?
  let id ← textField field.2 "gen_id"
  some ⟨field.1, kind, id, field.2.field? "defaultValue"⟩

def readArguments : Json → Option (List Argument)
  | .object fields => fields.mapM readArgument
  | _ => none

/-- The operation that a record declares. -/
def readOperation (document : Json) : Option OperationSummary := do
  let opcode ← textField document "opcode"
  let shape ← (textField document "blockType").bind BlockShape.ofReference?
  let text ← textField document "text"
  let code ← readOptional Json.string? document "code"
  let returns ← readOptional returnKindOf document "returns"
  let allowed ← (readOptional flagOf document "allowDropAnywhere").map (·.getD false)
  let arguments ← (readOptional readArguments document "arguments").map (·.getD [])
  some
    { opcode := opcode
      shape := shape
      text := text
      code := code
      returns := returns
      allowDropAnywhere := allowed
      arguments := arguments }

/--
The block that an entry declares. A label is a record, so its text may be that of a
separator without being one.
-/
def readEntry (document : Json) : Option BlockSummary :=
  match document with
  | .string text => if text = Configuration.separatorText then some .separator else none
  | _ =>
      if textField document "blockType" = some BlockShape.labelReference then
        (textField document "text").map .label
      else (readOperation document).map .operation

/-- The entries of an array, each read; nothing for any other value. -/
def readEntries : Json → Option (List BlockSummary)
  | .array items => items.mapM readEntry
  | _ => none

/-- What the document of a descriptor declares. -/
def read (document : Json) : Option PaletteSummary := do
  let id ← textField document "id"
  let name ← textField document "name"
  let color ← readOptional Json.string? document "color1"
  let blocks ← (document.field? "blocks").bind readEntries
  some ⟨id, name, color, blocks⟩

/-! ## Reading it back -/

private theorem mapM_map_eq_some {α β γ : Type} {write : α → β} {read : β → Option γ}
    {view : α → γ} {items : List α} (h : ∀ item ∈ items, read (write item) = some (view item)) :
    (items.map write).mapM read = some (items.map view) := by
  induction items with
  | nil => rfl
  | cons item items ih =>
      rw [List.map_cons, List.mapM_cons, h item (List.mem_cons_self ..),
        ih fun other hMem => h other (List.mem_cons_of_mem _ hMem)]
      rfl

private theorem readOptional_map {α β : Type} {read : Json → Option β} (write : α → Literal)
    (view : α → β) {document : Json} {name : String} {value : Option α}
    (hField : document.field? name = (value.map write).map Literal.toJson)
    (hRead : ∀ found, value = some found → read (write found).toJson = some (view found)) :
    readOptional read document name = some (value.map view) := by
  rw [readOptional, hField]
  cases value with
  | none => rfl
  | some found => exact congrArg (Option.map some) (hRead found rfl)

private theorem keys_optionalField (name : String) (value : Option Literal) :
    ((optionalField name value).map Prod.fst).Sublist [name] := by
  cases value with
  | none => exact List.nil_sublist _
  | some value => exact List.Sublist.refl _

private theorem distinct_ofArgument (argument : Argument) : (ofArgument argument).Distinct := by
  refine List.Nodup.sublist ?_ (show ["type", "gen_id", "defaultValue"].Nodup by decide)
  rw [List.map_append]
  exact (List.Sublist.refl ["type", "gen_id"]).append (keys_optionalField ..)

/-- An argument is read as it is. -/
theorem readArgument_ofArgument (argument : Argument) :
    readArgument (argument.name, (ofArgument argument).toJson) = some argument := by
  have hField := field?_toJson (distinct_ofArgument argument)
  have hKind : fieldOf (ofArgument argument) "type" =
      some (.reference argument.kind.reference) := rfl
  have hId : fieldOf (ofArgument argument) "gen_id" = some (.text argument.id) := rfl
  have hDefault : (ofArgument argument).toJson.field? "defaultValue" = argument.defaultValue := by
    rw [hField]
    simp only [fieldOf, ofArgument, List.lookup_append, lookup_optionalField]
    cases argument.defaultValue <;> simp [List.lookup_cons, Literal.toJson]
  simp [readArgument, textField, hDefault, hField, hKind, hId, Literal.toJson, Json.string?,
    ArgumentKind.ofReference?_reference]

/-- The record of arguments whose names differ is read as these arguments, in order. -/
theorem readArguments_ofArguments {arguments : List Argument} {literal : Literal}
    (hNames : (arguments.map (·.name)).Nodup) (hLiteral : ofArguments arguments = some literal) :
    readArguments literal.toJson = some arguments := by
  have hKeys : ((arguments.map fun argument => (argument.name, ofArgument argument)).map
      Prod.fst).Nodup := by
    rwa [List.map_map]
  have hAll : (arguments.map fun argument =>
      (argument.name, (ofArgument argument).toJson)).mapM readArgument =
      some (arguments.map id) :=
    mapM_map_eq_some fun argument _ => readArgument_ofArgument argument
  rw [ofArguments, Option.ite_none_left_eq_some, Option.some_inj] at hLiteral
  rw [← hLiteral.2, toJson_record hKeys, readArguments, List.map_map]
  rwa [List.map_id] at hAll

private theorem distinct_ofOperation (operation : Operation) :
    (ofOperation operation).Distinct := by
  refine List.Nodup.sublist ?_ (show ["opcode", "blockType", "text", "code", "returns",
    "allowDropAnywhere", "arguments", "func"].Nodup by decide)
  simp only [List.map_append]
  exact (((((List.Sublist.refl ["opcode", "blockType", "text"]).append
    (keys_optionalField ..)).append (keys_optionalField ..)).append
    (keys_optionalField ..)).append (keys_optionalField ..)).append (List.Sublist.refl ["func"])

/-- The record of an operation has its arguments under one name. -/
theorem fieldOf_arguments (operation : Operation) :
    fieldOf (ofOperation operation) "arguments" = ofArguments operation.arguments := by
  simp [fieldOf, ofOperation, List.lookup_append, lookup_optionalField, List.lookup_cons]

/-- An operation whose arguments have different names is read as what it declares. -/
theorem readOperation_ofOperation {operation : Operation}
    (hNames : (operation.arguments.map (·.name)).Nodup) :
    readOperation (ofOperation operation).toJson = some operation.summary := by
  have hField := field?_toJson (distinct_ofOperation operation)
  have hOpcode : fieldOf (ofOperation operation) "opcode" = some (.text operation.opcode) := rfl
  have hShape : fieldOf (ofOperation operation) "blockType" =
      some (.reference operation.shape.reference) := rfl
  have hText : fieldOf (ofOperation operation) "text" = some (.text operation.text) := rfl
  have hCode : readOptional Json.string? (ofOperation operation).toJson "code" =
      some (operation.code.map CodeTemplate.interpolated) := by
    refine readOptional_map (fun code => .text code.interpolated) _ ?_
      fun code _ => by rw [Literal.toJson, Json.string?]
    rw [hField]
    simp [fieldOf, ofOperation, List.lookup_append, lookup_optionalField, List.lookup_cons]
  have hReturns : readOptional returnKindOf (ofOperation operation).toJson "returns" =
      some (operation.returns.map id) := by
    refine readOptional_map (fun kind => .text kind.tag) id ?_ fun kind _ => ?_
    · rw [hField]
      simp [fieldOf, ofOperation, List.lookup_append, lookup_optionalField, List.lookup_cons]
    · rw [Literal.toJson, returnKindOf, Json.string?, Option.bind_some, ReturnKind.ofTag?_tag, id]
  rw [Option.map_id_fun, id] at hReturns
  have hAllowed : (readOptional flagOf (ofOperation operation).toJson "allowDropAnywhere").map
      (·.getD false) = some operation.allowDropAnywhere := by
    rw [readOptional, hField]
    simp only [fieldOf, ofOperation, List.lookup_append, lookup_optionalField]
    cases operation.allowDropAnywhere <;> simp [List.lookup_cons, Literal.toJson, flagOf]
  have hArguments : (readOptional readArguments (ofOperation operation).toJson "arguments").map
      (·.getD []) = some operation.arguments := by
    rw [readOptional, hField, fieldOf_arguments]
    cases hLiteral : ofArguments operation.arguments with
    | none =>
        rw [ofArguments, ite_eq_left_iff] at hLiteral
        have hEmpty : operation.arguments.isEmpty := by simpa using hLiteral
        rw [List.isEmpty_iff.1 hEmpty]
        rfl
    | some literal =>
        simp only [Option.map_some, readArguments_ofArguments hNames hLiteral, Option.getD_some]
  simp only [readOperation, textField, hField, hOpcode, hShape, hText, hCode, hReturns, hAllowed,
    hArguments, Option.map_some, Option.bind_some, Option.bind_eq_bind, Literal.toJson,
    Json.string?, BlockShape.ofReference?_reference, Operation.summary]

/-! ## Entries -/

private theorem readEntry_object (fields : List (String × Json)) :
    readEntry (.object fields) =
      if textField (.object fields) "blockType" = some BlockShape.labelReference then
        (textField (.object fields) "text").map .label
      else (readOperation (.object fields)).map .operation := rfl

/-- The entry of a block is read as what it declares. -/
theorem readEntry_entry {block : Block}
    (hNames : ∀ operation, block = .operation operation →
      (operation.arguments.map (·.name)).Nodup) :
    readEntry (entry block).toJson = some block.summary := by
  cases block with
  | separator =>
      rw [entry, Literal.toJson, readEntry, if_pos rfl]
      rfl
  | label text =>
      rw [entry, toJson_record (by simp), readEntry_object]
      exact if_pos rfl
  | operation operation =>
      have hRead := readOperation_ofOperation (hNames operation rfl)
      have hShape : textField (ofOperation operation).toJson "blockType" ≠
          some BlockShape.labelReference := by
        rw [textField, field?_toJson (distinct_ofOperation operation)]
        exact fun hSame => operation.shape.reference_ne_labelReference (Option.some_inj.1 hSame)
      rw [entry]
      rw [ofOperation, toJson_record (distinct_ofOperation operation)] at hRead hShape ⊢
      rw [readEntry_object, if_neg hShape, hRead]
      rfl

/-- Only the entry of a separator is read as one. -/
theorem readEntry_eq_separator_iff {block : Block}
    (hNames : ∀ operation, block = .operation operation →
      (operation.arguments.map (·.name)).Nodup) :
    readEntry (entry block).toJson = some .separator ↔ block = .separator := by
  rw [readEntry_entry hNames, Option.some_inj]
  cases block <;> simp [Block.summary]

/-! ## The whole descriptor -/

private theorem distinct_ofBlocks (extension : Extension) (blocks : List Block) :
    (ofBlocks extension blocks).Distinct := by
  refine List.Nodup.sublist ?_ (show ["id", "name", "color1", "blocks"].Nodup by decide)
  simp only [List.map_append]
  exact ((List.Sublist.refl ["id", "name"]).append (keys_optionalField ..)).append
    (List.Sublist.refl ["blocks"])

/-- The document has one entry for each block, in order. -/
theorem field?_blocks (extension : Extension) (blocks : List Block) :
    (ofBlocks extension blocks).toJson.field? "blocks" =
      some (.array (blocks.map fun block => (entry block).toJson)) := by
  have hBlocks : fieldOf (ofBlocks extension blocks) "blocks" =
      some (.sequence (entries blocks)) := by
    simp [fieldOf, ofBlocks, List.lookup_append, lookup_optionalField, List.lookup_cons]
  rw [field?_toJson (distinct_ofBlocks extension blocks), hBlocks, Option.map_some,
    Literal.toJson, itemsToJson_eq_map, entries, List.map_map]
  rfl

/-- A palette whose operations have arguments with different names is read as it is. -/
theorem read_ofBlocks (extension : Extension) {blocks : List Block}
    (hNames : ∀ operation, .operation operation ∈ blocks →
      (operation.arguments.map (·.name)).Nodup) :
    read (ofBlocks extension blocks).toJson = some (extension.summary blocks) := by
  have hField := field?_toJson (distinct_ofBlocks extension blocks)
  have hId : textField (ofBlocks extension blocks).toJson "id" = some extension.id := by
    rw [textField, hField]
    rfl
  have hName : textField (ofBlocks extension blocks).toJson "name" = some extension.name := by
    rw [textField, hField]
    rfl
  have hColor : readOptional Json.string? (ofBlocks extension blocks).toJson "color1" =
      some (extension.color.map id) := by
    refine readOptional_map Literal.text id ?_ fun color _ => by
      rw [Literal.toJson, Json.string?, id]
    rw [hField]
    simp [fieldOf, ofBlocks, List.lookup_append, lookup_optionalField, List.lookup_cons]
  rw [Option.map_id_fun, id] at hColor
  have hEntries : readEntries (.array (blocks.map fun block => (entry block).toJson)) =
      some (blocks.map Block.summary) := by
    refine mapM_map_eq_some fun block hMem => readEntry_entry fun operation hOperation => ?_
    exact hNames operation (hOperation ▸ hMem)
  simp only [read, hId, hName, hColor, field?_blocks, hEntries, Option.bind_eq_bind,
    Option.bind_some, Extension.summary]

end Descriptor

/-- The arguments of a resolved operation can be told apart, and were accepted. -/
theorem Resolution.named_arguments {naming : Naming} {declarations : List Declaration}
    {resolution : Resolution}
    (hRead : ∀ declaration ∈ declarations, ∃ index entry,
      Declaration.ofJson index entry = .ok declaration)
    (hResolve : resolve naming declarations = .ok resolution) {operation : Operation}
    (hMem : .operation operation ∈ resolution.blocks) : Named operation.arguments := by
  obtain ⟨declared, _, hOperation⟩ :=
    exists_declared (forall₂_resolves (Declaration.wellFormed_of_read hRead) hResolve) hMem
  exact hOperation.named

namespace Descriptor

/--
Whatever declarations were accepted and resolve, the document of the descriptor is
read as the extension and the blocks it is made of, with one entry for each block in
order, and no label is taken for a separator. So two palettes with one descriptor
declare the same.
-/
theorem read_exact {naming : Naming} {declarations : List Declaration} {resolution : Resolution}
    (hRead : ∀ declaration ∈ declarations, ∃ index entry,
      Declaration.ofJson index entry = .ok declaration)
    (hResolve : resolve naming declarations = .ok resolution) (extension : Extension) :
    read (ofBlocks extension resolution.blocks).toJson =
        some (extension.summary resolution.blocks) ∧
      (ofBlocks extension resolution.blocks).toJson.field? "blocks" =
        some (.array (resolution.blocks.map fun block => (entry block).toJson)) ∧
      (∀ block ∈ resolution.blocks,
        readEntry (entry block).toJson = some block.summary ∧
        (readEntry (entry block).toJson = some .separator ↔ block = .separator)) ∧
      ∀ (otherNaming : Naming) (others : List Declaration) (other : Resolution)
        (otherExtension : Extension),
        (∀ declaration ∈ others, ∃ index entry,
          Declaration.ofJson index entry = .ok declaration) →
        resolve otherNaming others = .ok other →
        (ofBlocks otherExtension other.blocks).toJson =
          (ofBlocks extension resolution.blocks).toJson →
        otherExtension.summary other.blocks = extension.summary resolution.blocks := by
  have hNames : ∀ operation, .operation operation ∈ resolution.blocks →
      (operation.arguments.map (·.name)).Nodup := fun _ hMem =>
    (Resolution.named_arguments hRead hResolve hMem).names_nodup
  have hSelf := read_ofBlocks extension hNames
  refine ⟨hSelf, field?_blocks .., fun block hMem => ?_, ?_⟩
  · have hBlock : ∀ operation, block = .operation operation →
        (operation.arguments.map (·.name)).Nodup := fun operation hSame =>
      hNames operation (hSame ▸ hMem)
    exact ⟨readEntry_entry hBlock, readEntry_eq_separator_iff hBlock⟩
  · intro otherNaming others other otherExtension hOthers hOther hSame
    have hRest := read_ofBlocks otherExtension fun _ hMem =>
      (Resolution.named_arguments hOthers hOther hMem).names_nodup
    rw [hSame, hSelf, Option.some_inj] at hRest
    exact hRest.symm

/-- A separator, a label that reads like one, and a statement whose argument has a default. -/
theorem read_exact_ruled :
    read (ofBlocks ⟨"ext", "Ext", some "#0f0", none⟩
        [.separator, .label "---", .operation ⟨"say", .command, "say [x]",
          some ⟨[.literal "say(", .argument "say_arg1", .literal ")"]⟩, none, true,
          .argument "say_arg1",
          [⟨"x", .string, "say_arg1", some (.string "hi")⟩]⟩]).toJson =
      some ⟨"ext", "Ext", some "#0f0",
        [.separator, .label "---", .operation ⟨"say", .command, "say [x]",
          some "say(${say_arg1})", none, true,
          [⟨"x", .string, "say_arg1", some (.string "hi")⟩]⟩]⟩ := by
  have hResolve : resolve .ordinal
      [.separator, .label "---", .operation ⟨"say", .command, "say [x]", some "say([x])", none,
        true, none, [⟨"x", .string, some (.string "hi")⟩]⟩] =
      .ok ⟨[.separator, .label "---", .operation ⟨"say", .command, "say [x]",
        some ⟨[.literal "say(", .argument "say_arg1", .literal ")"]⟩, none, true,
        .argument "say_arg1", [⟨"x", .string, "say_arg1", some (.string "hi")⟩]⟩], []⟩ := by cbv
  refine (read_exact ?_ hResolve ⟨"ext", "Ext", some "#0f0", none⟩).1.trans (by cbv)
  intro declaration hMem
  simp only [List.mem_cons, List.not_mem_nil, or_false] at hMem
  obtain rfl | rfl | rfl := hMem
  · exact ⟨0, .string "---", by rfl⟩
  · exact ⟨1, .object [("blockType", .string "LABEL"), ("text", .string "---")], by rfl⟩
  · exact ⟨2, .object [("opcode", .string "say"), ("blockType", .string "COMMAND"),
      ("text", .string "say [x]"), ("code", .string "say([x])"),
      ("allowDropAnywhere", .bool true),
      ("arguments", .object [("x", .object [("type", .string "STRING"),
        ("defaultValue", .string "hi")])])], by rfl⟩

end Descriptor

end BlockExtension
