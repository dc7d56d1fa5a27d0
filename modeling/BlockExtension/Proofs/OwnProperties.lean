import BlockExtension.Proofs.DescriptorReading
import BlockExtension.Proofs.DescriptorText
import BlockExtension.Proofs.Script.ObjectLiteral

/-!
# Arguments as own properties

The name of an argument is a key in two object literals: in the node that a tree case
returns, and in the record of arguments of the descriptor. In both it stands as a bare
name in front of a value. This file reads the entries of both literals back, by the
rules of `Script.Lexer`, from the text as it is emitted at any indentation.

The names of resolved arguments are identifiers, they differ from each other, and
`block` and `kind` are not among them. One such name is still not like the others: the
entry of an argument `__proto__` sets the prototype of the object.

## Main results

* `ownNames_nodeBody`, `ownNames_ofArguments`: the own properties of the two literals.
* `ownsArguments_iff`: all arguments are own properties exactly when none of them is
  named `__proto__`.
-/

namespace BlockExtension

open BlockExtension.Script (Literal isIdentifier quote spaces)
open BlockExtension.Script.Lexer
open BlockExtension.Descriptor (fieldOf)

/-! ## Records -/

namespace Script.Literal

theorem renderFields_eq_map (indent : Nat) (fields : List (String × Literal)) :
    renderFields indent fields =
      fields.map fun field => Script.writeKey field.1 ++ ": " ++ field.2.render indent := by
  induction fields with
  | nil => rfl
  | cons field rest ih => rw [renderFields, ih, List.map_cons]

/-- A record whose values are complete is passed over where it is a value itself. -/
theorem spells_record {fields : List (String × Literal)}
    (h : ∀ field ∈ fields, AlikeLiteral field.2 field.2) (indent depth : Nat) :
    Spells (.value depth) (.value depth) ((record fields).render indent) [] := by
  have hFields : List.Forall₂ AlikeField fields fields :=
    List.forall₂_same.2 fun field hMem => ⟨rfl, h field hMem⟩
  have hEntries := AlikeLiteral.alikeAll_fields hFields (indent + 2) []
  have hBraces : ∀ inner, Spells (.value (depth + 1)) (.value (depth + 1)) inner [] →
      Spells (.value depth) (.value depth) ("\x7b" ++ inner ++ "\x7d") [] := fun _ hInner =>
    hInner.enclosed (show role '\x7b' = .opens .curly by decide) (by decide)
  rw [render]
  cases hEmpty : (renderFields (indent + 2) fields).isEmpty with
  | true =>
      rw [Script.enclose, hEmpty]
      exact hBraces "" spells_nil
  | false =>
      rw [enclose_of_entries hEmpty]
      exact hBraces _ ((alike_entryLines hEntries indent).passed depth)

/--
A record whose keys are identifiers has one entry for each field. Keys that are identifiers
stand there without quotation marks.
-/
theorem propertiesBehind_record {fields : List (String × Literal)}
    (hKeys : ∀ field ∈ fields, isIdentifier field.1)
    (hValues : ∀ field ∈ fields, ∀ indent,
      Spells (.value 0) (.value 0) (field.2.render indent) []) (indent : Nat) :
    propertiesBehind "\x7b" ((record fields).render indent) =
      some (fields.map fun field => .keyed field.1) := by
  have hBraces : ∀ inner, Spells .key .key inner (fields.map fun field => .keyed field.1) →
      propertiesBehind "\x7b" ("\x7b" ++ inner ++ "\x7d") =
        some (fields.map fun field => .keyed field.1) := by
    intro inner hInner
    have hNone : Blank "" := blank_fixed (by decide)
    have hWhole : propertiesBehind "\x7b" ("" ++ "\x7b" ++ inner ++ "\x7d") =
        some (fields.map fun field => .keyed field.1) :=
      propertiesBehind_eq hNone (by decide) (by decide) hInner (by decide) (by decide)
    rwa [String.empty_append] at hWhole
  cases fields with
  | nil => exact hBraces "" spells_nil
  | cons first rest =>
      have hLines : ∀ field ∈ first :: rest, Spells .key .key (Script.entryLine (indent + 2)
          (Script.writeKey field.1 ++ ": " ++ field.2.render (indent + 2)))
            [.keyed field.1] := by
        intro field hMem
        rw [Script.entryLine, Script.writeKey, if_pos (hKeys field hMem)]
        exact spells_entry (blank_spaces _) (hKeys field hMem) (hValues field hMem _)
      have hFeed : Blank "\n" := blank_fixed (by decide)
      have hInner := (hFeed.spells.append (spells_entries hLines)).append
        (blank_spaces indent).spells
      rw [List.nil_append, List.append_nil] at hInner
      rw [render, renderFields_eq_map, enclose_of_entries (by simp), List.map_map]
      exact hBraces _ hInner

end Script.Literal

/-! ## The record of arguments -/

namespace Descriptor

/-- The description of an accepted argument is passed over where it is a value. -/
theorem spells_ofArgument {argument : Argument}
    (hScalar : ∀ value, argument.defaultValue = some value → value.IsScalar)
    (indent depth : Nat) :
    Spells (.value depth) (.value depth) ((ofArgument argument).render indent) [] := by
  refine Script.Literal.spells_record (fun field hMem => ?_) indent depth
  simp only [List.cons_append, List.nil_append, List.mem_cons] at hMem
  obtain rfl | rfl | hMem := hMem
  · exact alike_kind argument.kind
  · exact .text _ _
  · cases hDefault : argument.defaultValue with
    | none =>
        rw [hDefault] at hMem
        cases hMem
    | some value =>
        rw [hDefault] at hMem
        rw [List.mem_singleton.1 hMem]
        exact .json (hScalar value hDefault) (.same value)

/-- The own properties of the record of arguments: all names but that of the prototype. -/
theorem ownNames_ofArguments {arguments : List Argument} (hNamed : Resolution.Named arguments)
    {literal : Literal} (hLiteral : ofArguments arguments = some literal) (indent : Nat) :
    (propertiesBehind "\x7b" (literal.render indent)).map ownNames =
      some ((arguments.map (·.name)).filter (· ≠ prototypeName)) := by
  rw [ofArguments, Option.ite_none_left_eq_some, Option.some_inj] at hLiteral
  rw [← hLiteral.2, Script.Literal.propertiesBehind_record, Option.map_some, List.map_map]
  · have hNodup : ([] ++ arguments.map Argument.name).Nodup := hNamed.names_nodup
    have hOwn := ownNames_keyed hNodup
    rw [List.map_map] at hOwn
    exact congrArg some hOwn
  · intro field hMem
    obtain ⟨argument, hArgument, rfl⟩ := List.mem_map.1 hMem
    exact (hNamed.wellFormed argument hArgument).name_isIdentifier
  · intro field hMem indent
    obtain ⟨argument, hArgument, rfl⟩ := List.mem_map.1 hMem
    exact spells_ofArgument (hNamed.wellFormed argument hArgument).default_isScalar indent 0

end Descriptor

/-! ## Nodes -/

namespace Dispatch

/-- The lines of a case as they stand in a table. -/
def bodyText (indent : Nat) (body : List String) : String :=
  String.join (body.map (Table.renderLine indent))

/-- The value that a node has for an argument is passed over. -/
theorem spells_inputCall (name : String) :
    Spells (.value 0) (.value 0)
      ("this.descendInputOfBlock" ++ ("(" ++ ("block, " ++ quote name) ++ ")")) [] := by
  have hCallee : Spells (.value 0) (.value 0) "this.descendInputOfBlock" [] :=
    spells_fixed (by decide) (by decide)
  have hBlock : Alike [] [] "block, " "block, " := alike_fixed (by decide)
  have hInputs : Spells (.value 1) (.value 1) ("block, " ++ quote name) [] :=
    (hBlock.append alike_quote).passed 0
  exact hCallee.append (hInputs.enclosed (show role '(' = .opens .round by decide) (by decide))

/-- The line of an entry, wherever its case stands. -/
theorem spells_renderLine {name value line : String} (hName : isIdentifier name)
    (hValue : Spells (.value 0) (.value 0) value [])
    (hLine : line = "  " ++ (name ++ ": " ++ value) ++ ",") (indent : Nat) :
    Spells .key .key (Table.renderLine indent line) [.keyed name] := by
  have hLead : Blank (spaces (indent + 2) ++ "  ") :=
    (blank_spaces _).append (blank_fixed (by decide))
  have hEntry := spells_entry hLead hName hValue
  rw [show ",\n" = "," ++ "\n" from rfl] at hEntry
  rw [Table.renderLine, hLine]
  simp only [String.append_assoc] at hEntry ⊢
  exact hEntry

/-- The line of the block itself. -/
theorem spells_blockLine (indent : Nat) :
    Spells .key .key (Table.renderLine indent "  block,") [.shorthand "block"] := by
  have hBlock : Spells .key .key "  block," [.shorthand "block"] :=
    spells_fixed (by decide) (by decide)
  have hFeed : Blank "\n" := blank_fixed (by decide)
  exact ((blank_spaces _).spells.append hBlock).append hFeed.spells

/-- The line of the kind of a node. -/
theorem spells_kindLine (kind : String) (indent : Nat) :
    Spells .key .key (Table.renderLine indent ("  kind: " ++ quote kind ++ ","))
      [.keyed "kind"] := by
  refine spells_renderLine (by decide) (spells_quote 0 kind) ?_ indent
  rw [show "  kind: " = "  " ++ ("kind" ++ ": ") from rfl]
  simp only [String.append_assoc]

/-- The line of an argument. -/
theorem spells_argumentLine {name : String} (hName : isIdentifier name) (indent : Nat) :
    Spells .key .key (Table.renderLine indent
      ("  " ++ name ++ ": this.descendInputOfBlock(block, " ++ quote name ++ "),"))
      [.keyed name] := by
  refine spells_renderLine hName (spells_inputCall name) ?_ indent
  rw [show ": this.descendInputOfBlock(block, " =
      ": " ++ ("this.descendInputOfBlock" ++ ("(" ++ "block, ")) from rfl,
    show ")," = ")" ++ "," from rfl]
  simp only [String.append_assoc]

/-- The entries of a node: the block, its kind and the arguments. -/
theorem propertiesBehind_nodeBody {operation : Operation}
    (hNames : ∀ argument ∈ operation.arguments, isIdentifier argument.name) (extension : Extension)
    (kinds : KeyStyle) (indent : Nat) :
    propertiesBehind "return \x7b" (bodyText indent (nodeBody extension kinds operation)) =
      some (.shorthand "block" :: .keyed "kind" ::
        operation.arguments.map fun argument => .keyed argument.name) := by
  have hFeed : Blank "\n" := blank_fixed (by decide)
  have hArguments := spells_entries fun argument hMem =>
    spells_argumentLine (hNames argument hMem) indent
  have hInner := (((hFeed.spells.append (spells_blockLine indent)).append
    (spells_kindLine (kinds.key extension.id operation.opcode) indent)).append
      hArguments).append (blank_spaces (indent + 2)).spells
  have hWhole : propertiesBehind "return \x7b" (spaces (indent + 2) ++ "return \x7b" ++ _ ++
      "\x7d;\n") = _ :=
    propertiesBehind_eq (blank_spaces (indent + 2)) (by decide) (by decide) hInner (by decide)
      (by decide)
  rw [show "\x7d;\n" = "\x7d;" ++ "\n" from rfl] at hWhole
  simp only [bodyText, nodeBody, List.map_append, List.map_cons, List.map_nil, List.map_map,
    Function.comp_def, List.cons_append, List.nil_append, String.join_cons, String.join_append,
    String.join_nil, String.append_empty]
  simp only [Table.renderLine, String.append_assoc, List.append_nil, List.nil_append,
    List.cons_append] at hWhole ⊢
  exact hWhole

/-- The own properties of a node: the block, its kind and all names but that of the prototype. -/
theorem ownNames_nodeBody {operation : Operation} (hNamed : Resolution.Named operation.arguments)
    (extension : Extension) (kinds : KeyStyle) (indent : Nat) :
    (propertiesBehind "return \x7b" (bodyText indent (nodeBody extension kinds operation))).map
        ownNames =
      some (["block", "kind"] ++
        (operation.arguments.map (·.name)).filter (· ≠ prototypeName)) := by
  have hFresh : ∀ name ∈ ["block", "kind"], name ∉ operation.arguments.map (·.name) := by
    intro name hReserved hMem
    obtain ⟨argument, hArgument, rfl⟩ := List.mem_map.1 hMem
    exact (hNamed.wellFormed argument hArgument).name_notReserved hReserved
  have hNodup : (["block"] ++ "kind" :: operation.arguments.map (·.name)).Nodup := by
    rw [List.singleton_append, List.nodup_cons, List.nodup_cons, List.mem_cons, not_or]
    exact ⟨⟨by decide, hFresh "block" (by decide)⟩, hFresh "kind" (by decide), hNamed.names_nodup⟩
  have hOwn := ownNames_keyed hNodup
  have hKind : ("kind" :: operation.arguments.map (·.name)).filter (· ≠ prototypeName) =
      "kind" :: (operation.arguments.map (·.name)).filter (· ≠ prototypeName) :=
    List.filter_cons_of_pos (by decide)
  rw [hKind, List.map_cons (f := Property.keyed), List.map_map] at hOwn
  rw [propertiesBehind_nodeBody fun argument hArgument =>
    (hNamed.wellFormed argument hArgument).name_isIdentifier, Option.map_some]
  exact congrArg some hOwn

end Dispatch

/-! ## Operations -/

open BlockExtension.Dispatch (bodyText nodeBody)

/--
The arguments of an operation are own properties where they stand as keys: a node has
its block, its kind and the arguments, and the record of arguments has the arguments,
each once and in the order in which they are declared.
-/
structure OwnsArguments (extension : Extension) (operation : Operation) : Prop where
  node : ∀ kinds indent,
    (propertiesBehind "return \x7b" (bodyText indent (nodeBody extension kinds operation))).map
        ownNames =
      some (["block", "kind"] ++ operation.arguments.map (·.name))
  record : ∀ literal, fieldOf (Descriptor.ofOperation operation) "arguments" = some literal →
    ∀ indent, (propertiesBehind "\x7b" (literal.render indent)).map ownNames =
      some (operation.arguments.map (·.name))

/-- A resolved operation owns its arguments exactly if none is named like the prototype. -/
theorem ownsArguments_iff {naming : Naming} {declarations : List Declaration}
    {resolution : Resolution}
    (hRead : ∀ declaration ∈ declarations, ∃ index entry,
      Declaration.ofJson index entry = .ok declaration)
    (hResolve : resolve naming declarations = .ok resolution) (extension : Extension)
    {operation : Operation} (hMem : .operation operation ∈ resolution.blocks) :
    OwnsArguments extension operation ↔ prototypeName ∉ operation.arguments.map (·.name) := by
  have hNamed := Resolution.named_arguments hRead hResolve hMem
  constructor
  · intro h
    have hNode := h.node .dotted 0
    rw [Dispatch.ownNames_nodeBody hNamed, Option.some_inj, List.append_cancel_left_eq] at hNode
    exact filter_prototypeName_eq_self_iff.1 hNode
  · intro h
    refine ⟨fun kinds indent => ?_, fun literal hLiteral indent => ?_⟩
    · rw [Dispatch.ownNames_nodeBody hNamed, filter_prototypeName_eq_self_iff.2 h]
    · rw [Descriptor.fieldOf_arguments] at hLiteral
      rw [Descriptor.ownNames_ofArguments hNamed hLiteral, filter_prototypeName_eq_self_iff.2 h]

/-- A statement with two arguments owns them. -/
theorem ownsArguments_pair :
    OwnsArguments ⟨"ext", "ext", none, none⟩
      ⟨"say", .command, "say [x] [y]", some ⟨[.literal "say(", .argument "say_arg1", .literal ")"]⟩,
        none, false, .argument "say_arg1",
        [⟨"x", .string, "say_arg1", none⟩, ⟨"y", .number, "say_arg2", none⟩]⟩ := by
  have hResolve : resolve .ordinal
      [.operation ⟨"say", .command, "say [x] [y]", some "say([x])", none, false, none,
        [⟨"x", .string, none⟩, ⟨"y", .number, none⟩]⟩] =
      .ok ⟨[.operation ⟨"say", .command, "say [x] [y]",
        some ⟨[.literal "say(", .argument "say_arg1", .literal ")"]⟩, none, false,
        .argument "say_arg1",
        [⟨"x", .string, "say_arg1", none⟩, ⟨"y", .number, "say_arg2", none⟩]⟩], []⟩ := by cbv
  refine (ownsArguments_iff ?_ hResolve _ (List.mem_singleton.2 rfl)).2 (by decide)
  intro declaration hMem
  rw [List.mem_singleton.1 hMem]
  exact ⟨0, .object [("opcode", .string "say"), ("blockType", .string "COMMAND"),
    ("text", .string "say [x] [y]"), ("code", .string "say([x])"),
    ("arguments", .object [("x", .object [("type", .string "STRING")]),
      ("y", .object [("type", .string "NUMBER")])])], by rfl⟩

/-- An argument `__proto__` is accepted and resolves, and its operation does not own it. -/
theorem not_ownsArguments_prototype :
    Declaration.ofJson 0 (.object [("opcode", .string "say"), ("blockType", .string "COMMAND"),
        ("text", .string "say [__proto__]"), ("code", .string "say([__proto__])"),
        ("arguments", .object [("__proto__", .object [("type", .string "STRING")])])]) =
      .ok (.operation ⟨"say", .command, "say [__proto__]", some "say([__proto__])", none, false,
        none, [⟨"__proto__", .string, none⟩]⟩) ∧
    resolve .ordinal [.operation ⟨"say", .command, "say [__proto__]", some "say([__proto__])", none,
        false, none, [⟨"__proto__", .string, none⟩]⟩] =
      .ok ⟨[.operation ⟨"say", .command, "say [__proto__]",
        some ⟨[.literal "say(", .argument "say_arg1", .literal ")"]⟩, none, false,
        .argument "say_arg1", [⟨"__proto__", .string, "say_arg1", none⟩]⟩], []⟩ ∧
    ¬ OwnsArguments ⟨"ext", "ext", none, none⟩ ⟨"say", .command, "say [__proto__]",
      some ⟨[.literal "say(", .argument "say_arg1", .literal ")"]⟩, none, false,
      .argument "say_arg1", [⟨"__proto__", .string, "say_arg1", none⟩]⟩ := by
  refine ⟨by rfl, by cbv, fun h => ?_⟩
  have hNode := h.node .dotted 0
  have hRead : propertiesBehind "return \x7b" (bodyText 0 (nodeBody ⟨"ext", "ext", none, none⟩
      .dotted ⟨"say", .command, "say [__proto__]",
        some ⟨[.literal "say(", .argument "say_arg1", .literal ")"]⟩, none, false,
        .argument "say_arg1", [⟨"__proto__", .string, "say_arg1", none⟩]⟩)) =
      some [.shorthand "block", .keyed "kind", .keyed "__proto__"] :=
    Dispatch.propertiesBehind_nodeBody (by decide) ..
  rw [hRead] at hNode
  exact absurd hNode (by decide)

end BlockExtension
