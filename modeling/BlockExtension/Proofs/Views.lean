import BlockExtension.Proofs.DescriptorReading
import BlockExtension.Proofs.Script.LiteralReader

/-!
# The two views of a literal

A literal of the script is rendered as text, and it stands for a document. Both views are
recursions over the tree that know nothing of each other: one decides which keys to quote,
where to indent and where to put commas, the other merges keys that come again. This file
relates them through `literal?`: whoever reads the text gets the document.

A reference is read as its text only if that looks like a path, and an embedded document
comes back with every key once. So references have to be paths, and documents have to be
settled already, as those of a configuration are.

## Main results

* `denotes_compact`: the compact form of a document is read as the document with its keys
  settled.
* `denotes_render`: the text of a literal is read as the document it stands for, wherever
  it stands.
* `literal?_render`: the same for the whole text.
* `readable_ofBlocks`: the descriptor of accepted declarations is such a literal.
-/

namespace BlockExtension

/-! ## Documents with every key once -/

namespace Json

mutual

/--
No object of a document has a key twice. A document that was read from a text is settled,
and reading settles what it reads.
-/
def Settled : Json → Prop
  | .array items => SettledItems items
  | .object fields => (fields.map Prod.fst).Nodup ∧ SettledFields fields
  | .null => True
  | .bool _ => True
  | .number _ => True
  | .string _ => True

def SettledItems : List Json → Prop
  | [] => True
  | item :: rest => Settled item ∧ SettledItems rest

def SettledFields : List (String × Json) → Prop
  | [] => True
  | (_, value) :: rest => Settled value ∧ SettledFields rest

end

mutual

/-- Settling changes nothing where no key stands twice. -/
theorem settle_eq_self : (value : Json) → value.Settled → value.settle = value
  | .array items, h => congrArg Json.array (settleItems_eq_self items h)
  | .object fields, h => by
      rw [Settled] at h
      rw [settle, settleFields_eq_self fields h.2, Association.putAll_eq_self h.1]
  | .null, _ => rfl
  | .bool _, _ => rfl
  | .number _, _ => rfl
  | .string _, _ => rfl

theorem settleItems_eq_self : (items : List Json) → SettledItems items → settleItems items = items
  | [], _ => rfl
  | item :: rest, h => by
      rw [settleItems, settle_eq_self item h.1, settleItems_eq_self rest h.2]

theorem settleFields_eq_self : (fields : List (String × Json)) → SettledFields fields →
    settleFields fields = fields
  | [], _ => rfl
  | (key, value) :: rest, h => by
      rw [settleFields, settle_eq_self value h.1, settleFields_eq_self rest h.2]

end

/-- A value that is no array and no object has no keys. -/
theorem settled_of_isScalar {value : Json} (h : value.IsScalar) : value.Settled := by
  cases value with
  | array items => exact h.elim
  | object fields => exact h.elim
  | _ => exact trivial

end Json

namespace Script.LiteralReader

open BlockExtension.Script.Lexer

/-! ## Entries -/

/-- Behind a value that is complete, everything but a letter puts an end to it. -/
theorem onMark_of_value? {frames : List Frame} {spot : Spot} {value : Json} {found : Mark}
    (h : spot.value? = some value) (hEnd : ∀ c, found ≠ .letter c) :
    Reading.onMark ⟨frames, spot⟩ found = Reading.doneMark value frames found := by
  cases spot with
  | done complete =>
      cases h
      rfl
  | word letters =>
      have hWord : wordValue? letters = some value := h
      cases found with
      | letter c => exact absurd rfl (hEnd c)
      | _ => simp only [Reading.onMark, hWord]
  | value => cases h
  | text content => cases h
  | key => cases h
  | name letters => cases h
  | quotedKey content => cases h
  | colon key => cases h
  | lost => cases h

theorem holds_item {text : String} {value : Json} (h : Denotes text value) :
    arrays.Holds text value := by
  intro before frames
  obtain ⟨spot, hText, hValue⟩ := h (.items before :: frames)
  exact ⟨_, hText, onMark_of_value? hValue nofun, onMark_of_value? hValue nofun⟩

/-- A text that is a key with its colon. -/
def IsKey (text : String) (key : String) : Prop :=
  ∀ before frames, Leads (objects.inside before frames) ⟨.field before key :: frames, .value⟩ text

/-- A key with a value is a field of an object. -/
theorem holds_field {keyText text key : String} {value : Json} (hKey : IsKey keyText key)
    (h : Denotes text value) : objects.Holds (keyText ++ text) (key, value) := by
  intro before frames
  obtain ⟨spot, hText, hValue⟩ := h (.field before key :: frames)
  exact ⟨_, (hKey before frames).append hText, onMark_of_value? hValue nofun,
    onMark_of_value? hValue nofun⟩

theorem isKey_bare {key : String} (h : isIdentifier key) : IsKey (key ++ ":") key := by
  intro before frames
  have hNonempty : key.toList ≠ [] := by
    intro hNone
    simp [isIdentifier, hNone, isIdentifierText] at h
  have hName : Leads (objects.inside before frames)
      ⟨.fields before :: frames, .name key.toList⟩ key :=
    grows_name.leads_word (fun _ => rfl) hNonempty fun c hMem =>
      isLetter_of_isIdentifierPart (isIdentifierPart_of_mem h c hMem)
  refine hName.append (leads_colon ?_)
  simp only [Reading.onMark, if_pos (show isIdentifierText key.toList from h),
    String.ofList_toList, Reading.colonMark]

theorem isKey_quoted (key : String) : IsKey (quote key ++ ":") key := by
  intro before frames
  have hQuoted : Leads (objects.inside before frames) ⟨.fields before :: frames, .colon key⟩
      (quote key) := by
    refine grows_quotedKey.leads_quote rfl ?_
    simp only [Reading.onMark, String.ofList_toList]
    rfl
  exact hQuoted.append (leads_colon rfl)

theorem IsKey.space {text key : String} (h : IsKey text key) : IsKey (text ++ " ") key :=
  fun before frames => (h before frames).append (leads_blank (blank_fixed (by decide)) rfl)

theorem isKey_writeKey (key : String) : IsKey (writeKey key ++ ": ") key := by
  have hSplit : ": " = ":" ++ " " := by decide
  rw [hSplit, ← String.append_assoc, writeKey]
  split
  · next hName => exact (isKey_bare hName).space
  · exact (isKey_quoted key).space

/-! ## Documents -/

mutual

/-- The compact form of a document is read as the document with its keys settled. -/
theorem denotes_compact : (value : Json) → Denotes value.compact value.settle
  | .null => denotes_fixed (by decide) (by decide) rfl
  | .bool true => denotes_fixed (by decide) (by decide) rfl
  | .bool false => denotes_fixed (by decide) (by decide) rfl
  | .number value => denotes_write value
  | .string value => denotes_quote value
  | .array items => arrays.denotes_intercalate (holds_compactItems items)
  | .object fields => objects.denotes_intercalate (holds_compactFields fields)

theorem holds_compactItems : (items : List Json) →
    List.Forall₂ arrays.Holds (Json.compactItems items) (Json.settleItems items)
  | [] => .nil
  | item :: rest => .cons (holds_item (denotes_compact item)) (holds_compactItems rest)

theorem holds_compactFields : (fields : List (String × Json)) →
    List.Forall₂ objects.Holds (Json.compactFields fields) (Json.settleFields fields)
  | [] => .nil
  | (key, value) :: rest =>
      .cons (holds_field (isKey_quoted key) (denotes_compact value)) (holds_compactFields rest)

end

end Script.LiteralReader

/-! ## Literals -/

namespace Script.Literal

open BlockExtension.Script.LiteralReader (isPath)

mutual

/--
Every reference is a path, and no object of an embedded document has a key twice. Records
may have keys twice; the reader settles them.
-/
def Readable : Literal → Prop
  | .text _ => True
  | .flag _ => True
  | .json value => value.Settled
  | .reference path => isPath path.toList
  | .record fields => ReadableFields fields
  | .sequence items => ReadableItems items

def ReadableFields : List (String × Literal) → Prop
  | [] => True
  | (_, value) :: rest => Readable value ∧ ReadableFields rest

def ReadableItems : List Literal → Prop
  | [] => True
  | item :: rest => Readable item ∧ ReadableItems rest

end

end Script.Literal

namespace Script.LiteralReader

open BlockExtension.Script.Literal
open BlockExtension.Script.Lexer (start)

mutual

/-- The text of a literal is read as the document it stands for, wherever it stands. -/
theorem denotes_render : (literal : Literal) → literal.Readable → (indent : Nat) →
    Denotes (literal.render indent) literal.toJson
  | .text value, _, _ => denotes_quote value
  | .flag true, _, _ => denotes_fixed (by decide) (by decide) rfl
  | .flag false, _, _ => denotes_fixed (by decide) (by decide) rfl
  | .json value, h, _ => by
      have hDocument := denotes_compact value
      rwa [Json.settle_eq_self value h] at hDocument
  | .reference _, h, _ => denotes_path h
  | .record fields, h, indent =>
      objects.denotes_enclose (holds_renderFields fields h (indent + 2)) indent
  | .sequence items, h, indent =>
      arrays.denotes_enclose (holds_renderItems items h (indent + 2)) indent

theorem holds_renderFields : (fields : List (String × Literal)) → ReadableFields fields →
    (indent : Nat) → List.Forall₂ objects.Holds (renderFields indent fields) (fieldsToJson fields)
  | [], _, _ => .nil
  | (key, value) :: rest, h, indent =>
      .cons (holds_field (isKey_writeKey key) (denotes_render value h.1 indent))
        (holds_renderFields rest h.2 indent)

theorem holds_renderItems : (items : List Literal) → ReadableItems items →
    (indent : Nat) → List.Forall₂ arrays.Holds (renderItems indent items) (itemsToJson items)
  | [], _, _ => .nil
  | item :: rest, h, indent =>
      .cons (holds_item (denotes_render item h.1 indent)) (holds_renderItems rest h.2 indent)

end

/--
The text of a literal is read, whole, as the document that the literal stands for. The
literal may be nested in any way, have any keys, repeated ones among them, and embed any
documents.
-/
theorem literal?_render (literal : Literal) (h : literal.Readable) (indent : Nat) :
    literal? (literal.render indent) = some literal.toJson := by
  obtain ⟨spot, hLeads, hValue⟩ := denotes_render literal h indent []
  obtain ⟨pieces, hRun, hRead⟩ := hLeads []
  rw [← start] at hRun
  simp [literal?, hRun, hRead, hValue]

theorem literal?_render_nested :
    literal? (render 2 (.record
      [("odd-key", .sequence [.flag true, .record []]),
       ("blockType", .reference "Scratch.BlockType.LABEL"),
       ("odd-key", .json (.object
          [("tenth", .number (.double
              ⟨false, 7205759403792794, 1018, by decide, Or.inr (by decide), by decide⟩)),
           ("say \"hi\"\n", .array [.null, .number (.integer (-7))])])),
       ("text", .text "a, b]: \\")])) =
      some (.object
        [("odd-key", .object
            [("tenth", .number (.double
                ⟨false, 7205759403792794, 1018, by decide, Or.inr (by decide), by decide⟩)),
             ("say \"hi\"\n", .array [.null, .number (.integer (-7))])]),
         ("blockType", .string "Scratch.BlockType.LABEL"),
         ("text", .string "a, b]: \\")]) := by
  have hPath : isPath "Scratch.BlockType.LABEL".toList := by decide
  apply literal?_render
  refine ⟨⟨trivial, trivial, trivial⟩, hPath, ⟨by decide, ?_⟩, trivial, trivial⟩
  exact ⟨trivial, ⟨trivial, trivial, trivial⟩, trivial⟩

end Script.LiteralReader

/-! ## The descriptor -/

namespace Script.Literal

theorem readableFields_iff {fields : List (String × Literal)} :
    ReadableFields fields ↔ ∀ field ∈ fields, field.2.Readable := by
  induction fields with
  | nil => simp [ReadableFields]
  | cons field rest ih => rw [ReadableFields, ih, List.forall_mem_cons]

theorem readableItems_iff {items : List Literal} :
    ReadableItems items ↔ ∀ item ∈ items, item.Readable := by
  induction items with
  | nil => simp [ReadableItems]
  | cons item rest ih => rw [ReadableItems, ih, List.forall_mem_cons]

end Script.Literal

namespace Descriptor

open BlockExtension.Script (Literal)
open BlockExtension.Script.Literal (Readable readableFields_iff readableItems_iff)
open BlockExtension.Script.LiteralReader (isPath)

/-- A field that may be left out is readable if it is when it is there. -/
theorem readable_optionalField {name : String} {value : Option Literal}
    (h : ∀ found ∈ value, found.Readable) :
    ∀ field ∈ optionalField name value, field.2.Readable := by
  intro field hMem
  cases value with
  | none => cases hMem
  | some found =>
      rw [List.mem_singleton.1 hMem]
      exact h found rfl

theorem readable_ofArgument {argument : Argument}
    (h : ∀ value, argument.defaultValue = some value → value.IsScalar) :
    (ofArgument argument).Readable := by
  have hPath : isPath argument.kind.reference.toList := by cases argument.kind <;> decide
  refine readableFields_iff.2 (List.forall_mem_append.2 ⟨?_, readable_optionalField ?_⟩)
  · simpa [Readable] using hPath
  · intro found hMem
    obtain ⟨value, hValue, rfl⟩ := Option.mem_map.1 hMem
    exact Json.settled_of_isScalar (h value hValue)

theorem readable_ofOperation {operation : Operation}
    (h : ∀ argument ∈ operation.arguments, ∀ value, argument.defaultValue = some value →
      value.IsScalar) : (ofOperation operation).Readable := by
  have hPath : isPath operation.shape.reference.toList := by cases operation.shape <;> decide
  have hArguments : ∀ found ∈ ofArguments operation.arguments, found.Readable := by
    intro found hMem
    rw [ofArguments] at hMem
    split at hMem
    · cases hMem
    · cases hMem
      refine readableFields_iff.2 fun field hField => ?_
      obtain ⟨argument, hArgument, rfl⟩ := List.mem_map.1 hField
      exact readable_ofArgument (h argument hArgument)
  refine readableFields_iff.2 ?_
  simp only [List.forall_mem_append]
  refine ⟨⟨⟨⟨⟨?_, ?_⟩, ?_⟩, ?_⟩, readable_optionalField hArguments⟩, ?_⟩
  · simpa [Readable] using hPath
  · exact readable_optionalField (by simp [Readable])
  · exact readable_optionalField (by simp [Readable])
  · refine readable_optionalField fun found hMem => ?_
    split at hMem <;> cases hMem
    exact trivial
  · simp [Readable]

/--
Whatever declarations were accepted, their descriptor is readable: its references are
paths, and all that it embeds are the default values, which have no keys.
-/
theorem readable_ofBlocks {naming : Naming} {declarations : List Declaration}
    {resolution : Resolution}
    (hRead : ∀ declaration ∈ declarations, ∃ index entry,
      Declaration.ofJson index entry = .ok declaration)
    (hResolve : resolve naming declarations = .ok resolution) (extension : Extension) :
    (ofBlocks extension resolution.blocks).Readable := by
  have hWellFormed := Declaration.wellFormed_of_read hRead
  have hEntries : ∀ item ∈ entries resolution.blocks, item.Readable := by
    intro item hMem
    obtain ⟨block, hBlock, rfl⟩ := List.mem_map.1 hMem
    cases block with
    | separator => exact trivial
    | label text =>
        have hPath : isPath BlockShape.labelReference.toList := by decide
        exact ⟨hPath, trivial, trivial⟩
    | operation operation =>
        obtain ⟨declared, hDeclared, hOperation⟩ := Resolution.exists_declared
          (Resolution.forall₂_resolves hWellFormed hResolve) hBlock
        refine readable_ofOperation fun argument hArgument => ?_
        have hMem := List.mem_map_of_mem (f := Resolution.declarationOf) hArgument
        rw [hOperation.arguments_eq] at hMem
        exact ((hWellFormed _ hDeclared).arguments_wellFormed _ hMem).default_isScalar
  refine readableFields_iff.2 ?_
  simp only [List.forall_mem_append]
  refine ⟨⟨?_, ?_⟩, ?_⟩
  · simp [Readable]
  · exact readable_optionalField (by simp [Readable])
  · simpa [Readable, readableItems_iff] using hEntries

end Descriptor

end BlockExtension
