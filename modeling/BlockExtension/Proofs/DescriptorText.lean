import BlockExtension.Descriptor
import BlockExtension.Proofs.FreeText

/-!
# The descriptor and free text

The descriptor is where most free text goes. All of it stands there as a text or as
a default value, and these are quoted, so the descriptors of palettes that differ in
free text are read alike. Identifiers of arguments and the code for readers are
texts as well.

## Main results

* `Descriptor.alike_ofBlocks`: descriptors that differ in free text are read alike.
-/

namespace BlockExtension.Descriptor

open BlockExtension.Script (Literal)
open BlockExtension.Script.Lexer

/-! ## Fields -/

theorem alike_optionalField {a b : Option Literal} (name : String)
    (h : Option.Rel AlikeLiteral a b) :
    List.Forall₂ AlikeField (optionalField name a) (optionalField name b) := by
  cases h with
  | none => exact .nil
  | some hValue => exact .cons ⟨rfl, hValue⟩ .nil

private theorem alike_field {a b : Literal} (name : String) (h : AlikeLiteral a b) :
    List.Forall₂ AlikeField [(name, a)] [(name, b)] := .cons ⟨rfl, h⟩ .nil

/-! ## Arguments -/

theorem alike_kind (kind : ArgumentKind) :
    AlikeLiteral (.reference kind.reference) (.reference kind.reference) := by
  have hHost : Alike [] [] "Scratch.ArgumentType." "Scratch.ArgumentType." :=
    alike_fixed (by decide)
  have hTag : Alike [] [] kind.tag kind.tag := by
    cases kind <;> exact alike_fixed (by decide)
  exact .reference (hHost.append hTag)

private theorem alike_shape (shape : BlockShape) :
    AlikeLiteral (.reference shape.reference) (.reference shape.reference) := by
  have hHost : Alike [] [] "Scratch.BlockType." "Scratch.BlockType." :=
    alike_fixed (by decide)
  have hTag : Alike [] [] shape.tag shape.tag := by
    cases shape <;> exact alike_fixed (by decide)
  exact .reference (hHost.append hTag)

private theorem alike_default {a b : Option Json} (h : Option.Rel Json.SameButText a b)
    (hScalar : ∀ value, a = some value → value.IsScalar) :
    Option.Rel AlikeLiteral (a.map .json) (b.map .json) := by
  cases h with
  | none => exact .none
  | some hValue => exact .some (.json (hScalar _ rfl) hValue)

theorem alike_ofArgument {a b : Argument} (h : a.SameButText b)
    (hScalar : ∀ value, a.defaultValue = some value → value.IsScalar) :
    AlikeLiteral (ofArgument a) (ofArgument b) := by
  have hDefault := alike_optionalField "defaultValue" (alike_default h.default_same hScalar)
  unfold ofArgument
  rw [← h.kind_eq, ← h.id_eq]
  refine .record (List.rel_append ?_ hDefault)
  exact .cons ⟨rfl, alike_kind a.kind⟩ (alike_field "gen_id" (.text _ _))

theorem alike_ofArguments {arguments others : List Argument}
    (h : List.Forall₂ Argument.SameButText arguments others)
    (hScalar : ∀ argument ∈ arguments, ∀ value, argument.defaultValue = some value →
      value.IsScalar) :
    Option.Rel AlikeLiteral (ofArguments arguments) (ofArguments others) := by
  have hFields : List.Forall₂ AlikeField
      (arguments.map fun argument => (argument.name, ofArgument argument))
      (others.map fun argument => (argument.name, ofArgument argument)) := by
    rw [List.forall₂_map_left_iff, List.forall₂_map_right_iff]
    refine ((List.forall₂_and_left (p := fun argument : Argument => ∀ value,
      argument.defaultValue = some value → value.IsScalar) ..).2 ⟨hScalar, h⟩).imp ?_
    rintro a b ⟨hDefault, hSame⟩
    exact ⟨hSame.name_eq, alike_ofArgument hSame hDefault⟩
  unfold ofArguments
  cases h with
  | nil => exact .none
  | cons _ _ => exact .some (.record hFields)

/-! ## Entries -/

private theorem alike_flag (given : Bool) :
    Option.Rel AlikeLiteral (if given then some (.flag true) else none)
      (if given then some (.flag true) else none) := by
  cases given with
  | false => exact .none
  | true => exact .some (.flag true)

private theorem alike_texts {α β : Type} {a : Option α} {b : Option β} {f : α → String}
    {g : β → String} (h : a.isSome = b.isSome) :
    Option.Rel AlikeLiteral (a.map fun found => .text (f found))
      (b.map fun found => .text (g found)) := by
  cases a with
  | none =>
      cases b with
      | none => exact .none
      | some _ => cases h
  | some _ =>
      cases b with
      | none => cases h
      | some _ => exact .some (.text _ _)

private theorem isSome_eq_of_rel {α β : Type} {R : α → β → Prop} {a : Option α} {b : Option β}
    (h : Option.Rel R a b) : a.isSome = b.isSome := by
  cases h <;> rfl

theorem alike_ofOperation {a b : Operation} (h : a.SameButText b) :
    AlikeLiteral (ofOperation a) (ofOperation b) := by
  have hScalar : ∀ argument ∈ a.arguments, ∀ value, argument.defaultValue = some value →
      value.IsScalar := fun argument hMem =>
    (h.sound_left.named.wellFormed argument hMem).default_isScalar
  have hCode := alike_optionalField "code" (alike_texts (f := CodeTemplate.interpolated)
    (g := CodeTemplate.interpolated) (isSome_eq_of_rel h.code_same))
  have hReturns := alike_optionalField "returns"
    (alike_texts (a := a.returns) (f := ReturnKind.tag) (g := ReturnKind.tag) rfl)
  have hAllow := alike_optionalField "allowDropAnywhere" (alike_flag a.allowDropAnywhere)
  have hArguments := alike_optionalField "arguments" (alike_ofArguments h.arguments_same hScalar)
  unfold ofOperation
  rw [← h.opcode_eq, ← h.shape_eq, ← h.returns_eq, ← h.allowDropAnywhere_eq]
  refine .record (List.rel_append (List.rel_append (List.rel_append (List.rel_append
    (List.rel_append ?_ hCode) hReturns) hAllow) hArguments) (alike_field "func" (.text _ _)))
  exact .cons ⟨rfl, .text _ _⟩ (.cons ⟨rfl, alike_shape a.shape⟩ (alike_field "text" (.text _ _)))

theorem alike_entry {a b : Block} (h : a.SameButText b) : AlikeLiteral (entry a) (entry b) := by
  cases h with
  | separator => exact .text _ _
  | label text other =>
      have hLabel : Alike [] [] BlockShape.labelReference BlockShape.labelReference :=
        alike_fixed (by decide)
      exact .record (.cons ⟨rfl, .reference hLabel⟩ (alike_field "text" (.text _ _)))
  | operation hOperation => exact alike_ofOperation hOperation

/-- Descriptors that differ in free text are read alike. -/
theorem alike_ofBlocks {extension other : Extension} {blocks others : List Block}
    (hExtension : extension.SameButText other)
    (h : List.Forall₂ Block.SameButText blocks others) :
    AlikeLiteral (ofBlocks extension blocks) (ofBlocks other others) := by
  have hColor := alike_optionalField "color1"
    (alike_texts (f := id) (g := id) hExtension.color_isSome_eq)
  have hEntries : List.Forall₂ AlikeLiteral (entries blocks) (entries others) := by
    rw [entries, entries, List.forall₂_map_left_iff, List.forall₂_map_right_iff]
    exact h.imp fun _ _ => alike_entry
  refine .record (List.rel_append (List.rel_append ?_ hColor)
    (alike_field "blocks" (.sequence hEntries)))
  exact .cons ⟨rfl, .text _ _⟩ (alike_field "name" (.text _ _))

end BlockExtension.Descriptor
