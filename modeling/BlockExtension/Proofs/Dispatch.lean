import BlockExtension.Dispatch
import BlockExtension.Proofs.Resolution

/-!
# Looking up the cases of a resolved palette

The four tables are lists of the same operations, each with a case of its own.
The host finds a case by its key and takes the first one it finds, so it matters
that no two operations have one key. They do not, since no two have one opcode.

## Main results

* `opcodes_emitting`: the operations that emit code are those declared with code.
* `find?_caseOf`: under the key of an operation stands the case of that operation.
-/

namespace BlockExtension

/-- The opcodes of the operations that were declared with code, in order. -/
def emittingOpcodes (declarations : List Declaration) : List String :=
  declarations.filterMap fun
    | .operation declared => if declared.code.getD "" = "" then none else some declared.opcode
    | _ => none

namespace Block

private theorem emitting_cons (block : Block) (blocks : List Block) :
    emitting (block :: blocks) =
      (block.operation?.toList.filter Operation.emitsCode) ++ emitting blocks := by
  unfold emitting
  cases hBlock : block.operation? with
  | none => simp [hBlock]
  | some operation =>
      by_cases hEmits : operation.emitsCode
      · simp [hBlock, hEmits]
      · simp [hBlock, hEmits]

/-- The operations that emit code are those that were declared with code. -/
theorem opcodes_emitting {declarations : List Declaration} {blocks : List Block}
    (hWellFormed : ∀ declaration ∈ declarations, declaration.WellFormed)
    (h : List.Forall₂ Declaration.Resolves declarations blocks) :
    (emitting blocks).map (·.opcode) = emittingOpcodes declarations := by
  induction h with
  | nil => rfl
  | @cons declaration block declarations blocks hFirst _ ih =>
      have hRest := ih fun declaration hMem => hWellFormed declaration (List.mem_cons_of_mem _ hMem)
      rw [emitting_cons, List.map_append, hRest]
      cases hFirst with
      | separator => rfl
      | label text => rfl
      | @operation declared operation hOperation =>
          have hDeclared : declared.WellFormed := hWellFormed _ (List.mem_cons_self ..)
          have hEmits := Resolution.emitsCode_iff hDeclared hOperation
          cases hCode : declared.code with
          | none =>
              have hNot : operation.emitsCode = false := by simpa [hCode] using hEmits
              simp [emittingOpcodes, operation?, hCode, hNot]
          | some code =>
              have hNonempty := hDeclared.code_ne_empty code hCode
              have hDoes : operation.emitsCode = true := by simpa [hCode] using hEmits
              simp [emittingOpcodes, operation?, hCode, hDoes, hNonempty, hOperation.opcode_eq]

/-- An operation that emits code is one of the blocks. -/
theorem mem_emitting {blocks : List Block} {operation : Operation} :
    operation ∈ emitting blocks ↔ .operation operation ∈ blocks ∧ operation.emitsCode := by
  simp only [emitting, List.mem_filter, List.mem_filterMap]
  constructor
  · rintro ⟨⟨block, hMem, hBlock⟩, hEmits⟩
    cases block with
    | separator => cases hBlock
    | label text => cases hBlock
    | operation found =>
        cases hBlock
        exact ⟨hMem, hEmits⟩
  · rintro ⟨hMem, hEmits⟩
    exact ⟨⟨_, hMem, rfl⟩, hEmits⟩

private theorem emittingOpcodes_sublist (declarations : List Declaration) :
    (emittingOpcodes declarations).Sublist (Resolution.opcodes declarations) := by
  induction declarations with
  | nil => exact List.Sublist.slnil
  | cons declaration declarations ih =>
      cases declaration with
      | separator => exact ih
      | label text => exact ih
      | operation declared =>
          rw [show Resolution.opcodes (.operation declared :: declarations) =
            declared.opcode :: Resolution.opcodes declarations from rfl]
          by_cases hCode : declared.code.getD "" = ""
          · rw [emittingOpcodes, List.filterMap_cons_none (by simp [hCode])]
            exact ih.cons _
          · rw [show emittingOpcodes (.operation declared :: declarations) =
              declared.opcode :: emittingOpcodes declarations by simp [emittingOpcodes, hCode]]
            exact ih.cons_cons _

/-- No two operations that emit code have one opcode. -/
theorem nodup_emitting {naming : Naming} {declarations : List Declaration}
    {resolution : Resolution}
    (hWellFormed : ∀ declaration ∈ declarations, declaration.WellFormed)
    (h : resolve naming declarations = .ok resolution) :
    ((emitting resolution.blocks).map (·.opcode)).Nodup := by
  rw [opcodes_emitting hWellFormed (Resolution.forall₂_resolves hWellFormed h)]
  exact (Resolution.nodup_opcodes h).sublist (emittingOpcodes_sublist declarations)

end Block

namespace Dispatch

/-- Keys of one style tell opcodes apart. -/
theorem KeyStyle.key_injective (style : KeyStyle) (extensionId : String) :
    Function.Injective (style.key extensionId) := by
  intro a b h
  cases style with
  | dotted => simpa [KeyStyle.key, String.append_assoc] using h
  | underscored => simpa [KeyStyle.key, String.append_assoc] using h

/-- Under the key of an operation stands the case of that operation. -/
theorem find?_caseOf {operations : List Operation} {operation : Operation} (pass : Pass)
    (extension : Extension) (style : KeyStyle) (body : Operation → List String)
    (hNodup : (operations.map (·.opcode)).Nodup) (hMem : operation ∈ operations) :
    (Table.mk pass (operations.map (caseOf extension style body))).find?
        (style.key extension.id operation.opcode) =
      some (caseOf extension style body operation) := by
  have hKeys : ((operations.map (caseOf extension style body)).map (·.key)).Nodup := by
    have hMapped := hNodup.map (style.key_injective extension.id)
    rw [List.map_map] at hMapped ⊢
    exact hMapped
  exact find?_eq_some_of_nodup hKeys (List.mem_map_of_mem hMem)

end Dispatch

end BlockExtension
