import Mathlib
import BlockExtension.Descriptor
import BlockExtension.Proofs.Dispatch
import BlockExtension.Proofs.Entries
import BlockExtension.Proofs.Schema

/-!
# Entries do not depend on each other

From a palette that is accepted, any entries may be left out and the others put into
another order. What is left is accepted too, and each of its entries still means what
it meant: the reader looks at a position only to name it in a fault, the ordinal policy
counts the arguments of one operation at a time, and all opcodes were different before.

The entries that are left are given by their positions, in their new order. Whatever
the palette yields entry by entry is then picked at the same positions.

## Main results

* `subperm_iff_exists_pick`: leaving entries out and reordering the others is picking
  at positions.
* `Dispatch.find?_eq_of_subset`: the case of an operation does not depend on the other
  blocks.
* `resolve_pick`: what a palette yields is picked with its entries.
-/

namespace BlockExtension

/-! ## Picking at positions -/

/-- The items at positions, in the order of the positions; behind the end there is nothing. -/
def pick {α : Type} (items : List α) (positions : List Nat) : List α :=
  positions.filterMap (items[·]?)

section Pick

variable {α β : Type} {items : List α} {positions : List Nat}

theorem pick_map (f : α → β) (items : List α) (positions : List Nat) :
    pick (items.map f) positions = (pick items positions).map f := by
  simp only [pick, List.map_filterMap, List.getElem?_map]

/-- Lists of one length that correspond item by item are picked alike. -/
private theorem map_pick_eq {γ : Type} {f : α → γ} {g : β → γ} {others : List β}
    (h : items.map f = others.map g) (positions : List Nat) :
    (pick items positions).map f = (pick others positions).map g := by
  rw [← pick_map, ← pick_map, h]

private theorem exists_pick_eq_map (items : List α) (positions : List Nat) :
    ∃ places : List (Fin items.length), pick items positions = places.map (items[·]) ∧
      places.map Fin.val = positions.filter (· < items.length) := by
  induction positions with
  | nil => exact ⟨[], rfl, rfl⟩
  | cons position positions ih =>
      obtain ⟨places, hPick, hPlaces⟩ := ih
      by_cases hInside : position < items.length
      · refine ⟨⟨position, hInside⟩ :: places, ?_, ?_⟩
        · simpa [pick, List.filterMap_cons, hInside] using hPick
        · simp [hInside, hPlaces]
      · refine ⟨places, ?_, ?_⟩
        · simpa [pick, List.filterMap_cons, hInside] using hPick
        · simp [hInside, hPlaces]

/-- What is picked at different positions is some of the items, in some order. -/
theorem subperm_pick (h : positions.Nodup) : (pick items positions).Subperm items := by
  obtain ⟨places, hPick, hPlaces⟩ := exists_pick_eq_map items positions
  have hNodup : places.Nodup := List.Nodup.of_map Fin.val (hPlaces ▸ h.filter _)
  obtain ⟨front, hPerm, hSublist⟩ :=
    List.subperm_of_subset hNodup fun place _ => List.mem_finRange place
  rw [hPick]
  refine ⟨front.map (items[·]), hPerm.map _, ?_⟩
  simpa using hSublist.map (items[·] : Fin items.length → α)

/-- Leaving items out and reordering the others is picking at different positions. -/
theorem subperm_iff_exists_pick {rest : List α} :
    rest.Subperm items ↔ ∃ positions : List Nat, positions.Nodup ∧ rest = pick items positions := by
  constructor
  · rintro ⟨front, hPerm, hSublist⟩
    obtain ⟨places, rfl, hOrdered⟩ := List.sublist_eq_map_getElem hSublist
    have hComp := congrFun (congrFun (List.eq_map_comp_perm (items[·] : Fin items.length → α)) rest)
      places
    obtain ⟨chosen, hRest, hChosen⟩ := hComp.mpr hPerm.symm
    refine ⟨chosen.map Fin.val, ?_, ?_⟩
    · refine List.Nodup.map Fin.val_injective (hChosen.nodup_iff.2 ?_)
      exact hOrdered.imp fun hLt => ne_of_lt hLt
    · have hInside : (fun position : Nat => items[position]?) ∘ Fin.val =
          some ∘ (items[·] : Fin items.length → α) := by
        funext place
        simp
      rw [hRest, pick, List.filterMap_map, hInside, List.filterMap_eq_map]
  · rintro ⟨positions, hNodup, rfl⟩
    exact subperm_pick hNodup

end Pick

/-! ## Cases -/

namespace Dispatch

/-- How the cases of a pass are named. -/
def Pass.keyStyle : Pass → KeyStyle
  | .statement => .dotted
  | .expression => .dotted
  | .treeBuild => .underscored
  | .treeInput => .underscored

/-- What a pass makes of an operation. -/
def Pass.body (extension : Extension) : Pass → Operation → List String
  | .statement => statementBody
  | .expression => expressionBody
  | .treeBuild => nodeBody extension .dotted
  | .treeInput => nodeBody extension .dotted

/-- The table for a pass. -/
def Tables.ofPass (tables : Tables) : Pass → Table
  | .statement => tables.statement
  | .expression => tables.expression
  | .treeBuild => tables.treeBuild
  | .treeInput => tables.treeInput

theorem ofPass_tables (extension : Extension) (blocks : List Block) (pass : Pass) :
    (tables extension blocks).ofPass pass =
      ⟨pass, (Block.emitting blocks).map
        (caseOf extension pass.keyStyle (pass.body extension))⟩ := by
  cases pass <;> rfl

/-- A key says its style and its opcode. -/
theorem KeyStyle.key_eq_key_iff {style other : KeyStyle} {extensionId a b : String} :
    style.key extensionId a = other.key extensionId b ↔ style = other ∧ a = b := by
  cases style <;> cases other <;>
    simp [KeyStyle.key, String.append_assoc, String.ext_iff]

/-- A key that no operation has is not found. -/
theorem find?_caseOf_eq_none {operations : List Operation} {pass : Pass} {extension : Extension}
    {style : KeyStyle} {body : Operation → List String} {key : String}
    (h : ∀ operation ∈ operations, style.key extension.id operation.opcode ≠ key) :
    (Table.mk pass (operations.map (caseOf extension style body))).find? key = none := by
  rw [Table.find?, List.find?_eq_none]
  intro case hMem
  obtain ⟨operation, hOperation, rfl⟩ := List.mem_map.1 hMem
  exact fun hKey => h operation hOperation (of_decide_eq_true hKey)

def Distinct (blocks : List Block) : Prop :=
  ((blocks.filterMap Block.operation?).map (·.opcode)).Nodup

section Distinct

variable {blocks : List Block} {operation other : Operation}

private theorem mem_operations_iff :
    operation ∈ blocks.filterMap Block.operation? ↔ .operation operation ∈ blocks := by
  rw [List.mem_filterMap]
  constructor
  · rintro ⟨block, hMem, hBlock⟩
    cases block <;> cases hBlock
    exact hMem
  · exact fun hMem => ⟨_, hMem, rfl⟩

theorem Distinct.eq_of_opcode_eq (h : Distinct blocks) (hMem : .operation operation ∈ blocks)
    (hOther : .operation other ∈ blocks) (hSame : operation.opcode = other.opcode) :
    operation = other :=
  List.inj_on_of_nodup_map h (mem_operations_iff.2 hMem) (mem_operations_iff.2 hOther) hSame

theorem Distinct.nodup_emitting (h : Distinct blocks) :
    ((Block.emitting blocks).map (·.opcode)).Nodup :=
  List.Nodup.sublist (List.filter_sublist.map _) h

/-- Under the key of an operation stands its case, if it emits code, and nothing otherwise. -/
theorem Distinct.find?_key (h : Distinct blocks) (hMem : .operation operation ∈ blocks)
    (extension : Extension) (pass : Pass) (style : KeyStyle) :
    ((tables extension blocks).ofPass pass).find? (style.key extension.id operation.opcode) =
      if style = pass.keyStyle ∧ operation.emitsCode then
        some (caseOf extension pass.keyStyle (pass.body extension) operation)
      else none := by
  rw [ofPass_tables]
  split
  · next hFound =>
      obtain ⟨rfl, hEmits⟩ := hFound
      exact find?_caseOf pass extension pass.keyStyle (pass.body extension) h.nodup_emitting
        (Block.mem_emitting.2 ⟨hMem, hEmits⟩)
  · next hNotFound =>
      refine find?_caseOf_eq_none fun other hOther hKey => hNotFound ?_
      obtain ⟨hOtherMem, hEmits⟩ := Block.mem_emitting.1 hOther
      obtain ⟨hStyle, hOpcode⟩ := KeyStyle.key_eq_key_iff.1 hKey
      exact ⟨hStyle.symm, h.eq_of_opcode_eq hOtherMem hMem hOpcode ▸ hEmits⟩

/-- The case of an operation does not depend on the other blocks. -/
theorem find?_eq_of_subset {kept : List Block} (h : Distinct blocks) (hKept : Distinct kept)
    (hSubset : kept ⊆ blocks) (hMem : .operation operation ∈ kept) (extension : Extension)
    (pass : Pass) (style : KeyStyle) :
    ((tables extension kept).ofPass pass).find? (style.key extension.id operation.opcode) =
      ((tables extension blocks).ofPass pass).find?
        (style.key extension.id operation.opcode) := by
  rw [hKept.find?_key hMem, h.find?_key (hSubset hMem)]

/-- Under a key of none of the operations nothing stands. -/
theorem find?_eq_none_of_forall {extension : Extension} {key : String}
    (h : ∀ operation, .operation operation ∈ blocks →
      ∀ style : KeyStyle, style.key extension.id operation.opcode ≠ key) (pass : Pass) :
    ((tables extension blocks).ofPass pass).find? key = none := by
  rw [ofPass_tables]
  exact find?_caseOf_eq_none fun operation hMem =>
    h operation (Block.mem_emitting.1 hMem).1 pass.keyStyle

end Distinct

end Dispatch

/-! ## Warnings -/

def Warning.opcode : Warning → String
  | .argumentNotShown _ opcode => opcode

def Block.warningsAmong (warnings : List Warning) : Block → List Warning
  | .operation found => warnings.filter (·.opcode = found.opcode)
  | _ => []

/-- Every warning of an entry is about its operation. -/
private theorem opcode_of_mem_warnings {declaration : Declaration} {ids : List String}
    {piece : Block × List Warning} (h : declaration.resolveWith ids = .ok piece)
    {warning : Warning} (hMem : warning ∈ piece.2) :
    ∃ operation, piece.1 = .operation operation ∧ warning.opcode = operation.opcode := by
  cases declaration with
  | separator =>
      cases h
      cases hMem
  | label text =>
      cases h
      cases hMem
  | operation declared =>
      simp only [Declaration.resolveWith, Resolution.resolveOperation_eq, bind_eq_ok_iff] at h
      obtain ⟨_, _, ⟨operation, warnings⟩, ⟨_, _, code, _, report, _, hResolved⟩, h⟩ := h
      cases hResolved
      cases h
      obtain ⟨argument, _, rfl⟩ := List.mem_map.1 hMem
      exact ⟨_, rfl, rfl⟩

/-- Where no operation has an opcode, no warning names it. -/
private theorem filter_flatMap_eq_nil {pieces : List (Block × List Warning)} {opcode : String}
    (hOwn : ∀ piece ∈ pieces, ∀ warning ∈ piece.2,
      ∃ operation, piece.1 = .operation operation ∧ warning.opcode = operation.opcode)
    (hFree : opcode ∉ ((pieces.map Prod.fst).filterMap Block.operation?).map (·.opcode)) :
    (pieces.flatMap Prod.snd).filter (·.opcode = opcode) = [] := by
  rw [List.filter_eq_nil_iff]
  intro warning hWarning hSame
  obtain ⟨piece, hPiece, hWarning⟩ := List.mem_flatMap.1 hWarning
  obtain ⟨operation, hOperation, hOpcode⟩ := hOwn piece hPiece warning hWarning
  refine hFree (List.mem_map.2 ⟨operation, List.mem_filterMap.2 ⟨piece.1, ?_, ?_⟩, ?_⟩)
  · exact List.mem_map_of_mem hPiece
  · rw [hOperation]
    rfl
  · rw [← hOpcode]
    simpa using hSame

/-- Among the warnings of entries with different opcodes, those about an entry are its own. -/
private theorem warningsAmong_flatMap {pieces : List (Block × List Warning)}
    (hOwn : ∀ piece ∈ pieces, ∀ warning ∈ piece.2,
      ∃ operation, piece.1 = .operation operation ∧ warning.opcode = operation.opcode)
    (hDistinct : Dispatch.Distinct (pieces.map Prod.fst)) {piece : Block × List Warning}
    (hMem : piece ∈ pieces) :
    piece.1.warningsAmong (pieces.flatMap Prod.snd) = piece.2 := by
  have hPlain (hNone : ∀ operation, piece.1 ≠ .operation operation) : piece.2 = [] := by
    rw [List.eq_nil_iff_forall_not_mem]
    intro warning hWarning
    obtain ⟨operation, hOperation, _⟩ := hOwn piece hMem warning hWarning
    exact hNone operation hOperation
  obtain ⟨block, warnings⟩ := piece
  cases block with
  | separator => exact (hPlain fun _ hSame => by cases hSame).symm
  | label text => exact (hPlain fun _ hSame => by cases hSame).symm
  | operation operation =>
      have hSelf : warnings.filter (·.opcode = operation.opcode) = warnings := by
        rw [List.filter_eq_self]
        intro warning hWarning
        obtain ⟨_, hOperation, hOpcode⟩ := hOwn _ hMem warning hWarning
        cases hOperation
        simpa using hOpcode
      obtain ⟨front, back, rfl⟩ := List.append_of_mem hMem
      rw [Dispatch.Distinct, List.map_append, List.map_cons, List.filterMap_append,
        List.filterMap_cons_some (show Block.operation? (.operation operation) = _ from rfl),
        List.map_append, List.map_cons, List.nodup_middle, List.nodup_cons, List.mem_append,
        not_or] at hDistinct
      obtain ⟨⟨hFront, hBack⟩, _⟩ := hDistinct
      rw [List.forall_mem_append, List.forall_mem_cons] at hOwn
      rw [Block.warningsAmong, List.flatMap_append, List.flatMap_cons, List.filter_append,
        List.filter_append, hSelf, filter_flatMap_eq_nil hOwn.1 hFront,
        filter_flatMap_eq_nil hOwn.2.2 hBack, List.nil_append, List.append_nil]

/-! ## Palettes -/

/-- What an entry declares does not depend on its position. -/
theorem Declaration.ofEntries_eq_ok_iff_map {index : Nat} {entries : List Json}
    {declarations : List Declaration} :
    Declaration.ofEntries index entries = .ok declarations ↔
      entries.map (Declaration.ofJson 0) = declarations.map .ok := by
  have hPosition : ∀ {index : Nat} {entry : Json} {declaration : Declaration},
      Declaration.ofJson index entry = .ok declaration ↔
        Declaration.ofJson 0 entry = .ok declaration :=
    Declaration.ofJson_eq_ok_iff.trans Declaration.ofJson_eq_ok_iff.symm
  induction entries generalizing index declarations with
  | nil => simp [Declaration.ofEntries, eq_comm]
  | cons entry rest ih =>
      simp only [Declaration.ofEntries, bind_eq_ok_iff, ih, hPosition, List.map_cons]
      constructor
      · rintro ⟨declaration, hEntry, more, hRest, h⟩
        cases h
        rw [hEntry, hRest, List.map_cons]
      · intro h
        cases declarations with
        | nil => cases h
        | cons declaration more =>
            obtain ⟨hEntry, hRest⟩ := List.cons.inj h
            exact ⟨declaration, hEntry, more, hRest, rfl⟩

namespace Resolution

/-- The operations of a palette that resolves have different opcodes. -/
theorem distinct_of_resolve {naming : Naming} {declarations : List Declaration}
    {resolution : Resolution}
    (hWellFormed : ∀ declaration ∈ declarations, declaration.WellFormed)
    (h : resolve naming declarations = .ok resolution) : Dispatch.Distinct resolution.blocks := by
  rw [Dispatch.Distinct, opcodes_operations (forall₂_resolves hWellFormed h)]
  exact nodup_opcodes h

/-- Picked declarations resolve to what is picked of the blocks, each with its warnings. -/
theorem exists_resolve_pick {declarations : List Declaration} {before : Resolution}
    {positions : List Nat} (hPositions : positions.Nodup)
    (hResolve : resolve .ordinal declarations = .ok before) :
    ∃ pieces, before = ofPieces pieces ∧ declarations.map resolveAlone = pieces.map .ok ∧
      resolve .ordinal (pick declarations positions) = .ok (ofPieces (pick pieces positions)) := by
  obtain ⟨hNodup, pieces, hEach, rfl⟩ := resolve_eq_ok_iff.1 hResolve
  rw [resolveEach_ordinal_iff] at hEach
  refine ⟨pieces, rfl, hEach, resolve_eq_ok_iff.2 ⟨?_, _, ?_, rfl⟩⟩
  · have hSome : (pick declarations positions).Subperm declarations := subperm_pick hPositions
    obtain ⟨front, hPerm, hSublist⟩ := hSome
    exact ((hPerm.filterMap _).nodup_iff).1 (hNodup.sublist (hSublist.filterMap _))
  · exact resolveEach_ordinal_iff.2 (map_pick_eq hEach positions)

/-- What is left of a palette when its entries are picked at positions. -/
structure PickedFrom (before after : Resolution) (positions : List Nat) : Prop where
  /-- Every entry resolves to the block that it resolved to before. -/
  blocks_eq : after.blocks = pick before.blocks positions
  /-- The descriptor says the same about every entry. -/
  entries_eq :
    Descriptor.entries after.blocks = pick (Descriptor.entries before.blocks) positions
  /-- Under a key of an operation stands the case that stood there before. -/
  find?_eq : ∀ (extension : Extension) (pass : Dispatch.Pass) (style : Dispatch.KeyStyle)
    (operation : Operation), .operation operation ∈ after.blocks →
      ((Dispatch.tables extension after.blocks).ofPass pass).find?
          (style.key extension.id operation.opcode) =
        ((Dispatch.tables extension before.blocks).ofPass pass).find?
          (style.key extension.id operation.opcode)
  /-- Under any other key nothing stands. -/
  find?_eq_none : ∀ (extension : Extension) (pass : Dispatch.Pass) (key : String),
    (∀ operation, .operation operation ∈ after.blocks →
      ∀ style : Dispatch.KeyStyle, style.key extension.id operation.opcode ≠ key) →
      ((Dispatch.tables extension after.blocks).ofPass pass).find? key = none
  /-- The warnings are those that there were about the entries. -/
  warnings_eq : after.warnings = after.blocks.flatMap (Block.warningsAmong before.warnings)

end Resolution

open Resolution in
/--
When entries of an accepted palette are left out and the others reordered, the palette
is still accepted, and whatever it yields for an entry is what it yielded before.
-/
theorem resolve_pick {entries : List Json} {declarations : List Declaration}
    {before : Resolution} {positions : List Nat}
    (hRead : Declaration.ofEntries 0 entries = .ok declarations)
    (hResolve : resolve .ordinal declarations = .ok before) (hPositions : positions.Nodup) :
    ∃ left after, Declaration.ofEntries 0 (pick entries positions) = .ok left ∧
      resolve .ordinal left = .ok after ∧ PickedFrom before after positions := by
  have hRest : Declaration.ofEntries 0 (pick entries positions) =
      .ok (pick declarations positions) :=
    Declaration.ofEntries_eq_ok_iff_map.2
      (map_pick_eq (Declaration.ofEntries_eq_ok_iff_map.1 hRead) positions)
  have hBefore := distinct_of_resolve (Declaration.wellFormed_of_ofEntries hRead) hResolve
  obtain ⟨pieces, rfl, hEach, hAfter⟩ := exists_resolve_pick hPositions hResolve
  have hDistinct := distinct_of_resolve (Declaration.wellFormed_of_ofEntries hRest) hAfter
  have hSubset : pick pieces positions ⊆ pieces := (subperm_pick hPositions).subset
  have hOwn : ∀ piece ∈ pieces, ∀ warning ∈ piece.2,
      ∃ operation, piece.1 = .operation operation ∧ warning.opcode = operation.opcode := by
    intro piece hPiece
    have hMem : Except.ok piece ∈ declarations.map resolveAlone :=
      hEach ▸ List.mem_map_of_mem hPiece
    obtain ⟨declaration, _, hAlone⟩ := List.mem_map.1 hMem
    exact fun warning hWarning => opcode_of_mem_warnings hAlone hWarning
  refine ⟨_, _, hRest, hAfter, ?_⟩
  refine
    { blocks_eq := (pick_map ..).symm
      entries_eq := ?_
      find?_eq := fun extension pass style operation hMem =>
        Dispatch.find?_eq_of_subset hBefore hDistinct (List.map_subset _ hSubset) hMem extension
          pass style
      find?_eq_none := fun extension pass key hKey => Dispatch.find?_eq_none_of_forall hKey pass
      warnings_eq := ?_ }
  · simp only [ofPieces, Descriptor.entries, pick_map]
  · simp only [ofPieces, List.flatMap_map]
    refine List.flatMap_congr fun piece hPiece => ?_
    exact (warningsAmong_flatMap hOwn hBefore (hSubset hPiece)).symm

/-- A label, a separator and an operation with an argument that its text does not show. -/
def mixedPalette : List Json :=
  [.string "Motion", .string "---",
    .object [("opcode", .string "turn"), ("blockType", .string "COMMAND"), ("text", .string "turn"),
      ("code", .string "turn([by])"),
      ("arguments", .object [("by", .object [("type", .string "ANGLE")])])]]

def mixedDeclarations : List Declaration :=
  [.label "Motion", .separator,
    .operation ⟨"turn", .command, "turn", some "turn([by])", none, false, none,
      [⟨"by", .angle, none⟩]⟩]

/-- What the palette resolves to. -/
def mixedResolution : Resolution :=
  ⟨[.label "Motion", .separator,
      .operation ⟨"turn", .command, "turn",
        some ⟨[.literal "turn(", .argument "turn_arg1", .literal ")"]⟩, none, false,
        .argument "turn_arg1", [⟨"by", .angle, "turn_arg1", none⟩]⟩],
    [.argumentNotShown "by" "turn"]⟩

/-- The operation is put in front, and the separator is left out. -/
theorem resolve_pick_turned :
    Declaration.ofEntries 0 mixedPalette = .ok mixedDeclarations ∧
      resolve .ordinal mixedDeclarations = .ok mixedResolution ∧ [2, 0].Nodup ∧
      ∃ left after, Declaration.ofEntries 0 (pick mixedPalette [2, 0]) = .ok left ∧
        resolve .ordinal left = .ok after ∧
        Resolution.PickedFrom mixedResolution after [2, 0] := by
  have hRead : Declaration.ofEntries 0 mixedPalette = .ok mixedDeclarations := by rfl
  have hResolve : resolve .ordinal mixedDeclarations = .ok mixedResolution := by cbv
  have hPositions : [2, 0].Nodup := by decide
  exact ⟨hRead, hResolve, hPositions, resolve_pick hRead hResolve hPositions⟩

end BlockExtension
