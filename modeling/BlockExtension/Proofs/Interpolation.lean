import Mathlib
import BlockExtension.Proofs.FreeText
import BlockExtension.Proofs.Scanning

/-!
# Bound code as it is shown

Resolving binds every placeholder of an operation's code, and the descriptor shows
the bound code with each argument as a substitution, `${say_arg1}`. Nothing in that
text is a placeholder any more. The literal code is plain, since it comes from a scan,
and a substitution has no bracket in it. That leaves the seams: literal code may end
in an open bracket and go on with one that closes, as in `[[x]]`, but what stands
between the two is no name, because of the brace behind the `$`.

## Main results

* `toList_interpolated`: shown code is its segments in order.
* `plain_shown`: literal code and substitutions are plain together.
* `interpolated_bound`: no placeholder is left in bound code, and its arguments are
  the placeholders of the declared code, in order.
-/

namespace BlockExtension

open BlockExtension.Script (isIdentifier)
open BlockExtension.Script.Lexer (Separated toList_substitution)
open BlockExtension.Placeholder (Plain Interrupts)
open BlockExtension.Resolution (placeholders bindSegment idOf?)

/-! ## Shown code -/

/-- A segment as it is shown to readers: literal code as it is, an argument as a substitution. -/
def CodeSegment.shown : CodeSegment → List Char
  | .literal text => text.toList
  | .argument id => (CodeTemplate.substitution id).toList

/-- Code is shown segment by segment, without anything between them. -/
theorem CodeTemplate.toList_interpolated (template : CodeTemplate) :
    template.interpolated.toList = template.segments.flatMap CodeSegment.shown := by
  rw [interpolated, String.toList_join, List.flatMap_map]
  congr 1
  funext segment
  cases segment <;> rfl

namespace Placeholder

/-- The brace of a substitution interrupts a name. -/
theorem interrupts_substitution (id : String) (rest : List Char) :
    Interrupts ((CodeTemplate.substitution id).toList ++ rest) := by
  have hBrace : Interrupts ('\x7b' :: (id.toList ++ ['\x7d'] ++ rest)) :=
    interrupts_cons (by decide) (by decide) _
  intro more
  rw [toList_substitution, List.cons_append, List.dropWhile_cons_of_pos (by decide)]
  exact hBrace more

theorem not_mem_substitution {id : String} (h : isIdentifier id) :
    '[' ∉ (CodeTemplate.substitution id).toList := by
  have hId := not_mem_of_isIdentifierText h
  simp [toList_substitution, hId]

/--
Plain literal code and substitutions are plain together, whatever stands at the seams:
behind literal code stands a substitution, whose brace interrupts a name, or nothing.
-/
theorem plain_shown {segments : List CodeSegment} (hSeparated : Separated segments)
    (hLiterals : ∀ text, .literal text ∈ segments → Plain text.toList)
    (hIds : ∀ id, .argument id ∈ segments → isIdentifier id) :
    Plain (segments.flatMap CodeSegment.shown) := by
  induction segments with
  | nil => exact plain_of_not_mem (by simp)
  | cons segment segments ih =>
      have hMore := fun text hMem => hLiterals text (List.mem_cons_of_mem segment hMem)
      have hRest := ih hSeparated.tail hMore fun id hMem => hIds id (List.mem_cons_of_mem _ hMem)
      rw [List.flatMap_cons]
      cases segment with
      | argument id =>
          exact hRest.append_of_not_mem (not_mem_substitution (hIds id (List.mem_cons_self ..)))
      | literal text =>
          refine (hLiterals text (List.mem_cons_self ..)).append hRest ?_
          cases segments with
          | nil => exact interrupts_nil
          | cons next segments =>
              cases next with
              | literal other => exact absurd ⟨trivial, trivial⟩ hSeparated.rel
              | argument id => exact interrupts_substitution id _

theorem placeholders_of_plain {text : String} (h : Plain text.toList) :
    placeholders (scan text) = [] := by
  refine List.eq_nil_iff_forall_not_mem.2 fun placeholder hMem => ?_
  obtain ⟨hStands, hName⟩ := mem_scan_iff.1 ((Resolution.placeholders_scan ..).1 hMem)
  exact h _ _ hName hStands

end Placeholder

/-! ## Bound code -/

namespace Resolution

/--
An identifier stands for a placeholder: it is that of an argument with the name. Names are
different, so it is the only one.
-/
def StandsFor (arguments : List Argument) (placeholder : String × Nat) (id : String) : Prop :=
  ∃ argument ∈ arguments, argument.name = placeholder.1 ∧ argument.id = id

/-- The arguments of bound code are its placeholders, each by its identifier. -/
theorem forall₂_standsFor {arguments : List Argument} {segments : List Segment}
    (h : ∀ name column, .placeholder name column ∈ segments →
      ∃ id, idOf? arguments name = some id) :
    List.Forall₂ (StandsFor arguments) (placeholders segments)
      (CodeTemplate.ids ⟨segments.map (bindSegment arguments)⟩) := by
  induction segments with
  | nil => exact .nil
  | cons segment segments ih =>
      have hRest := ih fun name column hMem => h name column (List.mem_cons_of_mem _ hMem)
      cases segment with
      | text value => exact hRest
      | placeholder name column =>
          obtain ⟨id, hId⟩ := h name column (List.mem_cons_self ..)
          refine .cons ?_ hRest
          rw [hId, Option.getD_some]
          exact exists_of_idOf? hId

/-- Bound code has no placeholder in it. -/
theorem plain_interpolated {arguments : List Argument} (hNamed : Named arguments) {code : String}
    (h : ∀ name column, .placeholder name column ∈ Placeholder.scan code →
      ∃ id, idOf? arguments name = some id) :
    Plain (CodeTemplate.interpolated
      ⟨(Placeholder.scan code).map (bindSegment arguments)⟩).toList := by
  rw [CodeTemplate.toList_interpolated]
  refine Placeholder.plain_shown (separated_scan arguments code) (fun text hMem => ?_)
    fun id hMem => ?_
  · obtain ⟨segment, hSegment, hBind⟩ := List.mem_map.1 hMem
    cases segment with
    | text value =>
        cases hBind
        exact Placeholder.plainTexts_scan code _ hSegment
    | placeholder name column => cases hBind
  · obtain ⟨segment, hSegment, hBind⟩ := List.mem_map.1 hMem
    cases segment with
    | text value => cases hBind
    | placeholder name column =>
        obtain ⟨found, hFound⟩ := h name column hSegment
        rw [bindSegment, hFound] at hBind
        cases hBind
        obtain ⟨argument, hArgument, _, rfl⟩ := exists_of_idOf? hFound
        exact hNamed.isIdentifier_id argument hArgument

end Resolution

/--
Whatever declarations were accepted and whatever names were given, an operation that
declares code has it bound. The bound code is shown as the segments of the declared
code in order, each piece of text as it is and each placeholder as the substitution of
its argument. A scan of what is shown finds no placeholder, and the arguments of the
bound code are the placeholders of the declared code, each by the identifier of the one
argument with its name.
-/
theorem interpolated_bound {naming : Naming} {declarations : List Declaration}
    {resolution : Resolution}
    (hRead : ∀ declaration ∈ declarations, ∃ index entry,
      Declaration.ofJson index entry = .ok declaration)
    (hResolve : resolve naming declarations = .ok resolution) {index : Nat}
    {declared : OperationDeclaration} {code : String}
    (hDeclared : declarations[index]? = some (.operation declared))
    (hCode : declared.code = some code) :
    ∃ operation template, resolution.blocks[index]? = some (.operation operation) ∧
      operation.code = some template ∧
      operation.arguments.map (·.name) = declared.names ∧ declared.names.Nodup ∧
      template.interpolated.toList = (Placeholder.scan code).flatMap
        (fun segment => (bindSegment operation.arguments segment).shown) ∧
      placeholders (Placeholder.scan template.interpolated) = [] ∧
      List.Forall₂ (Resolution.StandsFor operation.arguments)
        (placeholders (Placeholder.scan code)) template.ids := by
  obtain ⟨operation, hBlock, h⟩ := Resolution.exists_operation_at
    (Resolution.forall₂_resolves (Declaration.wellFormed_of_read hRead) hResolve) hDeclared
  have hNames : operation.arguments.map (·.name) = declared.names := by
    rw [OperationDeclaration.names, ← h.arguments_eq, List.map_map]
    rfl
  refine ⟨operation, ⟨(Placeholder.scan code).map (bindSegment operation.arguments)⟩, hBlock,
    by rw [h.code_eq, hCode]; rfl, hNames, hNames ▸ h.named.names_nodup, ?_, ?_, ?_⟩
  · rw [CodeTemplate.toList_interpolated, List.flatMap_map]
  · exact Placeholder.placeholders_of_plain
      (Resolution.plain_interpolated h.named (h.code_bound code hCode))
  · exact Resolution.forall₂_standsFor (h.code_bound code hCode)

/-- Code with nested, adjacent and unmatched brackets, whose argument has a drawn name. -/
theorem interpolated_bound_nested :
    ∃ resolution,
      resolve (.random [] [.ofFn fun _ => 0])
        [.operation ⟨"run", .command, "run [x]", some "[[x]][x][1] [ [x", none, false, none,
          [⟨"x", .string, none⟩]⟩] = .ok resolution ∧
      ∃ operation template, resolution.blocks[0]? = some (.operation operation) ∧
        operation.code = some template ∧
        template.interpolated.toList = (Placeholder.scan "[[x]][x][1] [ [x").flatMap
          (fun segment => (bindSegment operation.arguments segment).shown) ∧
        placeholders (Placeholder.scan template.interpolated) = [] ∧
        List.Forall₂ (Resolution.StandsFor operation.arguments) [("x", 2), ("x", 6)]
          template.ids := by
  have hResolve : resolve (.random [] [.ofFn fun _ => 0])
      [.operation ⟨"run", .command, "run [x]", some "[[x]][x][1] [ [x", none, false, none,
        [⟨"x", .string, none⟩]⟩] =
      .ok ⟨[.operation ⟨"run", .command, "run [x]",
        some ⟨[.literal "[", .argument "AAAAAAAAAAA", .literal "]", .argument "AAAAAAAAAAA",
          .literal "[1] [ [x"]⟩, none, false, .argument "AAAAAAAAAAA",
        [⟨"x", .string, "AAAAAAAAAAA", none⟩]⟩], []⟩ := by cbv
  have hScan : placeholders (Placeholder.scan "[[x]][x][1] [ [x") = [("x", 2), ("x", 6)] := by
    cbv
  have hDeclared : [Declaration.operation ⟨"run", .command, "run [x]", some "[[x]][x][1] [ [x",
      none, false, none, [⟨"x", .string, none⟩]⟩][0]? = some (.operation ⟨"run", .command,
      "run [x]", some "[[x]][x][1] [ [x", none, false, none, [⟨"x", .string, none⟩]⟩) := rfl
  have hBound := interpolated_bound ?_ hResolve hDeclared rfl
  · obtain ⟨operation, template, hBlock, hCode, _, _, hShown, hNone, hEach⟩ := hBound
    exact ⟨_, hResolve, operation, template, hBlock, hCode, hShown, hNone, hScan ▸ hEach⟩
  · intro declaration hMem
    rw [List.mem_singleton.1 hMem]
    exact ⟨0, .object [("opcode", .string "run"), ("blockType", .string "COMMAND"),
      ("text", .string "run [x]"), ("code", .string "[[x]][x][1] [ [x"),
      ("arguments", .object [("x", .object [("type", .string "STRING")])])], by rfl⟩

end BlockExtension
