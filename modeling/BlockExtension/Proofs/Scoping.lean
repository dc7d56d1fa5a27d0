import Mathlib
import BlockExtension.Proofs.Containment
import BlockExtension.Proofs.Script.Scope

/-!
# The scopes of text cases

A text case stands in a hook of the host and in a block of its own. It declares the
identifiers of the arguments, and the substitutions of its template literal refer to
them; everything else that it refers to is bound by the hook or by the module. So two
things have to fit. The declared names have to be new, and that they are follows from
the shape of what a naming policy gives, which no word of the language and no name in
the hook has. And every substitution has to find its name: identifiers of arguments are
declared in front of the template, and the id of the block is only asked for where the
hook names the block.

Both sides are read off the emitted text: the names by `Reader`, and the substitutions
from the pieces of the template literal.

## Main results

* `Resolution.forall_id_of_resolve`: what holds of all that a policy gives holds of the
  identifiers of a resolved palette.
* `Patch.reads_renderMethod`: the names that a hook binds.
* `scoped_statementBody`, `scoped_expressionBody`: what a case declares and refers to.
* `textCases_wellScoped`: every case is well scoped in the hook that it stands in.
-/

namespace BlockExtension

open BlockExtension.Script (spaces isIdentifier reservedWords IsBindingName Declarable)
open BlockExtension.Script.Lexer

/-! ## The identifiers of a palette -/

namespace Resolution

private theorem id_mem_of_nameArguments {declared : List ArgumentDeclaration} {ids : List String}
    {argument : Argument} (h : argument ∈ nameArguments declared ids) : argument.id ∈ ids := by
  induction declared generalizing ids with
  | nil => cases h
  | cons first declared ih =>
      cases ids with
      | nil => cases h
      | cons id ids =>
          rcases List.mem_cons.1 h with rfl | h
          · exact List.mem_cons_self ..
          · exact List.mem_cons_of_mem _ (ih h)

variable {P : String → Prop}

private theorem forall_id_of_resolveFrom {position : Nat} {seen : List (String × Nat)}
    {naming : Naming} {declarations : List Declaration} {resolution : Resolution}
    (hWellFormed : ∀ declaration ∈ declarations, declaration.WellFormed)
    (hOrdinal : ∀ opcode n, P (Naming.ordinalId opcode n))
    (hRandom : ∀ name : RandomName, P name.text)
    (h : resolveFrom position seen naming declarations = .ok resolution) {operation : Operation}
    (hMem : .operation operation ∈ resolution.blocks) :
    ∀ argument ∈ operation.arguments, P argument.id := by
  induction declarations generalizing position seen naming resolution with
  | nil =>
      cases h
      cases hMem
  | cons declaration rest ih =>
      have hRest : ∀ declaration ∈ rest, declaration.WellFormed := fun declaration hIn =>
        hWellFormed declaration (List.mem_cons_of_mem _ hIn)
      cases declaration with
      | separator =>
          rw [resolveFrom, map_eq_ok_iff] at h
          obtain ⟨more, hMore, rfl⟩ := h
          exact ih hRest hMore (List.mem_of_ne_of_mem (fun hSame => by cases hSame) hMem)
      | label text =>
          rw [resolveFrom, map_eq_ok_iff] at h
          obtain ⟨more, hMore, rfl⟩ := h
          exact ih hRest hMore (List.mem_of_ne_of_mem (fun hSame => by cases hSame) hMem)
      | operation declared =>
          obtain ⟨step⟩ := nonempty_operationStep h
          rw [step.resolution_eq] at hMem
          rcases List.mem_cons.1 hMem with hFirst | hMem
          · cases hFirst
            intro argument hArgument
            rw [step.arguments_eq (hWellFormed _ (List.mem_cons_self ..))] at hArgument
            exact Naming.forall_of_take (hOrdinal declared.opcode) hRandom step.taken _
              (id_mem_of_nameArguments hArgument)
          · exact ih hRest step.rest_resolved hMem

/-- What holds of all that a policy gives holds of the identifiers of a resolved palette. -/
theorem forall_id_of_resolve {naming : Naming} {declarations : List Declaration}
    {resolution : Resolution} (hWellFormed : ∀ declaration ∈ declarations, declaration.WellFormed)
    (hOrdinal : ∀ opcode n, P (Naming.ordinalId opcode n))
    (hRandom : ∀ name : RandomName, P name.text)
    (h : resolve naming declarations = .ok resolution) {operation : Operation}
    (hMem : .operation operation ∈ resolution.blocks) :
    ∀ argument ∈ operation.arguments, P argument.id :=
  forall_id_of_resolveFrom hWellFormed hOrdinal hRandom h hMem

end Resolution

/-! ## The names that a hook binds -/

namespace Patch

/-- The names that a hook binds: its parameters, and the block where a line names it. -/
def boundNames (target : HostObject) (hook : Hook) : List String :=
  "fn" :: target.parameter :: "args" ::
    if target = .scriptGenerator ∧ hook = .descendStackedBlock then ["block"] else []

/-- Of the hooks of the text step, only that for statements binds the block. -/
theorem block_mem_boundNames_iff (hook : Hook) :
    "block" ∈ boundNames .scriptGenerator hook ↔ hook = .descendStackedBlock := by
  cases hook <;> decide

private theorem isIdentifier_parameter (target : HostObject) : isIdentifier target.parameter := by
  cases target <;> decide

private theorem isIdentifier_method (hook : Hook) : isIdentifier hook.method := by
  cases hook <;> decide

private theorem reads_blockLine (target : HostObject) (hook : Hook) (indent : Nat) :
    Reads [.curly] [.curly] (.ofPlace .statement) (.ofPlace .statement)
      (blockLine target hook indent)
      (if target = .scriptGenerator ∧ hook = .descendStackedBlock then ["block"] else []) := by
  have hBlock : Reads [.curly] [.curly] (.ofPlace .statement) (.ofPlace .statement)
      "const block = node.block;\n" ["block"] :=
    reads_fixedName (by decide)
  unfold blockLine
  split
  · exact (reads_spaces indent _ .statement 0).append hBlock
  · exact reads_nil

/--
A hook binds its parameters, and the block where a line names it. Nothing behind that line
binds any name of the hook itself.
-/
theorem reads_renderMethod {table : Dispatch.Table} (h : Dispatch.AlikeTable table table)
    (target : HostObject) (indent : Nat) (hook : Hook) :
    Reads [] [] (.ofPlace .heading) (.ofPlace .finished) (renderMethod target indent hook table)
      (boundNames target hook) := by
  have hFn : Reads [] [.round] (.ofPlace .heading) (.ofPlace .parameters) "(fn, " ["fn"] :=
    reads_fixedName (by decide)
  have hArgs : Reads [.round] [.curly] (.ofPlace .parameters) (.ofPlace .statement)
      ", ...args) \x7b\n" ["args"] :=
    reads_fixedName (by decide)
  have hSwitch : Reads [.curly] [.round, .curly] (.ofPlace .statement) ⟨.phrase, 1, []⟩
      "switch (" [] := reads_fixed (by decide)
  have hCases : Reads [.round, .curly] [.curly, .curly] ⟨.phrase, 1, []⟩ ⟨.phrase, 1, []⟩
      ") \x7b\n" [] := reads_fixed (by decide)
  have hDefault : Reads [.curly, .curly] [.curly, .curly] ⟨.phrase, 1, []⟩ ⟨.phrase, 1, []⟩
      "  default:\n" [] := reads_fixed (by decide)
  have hCall : Reads [.curly, .curly] [.round, .curly, .curly] ⟨.phrase, 1, []⟩ ⟨.phrase, 2, []⟩
      "    return fn(" [] := reads_fixed (by decide)
  have hArguments : Reads [.round, .curly, .curly] [.curly, .curly] ⟨.phrase, 2, []⟩
      ⟨.phrase, 1, []⟩ ", ...args);\n" [] := reads_fixed (by decide)
  have hEndSwitch : Reads [.curly, .curly] [.curly] ⟨.phrase, 1, []⟩ (.ofPlace .statement)
      "\x7d\n" [] := reads_fixed (by decide)
  have hEnd : Reads [.curly] [] (.ofPlace .statement) (.ofPlace .finished) "\x7d,\n" [] :=
    reads_fixed (by decide)
  have hMethod : Reads [] [.round] (.ofPlace .heading) (.ofPlace .parameters)
      (hook.method ++ "(fn, ") ["fn"] :=
    hFn.word (isIdentifier_method hook) (Reader.finishWord_heading _) (String.toList_ofList ..)
      (by decide) (by decide)
  have hParameter : Reads [.round] [.curly] (.ofPlace .parameters) (.ofPlace .statement)
      (target.parameter ++ ", ...args) \x7b\n") [target.parameter, "args"] :=
    hArgs.name (isIdentifier_parameter target)
      (Reader.finishWord_name (isIdentifier_parameter target) fun _ _ => rfl)
      (String.toList_ofList ..) (by decide) (by decide)
  have hScrutinee := (alike_scrutinee target).hidden [.round, .curly] .phrase 0
  have hTable := (Dispatch.alike_renderTable h (indent + 6)).hidden [.curly, .curly] .phrase 0
  have hOwn := (alike_parameter target).hidden [.round, .curly, .curly] .phrase 1
  have hBlank := reads_spaces (indent + 4) [.curly, .curly] .phrase 1
  have hHead : Reads [] [.curly] (.ofPlace .heading) (.ofPlace .statement)
      (spaces (indent + 2) ++ (hook.method ++ "(fn, ") ++
        (target.parameter ++ ", ...args) \x7b\n") ++ blockLine target hook (indent + 4))
      (boundNames target hook) :=
    (((reads_spaces (indent + 2) _ .heading 0).append hMethod).append hParameter).append
      (reads_blockLine target hook (indent + 4))
  have hBegin :=
    (hHead.appendSilent (reads_spaces (indent + 4) _ .statement 0)).appendSilent hSwitch
  have hBody := ((hBegin.appendSilent hScrutinee).appendSilent hCases).appendSilent hTable
  have hOtherwise := ((((hBody.appendSilent hBlank).appendSilent hDefault).appendSilent
    hBlank).appendSilent hCall).appendSilent hOwn
  have hWhole := ((((hOtherwise.appendSilent hArguments).appendSilent hBlank).appendSilent
    hEndSwitch).appendSilent (reads_spaces (indent + 2) _ .statement 0)).appendSilent hEnd
  delta renderMethod
  simp only [String.append_assoc] at hWhole ⊢
  exact hWhole

end Patch

/-! ## Substitutions -/

namespace Script.Lexer

/--
The code of every substitution, in order; with `code`, from inside a substitution on
whose code that much is read already. A substitution that holds more than code is not
read.
-/
def substitutions : (code : Option (List Char)) → List Piece → Option (List (List Char))
  | none, [] => some []
  | none, .substitutes :: pieces => substitutions (some []) pieces
  | none, _ :: pieces => substitutions none pieces
  | some code, .code c :: pieces => substitutions (some (code ++ [c])) pieces
  | some code, .resumes :: pieces => (substitutions none pieces).map (code :: ·)
  | some _, _ => none

def substituted (text : String) : Option (List String) :=
  let lexed := run start text.toList
  if lexed.1 = start then (substitutions none lexed.2).map (·.map String.ofList) else none

private theorem substitutions_append {code : Option (List Char)} {front : List Piece}
    {codes : List (List Char)} (h : substitutions code front = some codes) (back : List Piece) :
    substitutions code (front ++ back) = (substitutions none back).map (codes ++ ·) := by
  fun_induction substitutions code front generalizing codes with
  | case1 =>
      cases h
      simp
  | case2 pieces ih => exact ih h
  | case3 piece pieces hOther ih =>
      rw [List.cons_append, substitutions]
      · exact ih h
      · exact hOther
  | case4 code c pieces ih => exact ih h
  | case5 code pieces ih =>
      obtain ⟨rest, hRest, rfl⟩ := Option.map_eq_some_iff.1 h
      rw [List.cons_append, substitutions, ih hRest, Option.map_map]
      rfl
  | case6 => cases h

/--
Pieces in whose substitutions all code is allowed. Text that looks like a substitution and
is escaped has no part in this.
-/
def Substitutes (allowed : String → Prop) (pieces : List Piece) : Prop :=
  ∃ codes : List String, substitutions none pieces = some (codes.map String.toList) ∧
    ∀ code ∈ codes, allowed code

/--
What may stand inside a template literal: nothing that opens or closes a bracket or a
literal, and only substitutions whose code is allowed.
-/
structure IsTemplate (allowed : String → Prop) (pieces : List Piece) : Prop where
  flat : ∀ piece ∈ pieces, (sign piece).isFlat
  substitutes : Substitutes allowed pieces

section Allowed

variable {allowed : String → Prop} {front back pieces : List Piece}

theorem Substitutes.append (hFront : Substitutes allowed front) (hBack : Substitutes allowed back) :
    Substitutes allowed (front ++ back) := by
  obtain ⟨codes, hCodes, hAllowed⟩ := hFront
  obtain ⟨more, hMore, hAllowedMore⟩ := hBack
  refine ⟨codes ++ more, ?_, ?_⟩
  · rw [substitutions_append hCodes, hMore, Option.map_some, List.map_append]
  · intro code hMem
    exact (List.mem_append.1 hMem).elim (hAllowed code) (hAllowedMore code)

/-- Pieces without a substitution. -/
theorem substitutes_of_forall_ne (h : ∀ piece ∈ pieces, piece ≠ .substitutes) :
    Substitutes allowed pieces := by
  refine ⟨[], ?_, fun _ hMem => by cases hMem⟩
  induction pieces with
  | nil => rfl
  | cons piece pieces ih =>
      have hRest := ih fun other hMem => h other (List.mem_cons_of_mem _ hMem)
      rw [substitutions]
      · exact hRest
      · exact h piece (List.mem_cons_self ..)

theorem substitutes_code (text : List Char) : Substitutes allowed (text.map .code) := by
  refine substitutes_of_forall_ne fun piece hMem => ?_
  obtain ⟨c, _, rfl⟩ := List.mem_map.1 hMem
  exact fun hSame => by cases hSame

theorem IsTemplate.append (hFront : IsTemplate allowed front) (hBack : IsTemplate allowed back) :
    IsTemplate allowed (front ++ back) where
  flat := fun piece hMem => (List.mem_append.1 hMem).elim (hFront.flat piece) (hBack.flat piece)
  substitutes := hFront.substitutes.append hBack.substitutes

theorem isTemplate_content (text : List Char) : IsTemplate allowed (text.map .content) := by
  refine ⟨fun piece hMem => ?_, substitutes_of_forall_ne fun piece hMem => ?_⟩
  · obtain ⟨c, _, rfl⟩ := List.mem_map.1 hMem
    rfl
  · obtain ⟨c, _, rfl⟩ := List.mem_map.1 hMem
    exact fun hSame => by cases hSame

/-- A substitution with allowed code. -/
theorem isTemplate_substitution {code : String} (hPlain : IsPlain code.toList) (h : allowed code) :
    IsTemplate allowed (.substitutes :: (code.toList.map .code ++ [.resumes])) := by
  have hRead : ∀ (text : List Char) (begun : List Char),
      substitutions (some begun) (text.map .code ++ [.resumes]) = some [begun ++ text] := by
    intro text
    induction text with
    | nil => simp [substitutions]
    | cons c text ih =>
        intro begun
        rw [List.map_cons, List.cons_append, substitutions, ih, List.append_assoc]
        rfl
  refine ⟨?_, [code], ?_, ?_⟩
  · intro piece hMem
    rcases List.mem_cons.1 hMem with rfl | hMem
    · rfl
    · rcases List.mem_append.1 hMem with hMem | hMem
      · obtain ⟨c, hChar, rfl⟩ := List.mem_map.1 hMem
        exact isFlat_sign_of_plain (hPlain c hChar)
      · rw [List.mem_singleton.1 hMem]
        rfl
  · rw [substitutions, hRead]
    rfl
  · intro found hMem
    rw [List.mem_singleton.1 hMem]
    exact h

/-- Segments whose identifiers are allowed. -/
theorem isTemplate_segments {segments : List CodeSegment}
    (h : ∀ id, .argument id ∈ segments → isIdentifier id ∧ allowed id) :
    IsTemplate allowed (segments.flatMap segmentPieces) := by
  induction segments with
  | nil => exact isTemplate_content []
  | cons segment segments ih =>
      rw [List.flatMap_cons]
      refine IsTemplate.append ?_ (ih fun id hMem => h id (List.mem_cons_of_mem _ hMem))
      cases segment with
      | literal text => exact isTemplate_content _
      | argument id =>
          obtain ⟨hId, hAllowed⟩ := h id (List.mem_cons_self ..)
          exact isTemplate_substitution (isPlain_of_isIdentifier hId) hAllowed

/-! ## Statements -/

/--
A text of complete statements, with the names that they declare, whose substitutions
only hold allowed code.
-/
def Scoped (allowed : String → Prop) (text : String) (names : List String) : Prop :=
  ∃ pieces, run start text.toList = (start, pieces) ∧
    readPieces (.ofPlace .statement) pieces = (.ofPlace .statement, names.map String.toList) ∧
    Substitutes allowed pieces

variable {text : String} {names more : List String}

theorem Scoped.append {other : String} (hFront : Scoped allowed text names)
    (hBack : Scoped allowed other more) : Scoped allowed (text ++ other) (names ++ more) := by
  obtain ⟨p, hP, hNames, hCodes⟩ := hFront
  obtain ⟨q, hQ, hMore, hMoreCodes⟩ := hBack
  refine ⟨p ++ q, ?_, ?_, hCodes.append hMoreCodes⟩
  · rw [String.toList_append, run_append, hP, hQ]
    rfl
  · rw [readPieces_append, hNames, hMore, List.map_append]

/-- Text that is nothing but code. -/
theorem scoped_code (hRun : run start text.toList = (start, text.toList.map .code))
    (h : Reads [] [] (.ofPlace .statement) (.ofPlace .statement) text names) :
    Scoped allowed text names := by
  obtain ⟨pieces, hFound, hNames⟩ := h
  rw [← start, hRun, Prod.mk.injEq] at hFound
  exact ⟨_, hRun, hFound.2 ▸ hNames, substitutes_code _⟩

/-- Texts one behind the other. -/
theorem scoped_join {α : Type} {items : List α} {text : α → String} {names : α → List String}
    (h : ∀ item ∈ items, Scoped allowed (text item) (names item)) :
    Scoped allowed (String.join (items.map text)) (items.flatMap names) := by
  induction items with
  | nil => exact ⟨[], rfl, rfl, substitutes_code []⟩
  | cons item items ih =>
      rw [List.map_cons, String.join_cons, List.flatMap_cons]
      exact (h item (List.mem_cons_self ..)).append
        (ih fun other hMem => h other (List.mem_cons_of_mem _ hMem))

/-- What a text of statements declares and refers to is read off it. -/
theorem Scoped.exists_codes (h : Scoped allowed text names) :
    blockNames text = some names ∧
      ∃ codes, substituted text = some codes ∧ ∀ code ∈ codes, allowed code := by
  obtain ⟨pieces, hRun, hNames, codes, hCodes, hAllowed⟩ := h
  have hReads : Reads [] [] (.ofPlace .statement) (.ofPlace .statement) text names :=
    ⟨pieces, hRun, hNames⟩
  refine ⟨hReads.namesBetween_eq, codes, ?_, hAllowed⟩
  rw [substituted, hRun, hCodes]
  simp [Function.comp_def]

end Allowed

end Script.Lexer

/-! ## The lines of a case -/

namespace Dispatch

variable {allowed : String → Prop}

/-- A binding line declares the identifier of its argument. -/
theorem reads_bindingLine {argument : Argument} (hId : isIdentifier argument.id)
    (hName : isIdentifier argument.name) :
    Reads [] [] (.ofPlace .statement) (.ofPlace .statement) (bindingLine argument)
      [argument.id] := by
  have hConst : Reads [] [] (.ofPlace .statement) (.ofPlace .binder) "const " [] :=
    reads_fixed (by decide)
  have hDescend : Reads [] [.round] (.ofPlace .bound) ⟨.bound, 1, []⟩
      " = this.descendInput(node?." [] := reads_fixed (by decide)
  have hClose : Reads [.round] [] ⟨.bound, 1, []⟩ (.ofPlace .bound) ")." [] :=
    reads_fixed (by decide)
  have hCall : Reads [] [] (.ofPlace .bound) (.ofPlace .statement) "();\n" [] :=
    reads_fixed (by decide)
  have hBinder : Reads [] [.round] (.ofPlace .binder) ⟨.bound, 1, []⟩
      (argument.id ++ " = this.descendInput(node?.") [argument.id] :=
    hDescend.name hId (Reader.finishWord_name hId fun _ _ => rfl) (String.toList_ofList ..)
      (by decide) (by decide)
  have hAccessor : Reads [] [] (.ofPlace .bound) (.ofPlace .statement)
      (argument.kind.accessor ++ "();\n") [] :=
    hCall.word (isIdentifier_accessor argument.kind) (Reader.finishWord_bound _)
      (String.toList_ofList ..) (by decide) (by decide)
  have hInput := Alike.hidden (alike_name hName) [.round] .bound 0
  have hWhole := (((hConst.append hBinder).appendSilent hInput).appendSilent hClose).appendSilent
    hAccessor
  delta bindingLine
  simp only [String.append_assoc] at hWhole ⊢
  exact hWhole

theorem scoped_bindingLine {argument : Argument} (hId : isIdentifier argument.id)
    (hName : isIdentifier argument.name) : Scoped allowed (bindingLine argument) [argument.id] :=
  scoped_code (run_bindingLine hId hName) (reads_bindingLine hId hName)

theorem scoped_spaces (n : Nat) : Scoped allowed (spaces n) [] :=
  scoped_code (run_plain (isPlain_spaces n) []) (reads_spaces n _ .statement 0)

/-- Inside a statement that declares nothing more, a literal is skipped. -/
private theorem readPieces_phraseLiteral {content : List Piece}
    (h : ∀ piece ∈ content, (sign piece).isFlat) (depth : Nat) (delimiter : Delimiter) :
    readPieces ⟨.phrase, depth, []⟩ (.opens delimiter :: (content ++ [.closes delimiter])) =
      (⟨.phrase, depth, []⟩, []) := by
  cases depth with
  | zero => exact readPieces_literal rfl h delimiter
  | succ depth =>
      have hNested : Nested 0 0 (.opens delimiter :: (content ++ [.closes delimiter])) :=
        .consOpens rfl ((Nested.all h).append (.closes rfl))
      exact hNested.readPieces_eq .phrase depth

/-- A line with a template literal declares nothing. -/
theorem scoped_templateLine {line : String} {front back : List Char} {content : List Piece}
    {depth : Nat}
    (hRun : run start (line.toList ++ ['\n']) = (start, linePieces front content back))
    (hFront : readPieces (.ofPlace .statement) (front.map .code) = (⟨.phrase, depth, []⟩, []))
    (hBack : readPieces ⟨.phrase, depth, []⟩ (back.map .code) = (.ofPlace .statement, []))
    (hContent : IsTemplate allowed content) : Scoped allowed (line ++ "\n") [] := by
  have hPieces : linePieces front content back =
      front.map .code ++ ((.opens .template :: (content ++ [.closes .template])) ++
        back.map .code) := by
    simp [linePieces]
  have hOpens : Substitutes allowed [.opens .template] :=
    substitutes_of_forall_ne fun piece hMem => by simp [List.mem_singleton.1 hMem]
  have hCloses : Substitutes allowed [.closes .template] :=
    substitutes_of_forall_ne fun piece hMem => by simp [List.mem_singleton.1 hMem]
  have hMarks : Substitutes allowed (.opens .template :: (content ++ [.closes .template])) :=
    hOpens.append (hContent.substitutes.append hCloses)
  refine ⟨linePieces front content back, ?_, ?_, ?_⟩
  · rw [String.toList_append]
    exact hRun
  · rw [hPieces, readPieces_append, hFront, readPieces_append,
      readPieces_phraseLiteral hContent.flat, hBack]
    rfl
  · rw [hPieces]
    exact (substitutes_code front).append (hMarks.append (substitutes_code back))

section Coded

variable {operation : Operation} {template : CodeTemplate}

/-- The identifiers in the code of an operation, where those of its arguments are allowed. -/
private theorem isTemplate_code (h : Coded operation template)
    (hAllowed : ∀ argument ∈ operation.arguments, allowed argument.id) :
    IsTemplate allowed (template.segments.flatMap segmentPieces) := by
  refine isTemplate_segments fun id hMem => ?_
  have hBound := h.bound id hMem
  refine ⟨isIdentifier_of_bound h hBound, ?_⟩
  obtain ⟨argument, hArgument, rfl⟩ := hBound
  exact hAllowed argument hArgument

private theorem isTemplate_report (h : Coded operation template)
    (hAllowed : ∀ argument ∈ operation.arguments, allowed argument.id) :
    IsTemplate allowed (reportPieces operation template) := by
  unfold reportPieces
  cases hReport : operation.report with
  | argument id =>
      have hBound := h.report_bound id hReport
      have hPlain := isPlain_of_isIdentifier (isIdentifier_of_bound h hBound)
      obtain ⟨argument, hArgument, rfl⟩ := hBound
      exact isTemplate_substitution hPlain (hAllowed argument hArgument)
  | expression =>
      exact (isTemplate_content ['(']).append ((isTemplate_code h hAllowed).append
        (isTemplate_content [')']))

/-- Where a statement stands, a template refers to identifiers of arguments and to the block. -/
private theorem isTemplate_statement (h : Coded operation template)
    (hAllowed : ∀ argument ∈ operation.arguments, allowed argument.id)
    (hBlock : allowed "block.id") :
    IsTemplate allowed (statementPieces operation template) := by
  unfold statementPieces
  split
  · exact (isTemplate_content ['\n']).append ((isTemplate_code h hAllowed).append
      (isTemplate_content [';', '\n']))
  · have hPlain : IsPlain "block.id".toList := by
      rw [String.toList_ofList]
      exact List.forall_iff_forall_mem.1 (by decide)
    have hCall : IsTemplate allowed reportCallPieces := by
      have hWhole := (isTemplate_content "\nvm.runtime.visualReport(\"".toList).append
        ((isTemplate_substitution hPlain hBlock).append (isTemplate_content "\", ".toList))
      delta reportCallPieces
      simpa only [List.cons_append, List.append_assoc, List.nil_append] using hWhole
    exact hCall.append ((isTemplate_report h hAllowed).append (isTemplate_content _))

end Coded

/-! ## Whole cases -/

/-- The lines of a case as they stand in a switch that is `indent` spaces deep. -/
def Case.text (case : Case) (indent : Nat) : String :=
  String.join (case.body.map (Table.renderLine indent))

private theorem renderLine_eq (indent : Nat) (line : String) :
    Table.renderLine indent line = spaces (indent + 2) ++ (line ++ "\n") :=
  String.append_assoc ..

/-- A case declares the identifiers of the arguments in front of its other lines. -/
private theorem scoped_bindings {operation : Operation} (h : Resolution.Named operation.arguments)
    {lines : List String} {indent : Nat}
    (hLines : ∀ line ∈ lines, Scoped allowed (line ++ "\n") []) :
    Scoped allowed (String.join ((bindings operation ++ lines).map (Table.renderLine indent)))
      (operation.arguments.map (·.id)) := by
  have hBindings : (bindings operation).map (Table.renderLine indent) =
      operation.arguments.map fun argument => spaces (indent + 2) ++ bindingLine argument := by
    have hEnds := congrArg (List.map (spaces (indent + 2) ++ ·)) (bindings_lineEnd operation)
    rw [List.map_map, List.map_map] at hEnds
    exact (List.map_congr_left fun line _ => renderLine_eq indent line).trans hEnds
  have hFront : Scoped allowed
      (String.join ((bindings operation).map (Table.renderLine indent)))
      (operation.arguments.flatMap fun argument => [argument.id]) := by
    rw [hBindings]
    refine scoped_join fun argument hMem => ?_
    exact (scoped_spaces (indent + 2)).append (scoped_bindingLine
      (h.isIdentifier_id argument hMem) (h.wellFormed argument hMem).name_isIdentifier)
  have hBack : Scoped allowed (String.join (lines.map (Table.renderLine indent)))
      (lines.flatMap fun _ => []) := by
    refine scoped_join fun line hMem => ?_
    rw [renderLine_eq]
    exact (scoped_spaces (indent + 2)).append (hLines line hMem)
  have hNames : (operation.arguments.flatMap fun argument => [argument.id]) ++
      (lines.flatMap fun _ => ([] : List String)) = operation.arguments.map (·.id) := by
    simp [List.map_eq_flatMap]
  have hWhole := hFront.append hBack
  rwa [← String.join_append, ← List.map_append, hNames] at hWhole

section Coded

variable {operation : Operation} {template : CodeTemplate}

/-- Where a value stands, a case refers to the identifiers that it declares. -/
theorem scoped_expressionBody (h : Coded operation template)
    (hAllowed : ∀ argument ∈ operation.arguments, allowed argument.id) (indent : Nat) :
    Scoped allowed (String.join ((expressionBody operation).map (Table.renderLine indent)))
      (operation.arguments.map (·.id)) := by
  have hFront : readPieces (.ofPlace .statement) (valueFront.toList.map .code) =
      (⟨.phrase, 1, []⟩, []) := by
    delta valueFront
    rw [String.toList_ofList]
    decide
  have hBack : readPieces ⟨.phrase, 1, []⟩ (((valueBack operation).toList ++ ['\n']).map .code) =
      (.ofPlace .statement, []) := by
    delta valueBack
    generalize operation.returns = returns
    rw [String.toList_append, String.toList_append]
    rcases returns with _ | _ | _ | _ <;> decide
  have hLine := scoped_templateLine (run_expressionLine h) hFront hBack
    (isTemplate_code h hAllowed)
  rw [expressionBody_eq]
  refine scoped_bindings h.named fun line hMem => ?_
  rw [List.mem_singleton.1 hMem]
  exact hLine

/-- Where a statement stands, a case also refers to the id of the block. -/
theorem scoped_statementBody (h : Coded operation template)
    (hAllowed : ∀ argument ∈ operation.arguments, allowed argument.id)
    (hBlock : allowed "block.id") (indent : Nat) :
    Scoped allowed (String.join ((statementBody operation).map (Table.renderLine indent)))
      (operation.arguments.map (·.id)) := by
  have hFront : readPieces (.ofPlace .statement) (statementFront.toList.map .code) =
      (⟨.phrase, 0, []⟩, []) := by
    delta statementFront
    rw [String.toList_ofList]
    decide
  have hBack : readPieces ⟨.phrase, 0, []⟩ ((";".toList ++ ['\n']).map .code) =
      (.ofPlace .statement, []) := by
    rw [String.toList_ofList]
    decide
  have hLine := scoped_templateLine (run_statementLine h) hFront hBack
    (isTemplate_statement h hAllowed hBlock)
  have hReturn : Scoped allowed ("return;" ++ "\n") [] := by
    have hReads : Reads [] [] (.ofPlace .statement) (.ofPlace .statement) "return;" [] :=
      reads_fixed (by decide)
    refine scoped_code ?_ (hReads.append (reads_feed .statement 0))
    rw [String.toList_append]
    repeat rw [String.toList_ofList]
    decide
  rw [statementBody_eq]
  refine scoped_bindings h.named fun line hMem => ?_
  rcases List.mem_cons.1 hMem with rfl | hMem
  · exact hLine
  · rw [List.mem_singleton.1 hMem]
    exact hReturn

end Coded

/-! ## Well-scoped cases -/

/-- The names that a text case and the hook around it refer to. -/
def referredNames : List String :=
  ["node", "block", "fn", "args", "TypedInput", "TYPE_STRING", "TYPE_BOOLEAN", "TYPE_NUMBER",
    "TYPE_UNKNOWN"]

/--
Statements that are well scoped where the names `outer` are bound: what they declare can
be declared and hides nothing that is referred to, and every substitution holds one of
the declared names, or the id of the block where that is bound.
-/
def WellScoped (outer : List String) (text : String) : Prop :=
  ∃ names codes, blockNames text = some names ∧ substituted text = some codes ∧
    Declarable names ∧ (∀ name ∈ names, name ∉ referredNames) ∧
    ∀ code ∈ codes, code ∈ names ∨ code = "block.id" ∧ "block" ∈ outer

/-- No word of the language and no name that is referred to looks like a generated one. -/
private theorem looksGenerated_eq_false :
    ∀ word ∈ reservedWords ++ referredNames, Naming.looksGenerated word.toList = false := by
  decide

/-- Statements that declare identifiers of arguments are well scoped. -/
private theorem wellScoped_of_scoped {arguments : List Argument} {outer : List String}
    {text : String} (hNamed : Resolution.Named arguments)
    (hGenerated : ∀ argument ∈ arguments, Naming.looksGenerated argument.id.toList)
    (h : Scoped (fun code => code ∈ arguments.map (·.id) ∨ code = "block.id" ∧ "block" ∈ outer)
      text (arguments.map (·.id))) : WellScoped outer text := by
  have hNew : ∀ name ∈ arguments.map (·.id), name ∉ reservedWords ++ referredNames := by
    intro name hMem hWord
    obtain ⟨argument, hArgument, rfl⟩ := List.mem_map.1 hMem
    have hLooks := hGenerated argument hArgument
    rw [looksGenerated_eq_false _ hWord] at hLooks
    cases hLooks
  obtain ⟨hNames, codes, hCodes, hAllowed⟩ := h.exists_codes
  refine ⟨_, codes, hNames, hCodes, ⟨hNamed.ids_nodup, ?_⟩, ?_, hAllowed⟩
  · intro name hMem
    obtain ⟨argument, hArgument, rfl⟩ := List.mem_map.1 hMem
    exact ⟨hNamed.isIdentifier_id argument hArgument,
      fun hWord => hNew _ hMem (List.mem_append_left _ hWord)⟩
  · exact fun name hMem hWord => hNew name hMem (List.mem_append_right _ hWord)

section Resolved

variable {naming : Naming} {declarations : List Declaration} {resolution : Resolution}
  {operation : Operation}

/-- An operation that emits code has code, and identifiers that look generated. -/
private theorem exists_coded_of_emitting
    (hWellFormed : ∀ declaration ∈ declarations, declaration.WellFormed)
    (hResolve : resolve naming declarations = .ok resolution)
    (hMem : operation ∈ Block.emitting resolution.blocks) :
    (∃ template, Coded operation template) ∧
      ∀ argument ∈ operation.arguments, Naming.looksGenerated argument.id.toList := by
  obtain ⟨hIn, hEmits⟩ := Block.mem_emitting.1 hMem
  obtain ⟨declared, hDeclared, hOperation⟩ :=
    Resolution.exists_declared (Resolution.forall₂_resolves hWellFormed hResolve) hIn
  obtain ⟨code, hCode⟩ :=
    (Resolution.emitsCode_iff (hWellFormed _ hDeclared) hOperation).1 hEmits
  exact ⟨⟨_, coded_of_resolves hOperation hCode⟩,
    Resolution.forall_id_of_resolve (P := fun id => Naming.looksGenerated id.toList) hWellFormed
      Naming.looksGenerated_ordinalId Naming.looksGenerated_text hResolve hIn⟩

/-- A case for statements is well scoped where the block is bound. -/
theorem wellScoped_statementBody
    (hWellFormed : ∀ declaration ∈ declarations, declaration.WellFormed)
    (hResolve : resolve naming declarations = .ok resolution)
    (hMem : operation ∈ Block.emitting resolution.blocks) {outer : List String}
    (hBlock : "block" ∈ outer) (indent : Nat) :
    WellScoped outer (String.join ((statementBody operation).map (Table.renderLine indent))) := by
  obtain ⟨⟨template, hCoded⟩, hGenerated⟩ := exists_coded_of_emitting hWellFormed hResolve hMem
  refine wellScoped_of_scoped hCoded.named hGenerated (scoped_statementBody hCoded ?_ ?_ indent)
  · exact fun argument hArgument => .inl (List.mem_map_of_mem hArgument)
  · exact .inr ⟨rfl, hBlock⟩

/-- A case for values is well scoped anywhere. -/
theorem wellScoped_expressionBody
    (hWellFormed : ∀ declaration ∈ declarations, declaration.WellFormed)
    (hResolve : resolve naming declarations = .ok resolution)
    (hMem : operation ∈ Block.emitting resolution.blocks) (outer : List String) (indent : Nat) :
    WellScoped outer (String.join ((expressionBody operation).map (Table.renderLine indent))) := by
  obtain ⟨⟨template, hCoded⟩, hGenerated⟩ := exists_coded_of_emitting hWellFormed hResolve hMem
  refine wellScoped_of_scoped hCoded.named hGenerated (scoped_expressionBody hCoded ?_ indent)
  exact fun argument hArgument => .inl (List.mem_map_of_mem hArgument)

end Resolved

end Dispatch

open BlockExtension.Dispatch (WellScoped)

/--
Whatever declarations were accepted and whatever names were given, the text step has
one hook for statements and one for values, and every case is well scoped in its hook.
Only the hook for statements binds the block.
-/
theorem textCases_wellScoped {naming : Naming} {declarations : List Declaration}
    {resolution : Resolution}
    (hRead : ∀ declaration ∈ declarations, ∃ index entry,
      Declaration.ofJson index entry = .ok declaration)
    (hResolve : resolve naming declarations = .ok resolution) (extension : Extension)
    (indent : Nat) :
    let tables := Dispatch.tables extension resolution.blocks
    (Patch.ofTextTables tables).replacements =
        [(.descendStackedBlock, tables.statement), (.descendInput, tables.expression)] ∧
      ∀ replacement ∈ (Patch.ofTextTables tables).replacements,
        functionNames
            (Patch.renderMethod .scriptGenerator indent replacement.1 replacement.2) =
          some (Patch.boundNames .scriptGenerator replacement.1) ∧
        ∀ case ∈ replacement.2.cases,
          WellScoped (Patch.boundNames .scriptGenerator replacement.1)
            (case.text (indent + 6)) := by
  have hWellFormed : ∀ declaration ∈ declarations, declaration.WellFormed := by
    intro declaration hMem
    obtain ⟨index, entry, hEntry⟩ := hRead declaration hMem
    exact Declaration.wellFormed_of_ofJson hEntry
  have hTables : Dispatch.AlikeTables (Dispatch.tables extension resolution.blocks)
      (Dispatch.tables extension resolution.blocks) :=
    Dispatch.alike_tables rfl (Resolution.forall₂_sameButText_self hWellFormed hResolve)
  refine ⟨rfl, fun replacement hMem => ?_⟩
  rcases List.mem_cons.1 hMem with rfl | hMem
  · refine ⟨(Patch.reads_renderMethod hTables.statement _ indent _).namesBetween_eq, ?_⟩
    intro case hCase
    obtain ⟨operation, hEmitting, rfl⟩ := List.mem_map.1 hCase
    exact Dispatch.wellScoped_statementBody hWellFormed hResolve hEmitting
      ((Patch.block_mem_boundNames_iff _).2 rfl) _
  · rw [List.mem_singleton.1 hMem]
    refine ⟨(Patch.reads_renderMethod hTables.expression _ indent _).namesBetween_eq, ?_⟩
    intro case hCase
    obtain ⟨operation, hEmitting, rfl⟩ := List.mem_map.1 hCase
    exact Dispatch.wellScoped_expressionBody hWellFormed hResolve hEmitting _ _

/-- A block that shows its argument, with code that looks like a substitution, and a draw. -/
theorem textCases_wellScoped_draw :
    ∃ resolution,
      resolve (.random [] [.ofFn fun _ => 0])
        [.operation ⟨"run", .reporter, "run [x]", some "$\x7bnode\x7d[x]", none, false, none,
          [⟨"x", .string, none⟩]⟩] = .ok resolution ∧
      (∀ case ∈ (Dispatch.statementTable ⟨"ext", "ext", none, none⟩ resolution.blocks).cases,
        WellScoped ["fn", "node", "args", "block"] (case.text 8)) ∧
      ∀ case ∈ (Dispatch.expressionTable ⟨"ext", "ext", none, none⟩ resolution.blocks).cases,
        WellScoped ["fn", "node", "args"] (case.text 8) := by
  have hResolve : resolve (.random [] [.ofFn fun _ => 0])
      [.operation ⟨"run", .reporter, "run [x]", some "$\x7bnode\x7d[x]", none, false, none,
        [⟨"x", .string, none⟩]⟩] =
      .ok ⟨[.operation ⟨"run", .reporter, "run [x]",
        some ⟨[.literal "$\x7bnode\x7d", .argument "AAAAAAAAAAA"]⟩, none, false,
        .argument "AAAAAAAAAAA", [⟨"x", .string, "AAAAAAAAAAA", none⟩]⟩], []⟩ := by cbv
  have hCases := textCases_wellScoped ?_ hResolve ⟨"ext", "ext", none, none⟩ 2
  · refine ⟨_, hResolve, ?_, ?_⟩
    · exact (hCases.2 _ (List.mem_cons_self ..)).2
    · exact (hCases.2 _ (List.mem_cons_of_mem _ (List.mem_cons_self ..))).2
  · intro declaration hMem
    rw [List.mem_singleton.1 hMem]
    exact ⟨0, .object [("opcode", .string "run"), ("blockType", .string "REPORTER"),
      ("text", .string "run [x]"), ("code", .string "$\x7bnode\x7d[x]"),
      ("arguments", .object [("x", .object [("type", .string "STRING")])])], by rfl⟩

end BlockExtension
