import BlockExtension.Proofs.FreeText

/-!
# The dispatch tables and free text

The cases of a table are code, so free text must not reach them but for the literal
code of operations, which stands in template literals, and for keys, which are
quoted. What is left of a template literal once its contents are erased are the
substitutions, and these depend on the placeholders alone. A tree case has no free
text in it at all.

## Main results

* `alike_statementBody`, `alike_expressionBody`, `alike_nodeBody`: the cases of
  operations that differ in free text are read alike.
* `alike_tables`: and so are the tables.
-/

namespace BlockExtension.Dispatch

open BlockExtension.Script (quote spaces isIdentifier)
open BlockExtension.Script.Lexer

/-! ## What is left of a template literal -/

private theorem erase_code (text : List Char) : erase (text.map .code) = text.map .code := by
  induction text with
  | nil => rfl
  | cons c text ih => rw [List.map_cons, erase_cons_of_isKept rfl, ih]

/-- A line keeps everything but the content of its template literal. -/
theorem erase_linePieces (front : List Char) (content : List Piece) (back : List Char) :
    erase (linePieces front content back) = linePieces front (erase content) back := by
  rw [linePieces, erase_append, erase_code, erase_cons_of_isKept rfl, erase_append,
    erase_cons_of_isKept rfl, erase_code]
  rfl

private theorem erase_substitution (id : String) :
    erase (segmentPieces (.argument id)) = segmentPieces (.argument id) := by
  rw [segmentPieces, erase_cons_of_isKept rfl, erase_append, erase_code]
  rfl

/-- What is left of literal code with substitutions in it are the substitutions. -/
theorem erase_segments (template : CodeTemplate) :
    erase (template.segments.flatMap segmentPieces) =
      template.ids.flatMap fun id => segmentPieces (.argument id) := by
  unfold CodeTemplate.ids
  induction template.segments with
  | nil => rfl
  | cons segment segments ih =>
      rw [List.flatMap_cons, erase_append, ih]
      cases segment with
      | literal text =>
          rw [segmentPieces, erase_content]
          rfl
      | argument id =>
          rw [erase_substitution]
          rfl

/-! ## Operations with code -/

/--
Operations with code that differ in free text. Their substitutions stand for the same
identifiers, in the same order.
-/
structure CodedPair (a b : Operation) (s t : CodeTemplate) : Prop where
  same : a.SameButText b
  left : Coded a s
  right : Coded b t
  ids_eq : s.ids = t.ids

theorem exists_codedPair {a b : Operation} (h : a.SameButText b) (hEmits : a.emitsCode) :
    ∃ s t, CodedPair a b s t := by
  have hCode := h.code_same
  cases hLeft : a.code with
  | none => simp [Operation.emitsCode, hLeft] at hEmits
  | some s =>
      rw [hLeft] at hCode
      cases hRight : b.code with
      | none =>
          rw [hRight] at hCode
          cases hCode
      | some t =>
          rw [hRight] at hCode
          cases hCode with
          | some hIds =>
              exact ⟨s, t, h, h.sound_left.coded s hLeft, h.sound_right.coded t hRight, hIds⟩

section CodedPair

variable {a b : Operation} {s t : CodeTemplate}

private theorem CodedPair.erase_code_eq (h : CodedPair a b s t) :
    erase (s.segments.flatMap segmentPieces) = erase (t.segments.flatMap segmentPieces) := by
  rw [erase_segments, erase_segments, h.ids_eq]

private theorem CodedPair.erase_reportPieces_eq (h : CodedPair a b s t) :
    erase (reportPieces a s) = erase (reportPieces b t) := by
  unfold reportPieces
  rw [h.same.report_eq]
  cases b.report with
  | argument id => rfl
  | expression =>
      dsimp only
      rw [erase_cons_content, erase_cons_content, erase_append, erase_append, h.erase_code_eq]

private theorem CodedPair.erase_statementPieces_eq (h : CodedPair a b s t) :
    erase (statementPieces a s) = erase (statementPieces b t) := by
  unfold statementPieces
  rw [h.same.shape_eq]
  split
  · rw [erase_cons_content, erase_cons_content, erase_append, erase_append, h.erase_code_eq]
  · rw [erase_append, erase_append, erase_append, erase_append, h.erase_reportPieces_eq]

end CodedPair

/-! ## Cases -/

def AlikeCase (a b : Case) : Prop :=
  AlikeAll [] [] (a.body.map (· ++ "\n")) (b.body.map (· ++ "\n"))

/-- Two lines with a template literal each, of which only the contents differ. -/
private theorem alike_templateLine {line other : String} {front back : List Char}
    {p q : List Piece}
    (hLine : run start (line.toList ++ ['\n']) = (start, linePieces front p back))
    (hOther : run start (other.toList ++ ['\n']) = (start, linePieces front q back))
    (hErase : erase p = erase q) : Alike [] [] (line ++ "\n") (other ++ "\n") := by
  have hEnd : ∀ text : String, (text ++ "\n").toList = text.toList ++ ['\n'] := fun text =>
    String.toList_append ..
  refine ⟨linePieces front p back, linePieces front q back, ?_, ?_, ?_⟩
  · rw [hEnd]
    exact hLine
  · rw [hEnd]
    exact hOther
  · rw [erase_linePieces, erase_linePieces, hErase]

/-- What arguments are emitted to without their default values is the same. -/
private theorem map_arguments_eq {α : Type} {f : Argument → α} {arguments others : List Argument}
    (hf : ∀ argument other, argument.SameButText other → f argument = f other)
    (h : List.Forall₂ Argument.SameButText arguments others) : arguments.map f = others.map f := by
  induction h with
  | nil => rfl
  | cons hFirst _ ih => rw [List.map_cons, List.map_cons, hf _ _ hFirst, ih]

section Bodies

variable {a b : Operation}

/-- The lines that bind inputs are the same. -/
private theorem alike_bindings (h : a.SameButText b) :
    AlikeAll [] [] ((bindings a).map (· ++ "\n")) ((bindings b).map (· ++ "\n")) := by
  have hSame : a.arguments.map bindingLine = b.arguments.map bindingLine := by
    refine map_arguments_eq ?_ h.arguments_same
    intro argument other hArgument
    delta bindingLine
    rw [hArgument.id_eq, hArgument.name_eq, hArgument.kind_eq]
  rw [bindings_lineEnd, bindings_lineEnd, ← hSame]
  refine .of_forall₂ (List.forall₂_same.2 ?_)
  intro line hMem
  obtain ⟨argument, hArgument, rfl⟩ := List.mem_map.1 hMem
  have hNamed := h.sound_left.named
  exact alike_of_run (run_bindingLine (hNamed.isIdentifier_id argument hArgument)
    (hNamed.wellFormed argument hArgument).name_isIdentifier)

/-- Where a statement stands, cases are read alike. -/
theorem alike_statementBody (h : a.SameButText b) (hEmits : a.emitsCode) :
    AlikeAll [] [] ((statementBody a).map (· ++ "\n")) ((statementBody b).map (· ++ "\n")) := by
  obtain ⟨s, t, hPair⟩ := exists_codedPair h hEmits
  have hLine := alike_templateLine (run_statementLine hPair.left) (run_statementLine hPair.right)
    hPair.erase_statementPieces_eq
  have hReturn : Alike [] [] "return;" "return;" := alike_fixed (by decide)
  have hFeed : Alike [] [] "\n" "\n" := alike_fixed (by decide)
  rw [statementBody_eq, statementBody_eq, List.map_append, List.map_append]
  exact (alike_bindings h).append (.cons hLine (.single (hReturn.append hFeed)))

/-- Where a value stands, cases are read alike. -/
theorem alike_expressionBody (h : a.SameButText b) (hEmits : a.emitsCode) :
    AlikeAll [] [] ((expressionBody a).map (· ++ "\n")) ((expressionBody b).map (· ++ "\n")) := by
  obtain ⟨s, t, hPair⟩ := exists_codedPair h hEmits
  have hBack : valueBack b = valueBack a := by
    delta valueBack
    rw [h.returns_eq]
  have hRight := run_expressionLine hPair.right
  rw [hBack] at hRight
  have hLine := alike_templateLine (run_expressionLine hPair.left) hRight hPair.erase_code_eq
  rw [expressionBody_eq, expressionBody_eq, List.map_append, List.map_append]
  exact (alike_bindings h).append (.single hLine)

private theorem nodeBody_eq {extension other : Extension} (hId : extension.id = other.id)
    (h : a.SameButText b) (kinds : KeyStyle) :
    nodeBody extension kinds a = nodeBody other kinds b := by
  delta nodeBody
  rw [hId, h.opcode_eq, map_arguments_eq ?_ h.arguments_same]
  intro argument other hArgument
  rw [hArgument.name_eq]

/-- In the tree step there is no free text at all. -/
theorem alike_nodeBody {extension other : Extension} (hId : extension.id = other.id)
    (h : a.SameButText b) (kinds : KeyStyle) :
    AlikeAll [] [] ((nodeBody extension kinds a).map (· ++ "\n"))
      ((nodeBody other kinds b).map (· ++ "\n")) := by
  have hReturn : Alike [] [.curly] "return \x7b" "return \x7b" := alike_fixed (by decide)
  have hBlock : Alike [.curly] [.curly] "  block," "  block," := alike_fixed (by decide)
  have hKind : Alike [.curly] [.curly] "  kind: " "  kind: " := alike_fixed (by decide)
  have hComma : Alike [.curly] [.curly] "," "," := alike_fixed (by decide)
  have hBlank : Alike [.curly] [.curly] "  " "  " := alike_fixed (by decide)
  have hCall : Alike [.curly] [.round, .curly] ": this.descendInputOfBlock(block, "
      ": this.descendInputOfBlock(block, " := alike_fixed (by decide)
  have hClose : Alike [.round, .curly] [.curly] ")," ")," := alike_fixed (by decide)
  have hEnd : Alike [.curly] [] "\x7d;" "\x7d;" := alike_fixed (by decide)
  have hFeed : Alike [] [] "\n" "\n" := alike_fixed (by decide)
  rw [← nodeBody_eq hId h kinds]
  refine AlikeAll.map (fun hText => hText.append hFeed.anywhere) ?_
  refine .append (.append (.cons hReturn (.cons hBlock (.single ?_))) (.of_forall₂ ?_))
    (.single hEnd)
  · exact (hKind.append alike_quote).append hComma
  · rw [List.forall₂_map_left_iff, List.forall₂_map_right_iff, List.forall₂_same]
    intro argument hMem
    have hName : Alike [.curly] [.curly] argument.name argument.name :=
      alike_name (h.sound_left.named.wellFormed argument hMem).name_isIdentifier
    exact (((hBlank.append hName).append hCall).append alike_quote).append hClose

end Bodies

/-! ## Tables -/

/-- Indented, the lines of cases that are read alike still are. -/
theorem alike_renderLines {a b : Case} (h : AlikeCase a b) (indent : Nat) :
    AlikeAll [] [] (a.body.map (Table.renderLine indent))
      (b.body.map (Table.renderLine indent)) := by
  have hIndented := AlikeAll.map
    (f := (spaces (indent + 2) ++ ·)) (g := (spaces (indent + 2) ++ ·))
    (fun hText => (alike_spaces _).append hText) h
  simp only [List.map_map, Function.comp_def, ← String.append_assoc] at hIndented
  exact hIndented

/-- Cases that are read alike are rendered to texts that are. -/
theorem alike_renderCase {a b : Case} (h : AlikeCase a b) (indent : Nat) :
    Alike [] [] (Table.renderCase indent a) (Table.renderCase indent b) := by
  have hCase : Alike [] [] "case " "case " := alike_fixed (by decide)
  have hOpening : Alike [] [.curly] ": \x7b\n" ": \x7b\n" := alike_fixed (by decide)
  have hClosing : Alike [.curly] [] "\x7d\n" "\x7d\n" := alike_fixed (by decide)
  exact ((((((alike_spaces indent).append hCase).append alike_quote).append hOpening).append
    ((alike_renderLines h indent).inside [.curly]).join).append (alike_spaces indent)).append
      hClosing

def AlikeTable (a b : Table) : Prop := List.Forall₂ AlikeCase a.cases b.cases

/-- Tables that are read alike are rendered to texts that are. -/
theorem alike_renderTable {a b : Table} (h : AlikeTable a b) (indent : Nat) :
    Alike [] [] (a.render indent) (b.render indent) := by
  refine AlikeAll.join (.of_forall₂ ?_)
  rw [List.forall₂_map_left_iff, List.forall₂_map_right_iff]
  exact h.imp fun _ _ hCase => alike_renderCase hCase indent

/-- The operations that emit code correspond one by one. -/
theorem forall₂_emitting {blocks others : List Block}
    (h : List.Forall₂ Block.SameButText blocks others) :
    List.Forall₂ (fun a b => Operation.emitsCode a ∧ a.SameButText b)
      (Block.emitting blocks) (Block.emitting others) := by
  have hOperations : List.Forall₂ Operation.SameButText (blocks.filterMap Block.operation?)
      (others.filterMap Block.operation?) := by
    refine List.rel_filterMap ?_ h
    intro block other hBlock
    cases hBlock with
    | separator => exact .none
    | label _ _ => exact .none
    | operation hOperation => exact .some hOperation
  have hEmitting : List.Forall₂ Operation.SameButText (Block.emitting blocks)
      (Block.emitting others) := by
    refine List.rel_filter ?_ hOperations
    intro a b hOperation
    exact Eq.congr_left hOperation.emitsCode_eq
  exact (List.forall₂_and_left ..).2 ⟨fun _ hMem => (Block.mem_emitting.1 hMem).2, hEmitting⟩

private theorem alike_cases {extension other : Extension} {blocks others : List Block}
    {body otherBody : Operation → List String} (h : List.Forall₂ Block.SameButText blocks others)
    (hBody : ∀ a b, a.emitsCode → a.SameButText b →
      AlikeAll [] [] ((body a).map (· ++ "\n")) ((otherBody b).map (· ++ "\n")))
    (style : KeyStyle) :
    List.Forall₂ AlikeCase ((Block.emitting blocks).map (caseOf extension style body))
      ((Block.emitting others).map (caseOf other style otherBody)) := by
  rw [List.forall₂_map_left_iff, List.forall₂_map_right_iff]
  exact (forall₂_emitting h).imp fun a b hPair => hBody a b hPair.1 hPair.2

/-- Four tables that are read like four others. -/
structure AlikeTables (a b : Tables) : Prop where
  statement : AlikeTable a.statement b.statement
  expression : AlikeTable a.expression b.expression
  treeBuild : AlikeTable a.treeBuild b.treeBuild
  treeInput : AlikeTable a.treeInput b.treeInput

/-- The tables of palettes that differ in free text are read alike. -/
theorem alike_tables {extension other : Extension} {blocks others : List Block}
    (hId : extension.id = other.id) (h : List.Forall₂ Block.SameButText blocks others) :
    AlikeTables (tables extension blocks) (tables other others) where
  statement := alike_cases h (fun _ _ hEmits hSame => alike_statementBody hSame hEmits) .dotted
  expression := alike_cases h (fun _ _ hEmits hSame => alike_expressionBody hSame hEmits) .dotted
  treeBuild := alike_cases h (fun _ _ _ hSame => alike_nodeBody hId hSame .dotted) .underscored
  treeInput := alike_cases h (fun _ _ _ hSame => alike_nodeBody hId hSame .dotted) .underscored

end BlockExtension.Dispatch
