import BlockExtension.Proofs.Dispatch
import BlockExtension.Proofs.Script.Reading

/-!
# What a text case says

A text case has three parts. Lines of their own bind the inputs of the block to
the identifiers of its arguments; a template literal with these identifiers in
its substitutions makes the text; and the rest of the line puts that text to use.
This file reads the emitted cases back in this way and evaluates the template
literal, given what the inputs and the block's id are.

Nothing here looks at a declaration: the case of a resolved operation evaluates
to its code segment by segment. What that has to do with the code that was
declared is the subject of `CodeFidelity`.

## Main results

* `readBinding_line`: a binding line is read as the argument it was emitted for.
* `run_expressionLine`, `run_statementLine`: what the line with the template
  literal is read as.
* `evaluates_expressionBody`, `evaluates_statementBody`: what the cases bind and
  evaluate to.
-/

namespace BlockExtension.Dispatch

open BlockExtension.Script (isIdentifier isIdentifierPart isIdentifierText)
open BlockExtension.Script.Lexer
open BlockExtension.Resolution (Named)

/-! ## Reading a case -/

/-- A line that binds the input of a block to an identifier. -/
structure Binding where
  /-- The identifier. -/
  id : String
  /-- The property of the node that the input is found under. -/
  name : String
  /-- The method that turns the input into text. -/
  accessor : String
  deriving DecidableEq, Repr

/-- The binding that a line says. A line that is one character off says none. -/
def readBinding (line : List Piece) : Option Binding := do
  let rest ← skip "const ".toList line
  let id := takeName rest
  let rest ← skip " = this.descendInput(node?.".toList id.2
  let name := takeName rest
  let rest ← skip ").".toList name.2
  let accessor := takeName rest
  let rest ← skip "();\n".toList accessor.2
  if rest = [] then
    some ⟨String.ofList id.1, String.ofList name.1, String.ofList accessor.1⟩
  else none

/-- The bindings that a case begins with, and the lines behind them. -/
def readBindings : List (List Piece) → List Binding × List (List Piece)
  | [] => ([], [])
  | line :: lines =>
      match readBinding line with
      | some binding => (binding :: (readBindings lines).1, (readBindings lines).2)
      | none => ([], line :: lines)

/--
What code in a substitution evaluates to: the id of the block, or the input of
the argument that an identifier is bound to.
-/
def environment (bindings : List Binding) (input : String → List Char) (blockId : List Char)
    (code : List Char) : Option (List Char) :=
  if code = "block.id".toList then some blockId
  else (bindings.find? (·.id.toList = code)).map fun binding => input binding.name

/-- What stands behind the opening mark of the first template literal. -/
def behindTemplateMark (pieces : List Piece) : List Piece :=
  (pieces.dropWhile (· ≠ .opens .template)).tail

/-- A text case: its bindings, and the pieces behind the opening mark of its template literal. -/
structure TextCase where
  bindings : List Binding
  template : List Piece
  deriving DecidableEq, Repr

def readTextCase (body : List String) : Option TextCase :=
  (readLines body).map fun lines =>
    ⟨(readBindings lines).1, behindTemplateMark (readBindings lines).2.flatten⟩

/-- What the template literal of a text case evaluates to, given the inputs by argument name. -/
def caseValue (body : List String) (input : String → List Char) (blockId : List Char) :
    Option (List Char) :=
  (readTextCase body).bind fun found =>
    templateValue (environment found.bindings input blockId) none found.template

/-! ## Binding lines -/

def bindingOf (argument : Argument) : Binding :=
  ⟨argument.id, argument.name, argument.kind.accessor⟩

def bindingLine (argument : Argument) : String :=
  "const " ++ argument.id ++ " = this.descendInput(node?." ++ argument.name ++ ")." ++
    argument.kind.accessor ++ "();\n"

private theorem toList_bindingLine (argument : Argument) :
    (bindingLine argument).toList =
      "const ".toList ++ (argument.id.toList ++ (" = this.descendInput(node?.".toList ++
        (argument.name.toList ++ (").".toList ++ (argument.kind.accessor.toList ++
          "();\n".toList))))) := by
  delta bindingLine
  simp only [String.toList_append, List.append_assoc]

def bindingPieces (argument : Argument) : List Piece := (bindingLine argument).toList.map .code

private theorem isIdentifier_fixed {text : List Char} (h : isIdentifierText text) :
    isIdentifier (String.ofList text) := by
  rw [isIdentifier, String.toList_ofList]
  exact h

theorem isIdentifier_accessor (kind : ArgumentKind) : isIdentifier kind.accessor := by
  cases kind <;> exact isIdentifier_fixed (by decide)

private theorem nest_bindingLine {argument : Argument} (hId : isIdentifier argument.id)
    (hName : isIdentifier argument.name) : nest [] (bindingLine argument).toList = some [] := by
  have hConst : nest [] "const ".toList = some [] := nest_fixed (by decide)
  have hDescend : nest [] " = this.descendInput(node?.".toList = some [.round] :=
    nest_fixed (by decide)
  have hClose : nest [.round] ").".toList = some [] := nest_fixed (by decide)
  have hCall : nest [] "();\n".toList = some [] := nest_fixed (by decide)
  have hAccessor := isPlain_of_isIdentifier (isIdentifier_accessor argument.kind)
  rw [toList_bindingLine, nest_append hConst,
    nest_append (nest_plain (isPlain_of_isIdentifier hId) _), nest_append hDescend,
    nest_append (nest_plain (isPlain_of_isIdentifier hName) _),
    nest_append hClose, nest_append (nest_plain hAccessor _), hCall]

/-- A binding line is read as the argument it was emitted for. -/
theorem readBinding_line {argument : Argument} (hId : isIdentifier argument.id)
    (hName : isIdentifier argument.name) :
    readBinding (bindingPieces argument) = some (bindingOf argument) := by
  have hDescend : EndsName " = this.descendInput(node?.".toList := by
    rw [String.toList_ofList]
    decide
  have hClose : EndsName ").".toList := by
    rw [String.toList_ofList]
    decide
  have hCall : EndsName "();\n".toList := by
    rw [String.toList_ofList]
    decide
  have hIdRead := takeName_code (isIdentifierPart_of_mem hId) hDescend
  have hNameRead := takeName_code (isIdentifierPart_of_mem hName) hClose
  have hAccessorRead := takeName_code
    (isIdentifierPart_of_mem (isIdentifier_accessor argument.kind)) hCall []
  have hDone := skip_code "();\n".toList []
  rw [List.append_nil] at hAccessorRead hDone
  simp only [bindingPieces, toList_bindingLine, List.map_append, readBinding, skip_code,
    Option.bind_eq_bind, Option.bind_some, hIdRead, hNameRead, hAccessorRead, hDone,
    String.ofList_toList, if_true]
  rfl

theorem run_bindingLine {argument : Argument} (hId : isIdentifier argument.id)
    (hName : isIdentifier argument.name) :
    run start (bindingLine argument).toList = (start, bindingPieces argument) :=
  run_nest (nest_bindingLine hId hName)

/-- The binding lines of an operation, with their line ends. -/
theorem bindings_lineEnd (operation : Operation) :
    (bindings operation).map (· ++ "\n") = operation.arguments.map bindingLine := by
  have hEnd : "();" ++ "\n" = "();\n" := by
    rw [← String.toList_inj, String.toList_append]
    repeat rw [String.toList_ofList]
    rfl
  rw [bindings, List.map_map]
  congr 1
  funext argument
  delta bindingLine
  rw [← hEnd]
  simp only [Function.comp_apply, String.append_assoc]

/-- The binding lines of an operation are read one by one, and then the lines behind them. -/
theorem runLines_bindings {operation : Operation} (h : Named operation.arguments)
    (lines : List String) :
    runLines start (bindings operation ++ lines) =
      ((runLines start lines).1,
        operation.arguments.map bindingPieces ++
          (runLines start lines).2) := by
  have hLines := bindings_lineEnd operation
  have hIds := h.isIdentifier_id
  have hNames := fun argument hMem => (h.wellFormed argument hMem).name_isIdentifier
  generalize bindings operation = bound at hLines
  generalize operation.arguments = arguments at hLines hIds hNames
  induction arguments generalizing bound with
  | nil =>
      rw [List.map_nil, List.map_eq_nil_iff] at hLines
      rw [hLines]
      rfl
  | cons argument arguments ih =>
      obtain ⟨line, bound, rfl, hLine, hRest⟩ := List.map_eq_cons_iff.1 hLines
      have hMore := ih bound hRest (fun a ha => hIds a (List.mem_cons_of_mem _ ha))
        (fun a ha => hNames a (List.mem_cons_of_mem _ ha))
      have hRun := run_bindingLine (hIds argument (List.mem_cons_self ..))
        (hNames argument (List.mem_cons_self ..))
      rw [← hLine, String.toList_append] at hRun
      rw [List.cons_append, runLines_cons hRun, hMore]
      rfl

/-- The bindings of an operation are read up to a line that is none. -/
theorem readBindings_lines {arguments : List Argument} (h : Named arguments)
    {lines : List (List Piece)} (hLines : ∀ line ∈ lines.head?, readBinding line = none) :
    readBindings (arguments.map bindingPieces ++ lines) =
      (arguments.map bindingOf, lines) := by
  have hIds := h.isIdentifier_id
  have hNames := fun argument hMem => (h.wellFormed argument hMem).name_isIdentifier
  clear h
  induction arguments with
  | nil =>
      cases lines with
      | nil => rfl
      | cons line lines => simp [readBindings, hLines line rfl]
  | cons argument arguments ih =>
      have hRest := ih (fun a ha => hIds a (List.mem_cons_of_mem _ ha))
        (fun a ha => hNames a (List.mem_cons_of_mem _ ha))
      have hLine := readBinding_line (hIds argument (List.mem_cons_self ..))
        (hNames argument (List.mem_cons_self ..))
      rw [List.map_cons, List.cons_append, readBindings, hLine, hRest]
      rfl

/-! ## What identifiers stand for -/

/-- The id of the block is no identifier of an argument. -/
private theorem ne_blockId {id : String} (h : isIdentifier id) :
    id.toList ≠ "block.id".toList := by
  intro hSame
  have hDot : '.' ∈ "block.id".toList := by
    rw [String.toList_ofList]
    decide
  have hPart := isIdentifierPart_of_mem h '.' (hSame ▸ hDot)
  exact absurd hPart (by decide)

/-- The identifier of an argument stands for the input of that argument. -/
theorem environment_id {arguments : List Argument} (h : Named arguments) {argument : Argument}
    (hMem : argument ∈ arguments) (input : String → List Char) (blockId : List Char) :
    environment (arguments.map bindingOf) input blockId argument.id.toList =
      some (input argument.name) := by
  have hIds : ((arguments.map bindingOf).map fun binding => binding.id.toList).Nodup := by
    have hTexts := h.ids_nodup.map fun _ _ => String.toList_inj.1
    rw [List.map_map] at hTexts ⊢
    exact hTexts
  have hFound := find?_eq_some_of_nodup hIds (List.mem_map_of_mem hMem)
  rw [environment, if_neg (ne_blockId (h.isIdentifier_id argument hMem))]
  exact congrArg (Option.map fun binding => input binding.name) hFound

/-- What the code of a substitution stands for when it is the id of the block. -/
theorem environment_blockId (bindings : List Binding) (input : String → List Char)
    (blockId : List Char) : environment bindings input blockId "block.id".toList = some blockId :=
  if_pos rfl

/-! ## A line with a template literal -/

/-- A line that begins otherwise is no binding. -/
theorem readBinding_eq_none {front : List Char} {c : Char} (hFront : front.head? = some c)
    (h : c ≠ 'c') (pieces : List Piece) : readBinding (front.map .code ++ pieces) = none := by
  obtain ⟨more, rfl⟩ := List.head?_eq_some_iff.1 hFront
  have hConst : "const ".toList = 'c' :: "onst ".toList := by
    rw [String.toList_ofList, String.toList_ofList]
  have hSkip : skip "const ".toList ((c :: more).map .code ++ pieces) = none := by
    rw [hConst, List.map_cons, List.cons_append, skip, if_neg h.symm]
  rw [readBinding, hSkip]
  rfl

/-- The pieces of a line with one template literal in it. -/
def linePieces (front : List Char) (content : List Piece) (back : List Char) : List Piece :=
  front.map .code ++ .opens .template :: (content ++ .closes .template :: back.map .code)

/-- A line with one template literal in it. -/
theorem run_templateLine {front body back : String} {opened : List Bracket}
    {pieces : List Piece} (hFront : nest [] front.toList = some opened)
    (hBack : nest opened (back.toList ++ ['\n']) = some [])
    (hBody : run ⟨.literal .template .plain, opened⟩
        (body.toList ++ '\x60' :: (back.toList ++ ['\n'])) =
      after pieces (run ⟨.literal .template .plain, opened⟩ ('\x60' :: (back.toList ++ ['\n'])))) :
    run start ((front ++ backQuote ++ body ++ backQuote ++ back).toList ++ ['\n']) =
      (start, linePieces front.toList pieces (back.toList ++ ['\n'])) := by
  have hOpens : step ⟨.code, opened⟩ '\x60' =
      (⟨.literal .template .plain, opened⟩, [.opens .template]) := rfl
  have hCloses : step ⟨.literal .template .plain, opened⟩ '\x60' =
      (⟨.code, opened⟩, [.closes .template]) := rfl
  have hText : (front ++ backQuote ++ body ++ backQuote ++ back).toList ++ ['\n'] =
      front.toList ++ '\x60' :: (body.toList ++ '\x60' :: (back.toList ++ ['\n'])) := by
    simp [backQuote]
  rw [hText, run_append, start, run_nest hFront, run_cons, hOpens, hBody, run_cons, hCloses,
    run_nest hBack]
  simp [after, linePieces]

private theorem behindTemplateMark_code (front : List Char) (pieces : List Piece) :
    behindTemplateMark (front.map .code ++ .opens .template :: pieces) = pieces := by
  induction front with
  | nil => simp [behindTemplateMark]
  | cons c front ih => simp_all [behindTemplateMark]

/-- A case with bindings in front is read as these and the template literal behind them. -/
theorem readTextCase_bindings {operation : Operation} (h : Named operation.arguments)
    {line : String} {lines : List String} {front back : List Char} {c : Char}
    {content : List Piece} {more : List (List Piece)} (hHead : front.head? = some c) (hc : c ≠ 'c')
    (hLine : run start (line.toList ++ ['\n']) = (start, linePieces front content back))
    (hLines : runLines start lines = (start, more)) :
    readTextCase (bindings operation ++ line :: lines) =
      some ⟨operation.arguments.map bindingOf,
        content ++ .closes .template :: (back.map .code ++ more.flatten)⟩ := by
  have hRun := runLines_bindings h (line :: lines)
  rw [runLines_cons hLine, hLines] at hRun
  have hRead : readLines (bindings operation ++ line :: lines) =
      some (operation.arguments.map bindingPieces ++ linePieces front content back :: more) := by
    rw [readLines, hRun, if_pos rfl]
  have hOther : ∀ first ∈ (linePieces front content back :: more).head?,
      readBinding first = none := by
    intro first hFirst
    cases hFirst
    exact readBinding_eq_none hHead hc _
  have hBindings := readBindings_lines h hOther
  rw [readTextCase, hRead, Option.map_some, hBindings, List.flatten_cons, linePieces,
    List.append_assoc, List.cons_append, behindTemplateMark_code, List.append_assoc,
    List.cons_append]

/-! ## What the cases evaluate to -/

/-- What the identifier of an argument stands for. -/
def idInput (arguments : List Argument) (input : String → List Char) (id : String) :
    List Char :=
  ((arguments.find? (·.id = id)).map fun argument => input argument.name).getD []

theorem idInput_of_mem {arguments : List Argument} (h : Named arguments) {argument : Argument}
    (hMem : argument ∈ arguments) (input : String → List Char) :
    idInput arguments input argument.id = input argument.name := by
  rw [idInput, find?_eq_some_of_nodup h.ids_nodup hMem]
  rfl

/--
An operation with code whose substitutions are identifiers of its arguments. It is all that
the text step has to know about a resolved operation.
-/
structure Coded (operation : Operation) (template : CodeTemplate) : Prop where
  named : Named operation.arguments
  code_eq : operation.code = some template
  separated : Separated template.segments
  bound : ∀ id, .argument id ∈ template.segments →
    ∃ argument ∈ operation.arguments, argument.id = id
  report_bound : ∀ id, operation.report = .argument id →
    ∃ argument ∈ operation.arguments, argument.id = id

/--
A case binds the arguments of an operation, and its template literal evaluates to
a text that depends on the inputs and on the id of the block.
-/
def Evaluates (operation : Operation) (body : List String)
    (value : (String → List Char) → List Char → List Char) : Prop :=
  ∃ template, readTextCase body = some ⟨operation.arguments.map bindingOf, template⟩ ∧
    ∀ input blockId,
      templateValue (environment (operation.arguments.map bindingOf) input blockId) none template =
        some (value input blockId)

theorem Evaluates.caseValue_eq {operation : Operation} {body : List String}
    {value : (String → List Char) → List Char → List Char} (h : Evaluates operation body value)
    (input : String → List Char) (blockId : List Char) :
    caseValue body input blockId = some (value input blockId) := by
  obtain ⟨template, hRead, hValue⟩ := h
  rw [caseValue, hRead, Option.bind_some]
  exact hValue input blockId

def codeValue (operation : Operation) (template : CodeTemplate) (input : String → List Char) :
    List Char :=
  template.segments.flatMap (segmentValue (idInput operation.arguments input))

section Coded

variable {operation : Operation} {template : CodeTemplate}

/-- An identifier of an argument stands for the input of that argument. -/
private theorem environment_eq_idInput (h : Coded operation template) {id : String}
    (hBound : ∃ argument ∈ operation.arguments, argument.id = id) (input : String → List Char)
    (blockId : List Char) :
    environment (operation.arguments.map bindingOf) input blockId id.toList =
      some (idInput operation.arguments input id) := by
  obtain ⟨argument, hMem, rfl⟩ := hBound
  rw [environment_id h.named hMem, idInput_of_mem h.named hMem]

theorem isIdentifier_of_bound (h : Coded operation template) {id : String}
    (hBound : ∃ argument ∈ operation.arguments, argument.id = id) : isIdentifier id := by
  obtain ⟨argument, hMem, rfl⟩ := hBound
  exact h.named.isIdentifier_id argument hMem

/-- The code of an operation is read segment by segment. -/
private theorem run_codeBody (h : Coded operation template) (opened : List Bracket)
    {rest : List Char} (hRest : Settled rest) :
    run ⟨.literal .template .plain, opened⟩ ((codeBody operation).toList ++ rest) =
      after (template.segments.flatMap segmentPieces)
        (run ⟨.literal .template .plain, opened⟩ rest) := by
  rw [codeBody, h.code_eq]
  exact run_literalBody h.separated (fun id hMem => isIdentifier_of_bound h (h.bound id hMem)) hRest

/-- The code of an operation evaluates segment by segment. -/
private theorem templateValue_code_append (h : Coded operation template)
    (input : String → List Char) (blockId : List Char) (pieces : List Piece) :
    templateValue (environment (operation.arguments.map bindingOf) input blockId) none
        (template.segments.flatMap segmentPieces ++ pieces) =
      (templateValue (environment (operation.arguments.map bindingOf) input blockId) none
        pieces).map (codeValue operation template input ++ ·) :=
  templateValue_segments (fun id hMem => environment_eq_idInput h (h.bound id hMem) input blockId)
    pieces

/-- Fixed text of a template literal. -/
private theorem run_fixed {text : List Char} {pieces : List Piece}
    (h : run ⟨.literal .template .plain, []⟩ text = (⟨.literal .template .plain, []⟩, pieces))
    (rest : List Char) :
    run ⟨.literal .template .plain, []⟩ (text ++ rest) =
      after pieces (run ⟨.literal .template .plain, []⟩ rest) := by
  rw [run_append, h]

/-! ### The line of a value -/

/-- The text in front of the template literal where a value stands. -/
def valueFront : String := "return new TypedInput("

def valueBack (operation : Operation) : String :=
  ", " ++ (ReturnKind.inputType operation.returns ++ ");")

private theorem isIdentifier_inputType (returns : Option ReturnKind) :
    isIdentifier (ReturnKind.inputType returns) := by
  cases returns with
  | none => exact isIdentifier_fixed (by decide)
  | some kind => cases kind <;> exact isIdentifier_fixed (by decide)

def expressionLine (operation : Operation) : String :=
  valueFront ++ backQuote ++ codeBody operation ++ backQuote ++ valueBack operation

theorem expressionBody_eq (operation : Operation) :
    expressionBody operation = bindings operation ++ [expressionLine operation] := by
  rw [expressionBody]
  delta expressionLine valueFront valueBack
  simp only [String.append_assoc]

/-- Where a value stands, the template literal holds the code. -/
theorem run_expressionLine (h : Coded operation template) :
    run start ((expressionLine operation).toList ++ ['\n']) =
      (start, linePieces valueFront.toList (template.segments.flatMap segmentPieces)
        ((valueBack operation).toList ++ ['\n'])) := by
  have hFront : nest [] valueFront.toList = some [.round] := nest_fixed (by decide)
  have hComma : nest [.round] ", ".toList = some [.round] := nest_fixed (by decide)
  have hClose : nest [.round] ");".toList = some [] := nest_fixed (by decide)
  have hType := isPlain_of_isIdentifier (isIdentifier_inputType operation.returns)
  have hBack : nest [.round] ((valueBack operation).toList ++ ['\n']) = some [] := by
    delta valueBack
    rw [String.toList_append, String.toList_append, List.append_assoc, List.append_assoc,
      nest_append hComma, nest_append (nest_plain hType _), nest_append hClose]
    decide
  exact run_templateLine hFront hBack
    (run_codeBody h [.round] (.cons (by decide) (by decide)))

/-- Where a value stands, a case evaluates to the code. -/
theorem evaluates_expressionBody (h : Coded operation template) :
    Evaluates operation (expressionBody operation) fun input _ =>
      codeValue operation template input := by
  have hHead : valueFront.toList.head? = some 'r' := by
    delta valueFront
    rw [String.toList_ofList]
    rfl
  have hNoLines : runLines start [] = (start, []) := rfl
  have hCase := readTextCase_bindings h.named hHead (by decide) (run_expressionLine h) hNoLines
  refine ⟨_, by rw [expressionBody_eq, hCase], ?_⟩
  intro input blockId
  rw [templateValue_code_append h, templateValue_closes]
  simp

/-! ### The line of a statement -/

/--
What a block that stands for a value shows, once the inputs are known: one of them, or the
value of the code in brackets.
-/
def reportedInput (operation : Operation) (template : CodeTemplate)
    (input : String → List Char) : List Char :=
  match operation.report with
  | .argument id => idInput operation.arguments input id
  | .expression => '(' :: (codeValue operation template input ++ [')'])

def reportPieces (operation : Operation) (template : CodeTemplate) : List Piece :=
  match operation.report with
  | .argument id => segmentPieces (.argument id)
  | .expression => .content '(' :: (template.segments.flatMap segmentPieces ++ [.content ')'])

/-- The text in front of the template literal where a statement stands. -/
def statementFront : String := "this.source += "

/-- The text of a report in front of the value, as it stands between back quotes. -/
def reportCall : String := "\\nvm.runtime.visualReport(\"$\x7bblock.id\x7d\", "

def reportCallPieces : List Piece :=
  "\nvm.runtime.visualReport(\"".toList.map .content ++
    .substitutes :: ("block.id".toList.map .code ++ .resumes :: "\", ".toList.map .content)

def statementText (operation : Operation) : String :=
  if operation.shape.isStatement then "\\n" ++ (codeBody operation ++ ";\\n")
  else reportCall ++ (reportedValue operation ++ ");\\n")

/-- The pieces of what stands between the back quotes where a statement stands. -/
def statementPieces (operation : Operation) (template : CodeTemplate) : List Piece :=
  if operation.shape.isStatement then
    .content '\n' :: (template.segments.flatMap segmentPieces ++ [.content ';', .content '\n'])
  else reportCallPieces ++ (reportPieces operation template ++ [')', ';', '\n'].map .content)

def statementLine (operation : Operation) : String :=
  statementFront ++ backQuote ++ statementText operation ++ backQuote ++ ";"

theorem statementBody_eq (operation : Operation) :
    statementBody operation = bindings operation ++ [statementLine operation, "return;"] := by
  rw [statementBody]
  delta statementLine statementText statementFront reportCall
  by_cases hShape : operation.shape.isStatement
  · rw [if_pos hShape, if_pos hShape]
    delta appendStatement
    simp only [String.append_assoc]
  · rw [if_neg hShape, if_neg hShape]
    delta appendReport
    simp only [String.append_assoc]

private theorem run_reportedValue (h : Coded operation template) (rest : List Char) :
    run ⟨.literal .template .plain, []⟩ ((reportedValue operation).toList ++ rest) =
      after (reportPieces operation template) (run ⟨.literal .template .plain, []⟩ rest) := by
  unfold reportedValue reportPieces
  cases hReport : operation.report with
  | argument id =>
      exact run_substitution (isIdentifier_of_bound h (h.report_bound id hReport)) rest
  | expression =>
      have hOpen : run ⟨.literal .template .plain, []⟩ "(".toList =
          (⟨.literal .template .plain, []⟩, [.content '(']) := by
        rw [String.toList_ofList]
        rfl
      have hClose : run ⟨.literal .template .plain, []⟩ ")".toList =
          (⟨.literal .template .plain, []⟩, [.content ')']) := by
        rw [String.toList_ofList]
        rfl
      have hSettled : Settled (")".toList ++ rest) := by
        rw [String.toList_ofList]
        exact .cons (by decide) (by decide)
      simp only [String.toList_append, List.append_assoc]
      rw [run_fixed hOpen, run_codeBody h [] hSettled, run_fixed hClose]
      simp

private theorem run_statementText (h : Coded operation template) (rest : List Char) :
    run ⟨.literal .template .plain, []⟩ ((statementText operation).toList ++ rest) =
      after (statementPieces operation template) (run ⟨.literal .template .plain, []⟩ rest) := by
  unfold statementText statementPieces
  by_cases hShape : operation.shape.isStatement
  · have hOpen : run ⟨.literal .template .plain, []⟩ "\\n".toList =
        (⟨.literal .template .plain, []⟩, [.content '\n']) := by
      rw [String.toList_ofList]
      rfl
    have hClose : run ⟨.literal .template .plain, []⟩ ";\\n".toList =
        (⟨.literal .template .plain, []⟩, [.content ';', .content '\n']) := by
      rw [String.toList_ofList]
      rfl
    have hSettled : Settled (";\\n".toList ++ rest) := by
      rw [String.toList_ofList]
      exact .cons (by decide) (by decide)
    rw [if_pos hShape, if_pos hShape, String.toList_append, List.append_assoc, run_fixed hOpen,
      String.toList_append, List.append_assoc, run_codeBody h [] hSettled, run_fixed hClose]
    simp
  · have hCall : run ⟨.literal .template .plain, []⟩ reportCall.toList =
        (⟨.literal .template .plain, []⟩, reportCallPieces) := by
      delta reportCall reportCallPieces
      repeat rw [String.toList_ofList]
      decide
    have hClose : run ⟨.literal .template .plain, []⟩ ");\\n".toList =
        (⟨.literal .template .plain, []⟩, [')', ';', '\n'].map .content) := by
      rw [String.toList_ofList]
      rfl
    rw [if_neg hShape, if_neg hShape, String.toList_append, List.append_assoc, run_fixed hCall,
      String.toList_append, List.append_assoc, run_reportedValue h, run_fixed hClose, after_after,
      after_after, List.append_assoc]

/-- Where a statement stands, the template literal holds the code or a report. -/
theorem run_statementLine (h : Coded operation template) :
    run start ((statementLine operation).toList ++ ['\n']) =
      (start, linePieces statementFront.toList (statementPieces operation template)
        (";".toList ++ ['\n'])) := by
  have hFront : nest [] statementFront.toList = some [] := nest_fixed (by decide)
  have hBack : nest [] (";".toList ++ ['\n']) = some [] := by
    rw [String.toList_ofList]
    rfl
  exact run_templateLine hFront hBack (run_statementText h _)

private theorem templateValue_report_append (h : Coded operation template)
    (input : String → List Char) (blockId : List Char) (pieces : List Piece) :
    templateValue (environment (operation.arguments.map bindingOf) input blockId) none
        (reportPieces operation template ++ pieces) =
      (templateValue (environment (operation.arguments.map bindingOf) input blockId) none
        pieces).map (reportedInput operation template input ++ ·) := by
  unfold reportPieces reportedInput
  cases hReport : operation.report with
  | argument id =>
      simp only [segmentPieces, List.cons_append, List.append_assoc, List.nil_append]
      exact templateValue_substitution
        (environment_eq_idInput h (h.report_bound id hReport) input blockId) pieces
  | expression =>
      simp only [List.cons_append, List.append_assoc, List.nil_append]
      rw [templateValue, templateValue_code_append h, templateValue, Option.map_map, Option.map_map]
      simp [Function.comp_def]

/--
What the template literal evaluates to where a statement stands. A block that stands for a
value shows it there and does nothing else.
-/
def statementValue (operation : Operation) (template : CodeTemplate)
    (input : String → List Char) (blockId : List Char) : List Char :=
  if operation.shape.isStatement then '\n' :: (codeValue operation template input ++ [';', '\n'])
  else "\nvm.runtime.visualReport(\"".toList ++ (blockId ++ ("\", ".toList ++
    (reportedInput operation template input ++ [')', ';', '\n'])))

private theorem templateValue_statement (h : Coded operation template)
    (input : String → List Char) (blockId : List Char) (rest : List Piece) :
    templateValue (environment (operation.arguments.map bindingOf) input blockId) none
        (statementPieces operation template ++ .closes .template :: rest) =
      some (statementValue operation template input blockId) := by
  unfold statementPieces statementValue
  by_cases hShape : operation.shape.isStatement
  · rw [if_pos hShape, if_pos hShape, List.cons_append, List.append_assoc, templateValue,
      templateValue_code_append h]
    simp [templateValue]
  · rw [if_neg hShape, if_neg hShape]
    delta reportCallPieces
    simp only [List.append_assoc, List.cons_append]
    rw [templateValue_content, templateValue_substitution (environment_blockId ..),
      templateValue_content, templateValue_report_append h, templateValue_content,
      templateValue_closes]
    simp only [Option.map_some, List.append_nil]

/-- Where a statement stands, a case evaluates to its code on a line of its own, or to a report. -/
theorem evaluates_statementBody (h : Coded operation template) :
    Evaluates operation (statementBody operation) (statementValue operation template) := by
  have hHead : statementFront.toList.head? = some 't' := by
    delta statementFront
    rw [String.toList_ofList]
    rfl
  have hReturn : runLines start ["return;"] = (start, ["return;\n".toList.map .code]) := by
    unfold runLines
    repeat rw [String.toList_ofList]
    rfl
  have hCase := readTextCase_bindings h.named hHead (by decide) (run_statementLine h) hReturn
  refine ⟨_, by rw [statementBody_eq, hCase], ?_⟩
  intro input blockId
  exact templateValue_statement h input blockId _

end Coded

/-! ## Resolved operations -/

def templateOf (operation : Operation) (code : String) : CodeTemplate :=
  ⟨(Placeholder.scan code).map (Resolution.bindSegment operation.arguments)⟩

/-- The code of a resolved operation has only identifiers of its arguments in it. -/
theorem coded_of_resolves {declared : OperationDeclaration} {operation : Operation}
    (h : declared.Resolves operation) {code : String}
    (hCode : declared.code = some code) : Coded operation (templateOf operation code) := by
  refine
    { named := h.named
      code_eq := by rw [h.code_eq, hCode]; rfl
      separated := Resolution.separated_scan operation.arguments code
      bound := ?_
      report_bound := ?_ }
  · intro id hMem
    obtain ⟨segment, hSegment, hBind⟩ := List.mem_map.1 hMem
    cases segment with
    | text text => cases hBind
    | placeholder name column =>
        obtain ⟨found, hFound⟩ := h.code_bound code hCode name column hSegment
        rw [Resolution.bindSegment, hFound] at hBind
        cases hBind
        obtain ⟨argument, hArgument, _, hId⟩ := Resolution.exists_of_idOf? hFound
        exact ⟨argument, hArgument, hId⟩
  · intro id hReport
    obtain ⟨argument, hMem, hId, _⟩ := Resolution.report_argument h hReport
    exact ⟨argument, hMem, hId⟩

end BlockExtension.Dispatch
