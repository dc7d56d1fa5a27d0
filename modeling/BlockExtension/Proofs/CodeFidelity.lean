import Mathlib
import BlockExtension.Configuration
import BlockExtension.Proofs.TextCase

/-!
# Emitted code against declared code

The code of an operation is declared as a text with placeholders. `fill` is what
that text means: every placeholder is replaced by the input of its argument, and
everything else stays. The emitted cases are supposed to evaluate to the filled
text, put to use in one way where a value stands and in another where a
statement stands; `EvaluateTo` says so for both tables.

They do, with one exception. Literal code goes into a template literal, and
there the host reads every line end as a line feed. Code with a carriage return
in it evaluates to something else than was declared, whatever the inputs are.

## Main results

* `evaluateTo_normalized`: the cases evaluate to the code with its line ends
  normalized and its placeholders filled.
* `evaluateTo_fill_iff`: that is the filled code exactly when the declared code
  has no carriage return.
-/

namespace BlockExtension

open BlockExtension.Script.Lexer (normalize normalize_eq_self_iff length_normalize_le segmentValue)
open BlockExtension.Dispatch

/-! ## Filling placeholders -/

/--
Code with its literal text read in some way and its placeholders replaced by inputs. This is
what a template literal should evaluate to.
-/
def fillWith (read : List Char → List Char) (input : String → List Char) (code : String) :
    List Char :=
  (Placeholder.scan code).flatMap fun
    | .text text => read text.toList
    | .placeholder name _ => input name

def fill (input : String → List Char) (code : String) : List Char := fillWith id input code

private theorem length_flatMap_le {α : Type} {f g : α → List Char} {items : List α}
    (h : ∀ a ∈ items, (f a).length ≤ (g a).length) :
    (items.flatMap f).length ≤ (items.flatMap g).length := by
  induction items with
  | nil => exact Nat.le_refl _
  | cons a items ih =>
      have hHead := h a (List.mem_cons_self ..)
      have hRest := ih fun b hb => h b (List.mem_cons_of_mem _ hb)
      rw [List.flatMap_cons, List.flatMap_cons, List.length_append, List.length_append]
      omega

/-- Two ways to expand a list, of which the first never gives more, agree exactly if they agree
on each member. -/
private theorem flatMap_eq_flatMap_iff {α : Type} {f g : α → List Char} {items : List α}
    (h : ∀ a ∈ items, (f a).length ≤ (g a).length) :
    items.flatMap f = items.flatMap g ↔ ∀ a ∈ items, f a = g a := by
  induction items with
  | nil => simp
  | cons a items ih =>
      have hRest : ∀ b ∈ items, (f b).length ≤ (g b).length := fun b hb =>
        h b (List.mem_cons_of_mem _ hb)
      have hTotal := length_flatMap_le hRest
      rw [List.flatMap_cons, List.flatMap_cons, List.forall_mem_cons, ← ih hRest]
      constructor
      · intro hEq
        have hLength := congrArg List.length hEq
        rw [List.length_append, List.length_append] at hLength
        have hHead := h a (List.mem_cons_self ..)
        exact List.append_inj hEq (by omega)
      · rintro ⟨hHead, hTail⟩
        rw [hHead, hTail]

/-- A character that no placeholder can contain is in a text exactly if it is in a literal part. -/
private theorem mem_code_iff {c : Char} (hPart : Script.isIdentifierPart c = false)
    (hOpen : c ≠ '[') (hClose : c ≠ ']') (code : String) :
    c ∈ code.toList ↔ ∃ text, .text text ∈ Placeholder.scan code ∧ c ∈ text.toList := by
  have hSource := Placeholder.source_scanFrom 1 [] code.toList
  rw [List.reverse_nil, List.nil_append] at hSource
  rw [← hSource, List.mem_flatMap]
  constructor
  · rintro ⟨segment, hMem, hc⟩
    cases segment with
    | text text => exact ⟨text, hMem, hc⟩
    | placeholder name column =>
        have hName := Placeholder.isIdentifier_of_mem_scanFrom hMem
        simp only [Segment.source, List.cons_append, List.mem_cons, List.mem_append,
          List.not_mem_nil, or_false, hOpen, hClose, false_or] at hc
        have hIs := Script.Lexer.isIdentifierPart_of_mem hName c hc
        rw [hPart] at hIs
        cases hIs
  · rintro ⟨text, hMem, hc⟩
    exact ⟨_, hMem, hc⟩

/-- Normalizing line ends changes filled code exactly when the code has a carriage return. -/
theorem fillWith_normalize_eq_iff (input : String → List Char) (code : String) :
    fillWith normalize input code = fill input code ↔ '\r' ∉ code.toList := by
  rw [fill, fillWith, fillWith, flatMap_eq_flatMap_iff,
    mem_code_iff (by decide) (by decide) (by decide)]
  · constructor
    · rintro hSame ⟨text, hMem, hReturn⟩
      exact normalize_eq_self_iff.1 (hSame _ hMem) hReturn
    · intro hNone segment hMem
      cases segment with
      | text text => exact normalize_eq_self_iff.2 fun hReturn => hNone ⟨text, hMem, hReturn⟩
      | placeholder name column => rfl
  · intro segment _
    cases segment with
    | text text => exact length_normalize_le text.toList
    | placeholder name column => exact Nat.le_refl _

/-! ## Resolved operations -/

/--
What a block that stands for a value shows when its code evaluates to a text: an input, or
the value of the code itself in brackets.
-/
def OperationDeclaration.shown (declared : OperationDeclaration) (input : String → List Char)
    (source : List Char) : List Char :=
  match declared.reportedName? with
  | some name => input name
  | none => '(' :: (source ++ [')'])

section Resolved

variable {declared : OperationDeclaration} {operation : Operation}

/-- The code of a resolved operation evaluates to the declared code, its line ends normalized. -/
theorem codeValue_eq_fillWith (h : declared.Resolves operation) {code : String}
    (hCode : declared.code = some code) (input : String → List Char) :
    codeValue operation (templateOf operation code) input = fillWith normalize input code := by
  rw [codeValue, templateOf, fillWith, List.flatMap_map]
  refine List.flatMap_congr fun segment hMem => ?_
  cases segment with
  | text text => rfl
  | placeholder name column =>
      obtain ⟨found, hFound⟩ := h.code_bound code hCode name column hMem
      obtain ⟨argument, hArgument, rfl, rfl⟩ := Resolution.exists_of_idOf? hFound
      rw [Resolution.bindSegment, hFound]
      exact idInput_of_mem h.named hArgument input

/-- A resolved operation shows what its declaration says. -/
theorem reportedInput_eq_shown (h : declared.Resolves operation) {code : String}
    (hCode : declared.code = some code) (input : String → List Char) :
    reportedInput operation (templateOf operation code) input =
      declared.shown input (fillWith normalize input code) := by
  unfold reportedInput OperationDeclaration.shown
  cases hReport : operation.report with
  | argument id =>
      obtain ⟨argument, hMem, rfl, hName⟩ := Resolution.report_argument h hReport
      rw [hName]
      exact idInput_of_mem h.named hMem input
  | expression =>
      rw [Resolution.report_expression h hReport]
      simp only [codeValue_eq_fillWith h hCode]

end Resolved

/-! ## The two text tables -/

/-- What the case under a key evaluates to. -/
def Dispatch.Table.value? (table : Table) (key : String) (input : String → List Char)
    (blockId : List Char) : Option (List Char) :=
  (table.find? key).bind fun found => caseValue found.body input blockId

/--
The text cases of a declared operation evaluate to a text, put to use as the two
hooks do: where a value stands it is the text itself, where a statement stands it
is a line of its own or, for a block that stands for a value, a report.
-/
structure EvaluateTo (extension : Extension) (blocks : List Block)
    (declared : OperationDeclaration) (input : String → List Char) (blockId source : List Char) :
    Prop where
  expression :
    (expressionTable extension blocks).value? (KeyStyle.dotted.key extension.id declared.opcode)
      input blockId = some source
  statement : declared.shape.isStatement = true →
    (statementTable extension blocks).value? (KeyStyle.dotted.key extension.id declared.opcode)
      input blockId = some ('\n' :: (source ++ [';', '\n']))
  report : declared.shape.isStatement = false →
    (statementTable extension blocks).value? (KeyStyle.dotted.key extension.id declared.opcode)
      input blockId = some ("\nvm.runtime.visualReport(\"".toList ++ (blockId ++ ("\", ".toList ++
        (declared.shown input source ++ [')', ';', '\n']))))

section Tables

variable {entries : List Json} {declarations : List Declaration} {naming : Naming}
  {resolution : Resolution} {declared : OperationDeclaration} {code : String}

/-- The cases evaluate to the code with its line ends normalized and its placeholders filled. -/
theorem evaluateTo_normalized (hRead : Declaration.ofEntries 0 entries = .ok declarations)
    (hResolve : resolve naming declarations = .ok resolution)
    (hMem : .operation declared ∈ declarations) (hCode : declared.code = some code)
    (extension : Extension) (input : String → List Char) (blockId : List Char) :
    EvaluateTo extension resolution.blocks declared input blockId
      (fillWith normalize input code) := by
  have hWellFormed := Declaration.wellFormed_of_ofEntries hRead
  have hBlocks := Resolution.forall₂_resolves hWellFormed hResolve
  obtain ⟨operation, hIn, hOperation⟩ := Resolution.exists_operation hBlocks hMem
  have hEmits : operation.emitsCode :=
    (Resolution.emitsCode_iff (hWellFormed _ hMem) hOperation).2 ⟨code, hCode⟩
  have hEmitting : operation ∈ Block.emitting resolution.blocks :=
    Block.mem_emitting.2 ⟨hIn, hEmits⟩
  have hNodup := Block.nodup_emitting hWellFormed hResolve
  have hCoded := coded_of_resolves hOperation hCode
  have hValue := codeValue_eq_fillWith hOperation hCode input
  have hExpression := find?_caseOf .expression extension .dotted expressionBody hNodup hEmitting
  have hStatement := find?_caseOf .statement extension .dotted statementBody hNodup hEmitting
  rw [hOperation.opcode_eq] at hExpression hStatement
  refine
    { expression := ?_
      statement := ?_
      report := ?_ }
  · rw [Table.value?, expressionTable, hExpression, Option.bind_some]
    rw [← hValue]
    exact (evaluates_expressionBody hCoded).caseValue_eq input blockId
  · intro hShape
    rw [← hOperation.shape_eq] at hShape
    rw [Table.value?, statementTable, hStatement, Option.bind_some, ← hValue]
    have hCase := (evaluates_statementBody hCoded).caseValue_eq input blockId
    rwa [statementValue, if_pos hShape] at hCase
  · intro hShape
    rw [← hOperation.shape_eq] at hShape
    rw [Table.value?, statementTable, hStatement, Option.bind_some,
      ← reportedInput_eq_shown hOperation hCode]
    have hCase := (evaluates_statementBody hCoded).caseValue_eq input blockId
    rwa [statementValue, if_neg (by simp [hShape])] at hCase

/-- A text that the cases evaluate to is the only one. -/
theorem EvaluateTo.unique {extension : Extension} {blocks : List Block}
    {input : String → List Char} {blockId source other : List Char}
    (h : EvaluateTo extension blocks declared input blockId source)
    (hOther : EvaluateTo extension blocks declared input blockId other) : source = other :=
  Option.some.inj (h.expression.symm.trans hOther.expression)

/-- The cases evaluate to the filled code exactly when the declared code has no carriage return. -/
theorem evaluateTo_fill_iff (hRead : Declaration.ofEntries 0 entries = .ok declarations)
    (hResolve : resolve naming declarations = .ok resolution)
    (hMem : .operation declared ∈ declarations) (hCode : declared.code = some code)
    (extension : Extension) (input : String → List Char) (blockId : List Char) :
    EvaluateTo extension resolution.blocks declared input blockId (fill input code) ↔
      '\r' ∉ code.toList := by
  have hNormalized := evaluateTo_normalized hRead hResolve hMem hCode extension input blockId
  rw [← fillWith_normalize_eq_iff input code]
  constructor
  · intro hFilled
    exact hNormalized.unique hFilled
  · intro hSame
    rw [← hSame]
    exact hNormalized

end Tables

/-- An entry that runs some code with one argument, which may stand in the code as `x`. -/
def sampleEntry (code : String) : Json :=
  .object [("opcode", .string "run"), ("blockType", .string "REPORTER"),
    ("text", .string "run [x]"), ("code", .string code),
    ("arguments", .object [("x", .object [("type", .string "STRING")])])]

/-- What the entry declares. -/
def sampleDeclaration (code : String) : OperationDeclaration :=
  { opcode := "run"
    shape := .reporter
    text := "run [x]"
    code := some code
    returns := none
    allowDropAnywhere := false
    reports := none
    arguments := [⟨"x", .string, none⟩] }

/-- The block that the entry becomes. -/
def sampleOperation (segments : List CodeSegment) : Operation :=
  { opcode := "run"
    shape := .reporter
    text := "run [x]"
    code := some ⟨segments⟩
    returns := none
    allowDropAnywhere := false
    report := .argument "run_arg1"
    arguments := [⟨"x", .string, "run_arg1", none⟩] }

/-- Code in which everything that needs an escape stands next to a placeholder. -/
theorem evaluateTo_fill_escapes :
    EvaluateTo ⟨"ext", "ext", none, none⟩
      [.operation (sampleOperation
        [.literal "\\\x60$", .argument "run_arg1", .literal "$\x7b\n"])]
      (sampleDeclaration "\\\x60$[x]$\x7b\n") (fun _ => ['1']) ['b']
      (fill (fun _ => ['1']) "\\\x60$[x]$\x7b\n") :=
  have hRead : Declaration.ofEntries 0 [sampleEntry "\\\x60$[x]$\x7b\n"] =
      .ok [.operation (sampleDeclaration "\\\x60$[x]$\x7b\n")] := by rfl
  have hResolve : resolve .ordinal [.operation (sampleDeclaration "\\\x60$[x]$\x7b\n")] =
      .ok ⟨[.operation (sampleOperation
        [.literal "\\\x60$", .argument "run_arg1", .literal "$\x7b\n"])], []⟩ := by cbv
  (evaluateTo_fill_iff hRead hResolve (List.mem_singleton.2 rfl) rfl ⟨"ext", "ext", none, none⟩
    (fun _ => ['1']) ['b']).2 (by decide)

/-- Code with a carriage return in it does not evaluate to itself. -/
theorem not_evaluateTo_fill_carriageReturn :
    Declaration.ofEntries 0 [sampleEntry "a\r[x]"] =
      .ok [.operation (sampleDeclaration "a\r[x]")] ∧
    resolve .ordinal [.operation (sampleDeclaration "a\r[x]")] =
      .ok ⟨[.operation (sampleOperation [.literal "a\r", .argument "run_arg1"])], []⟩ ∧
    ¬ EvaluateTo ⟨"ext", "ext", none, none⟩
        [.operation (sampleOperation [.literal "a\r", .argument "run_arg1"])]
        (sampleDeclaration "a\r[x]") (fun _ => ['1']) ['b'] (fill (fun _ => ['1']) "a\r[x]") := by
  have hRead : Declaration.ofEntries 0 [sampleEntry "a\r[x]"] =
      .ok [.operation (sampleDeclaration "a\r[x]")] := by rfl
  have hResolve : resolve .ordinal [.operation (sampleDeclaration "a\r[x]")] =
      .ok ⟨[.operation (sampleOperation [.literal "a\r", .argument "run_arg1"])], []⟩ := by cbv
  have hCode : (sampleDeclaration "a\r[x]").code = some "a\r[x]" := rfl
  have hNormalized := evaluateTo_normalized hRead hResolve (List.mem_singleton.2 rfl) hCode
    ⟨"ext", "ext", none, none⟩ (fun _ => ['1']) ['b']
  refine ⟨hRead, hResolve, fun hFilled => ?_⟩
  have hSame := (fillWith_normalize_eq_iff _ _).1 (hNormalized.unique hFilled)
  exact hSame (by decide)

end BlockExtension
