import BlockExtension.Proofs.LiteralText
import BlockExtension.Proofs.TextCase

/-!
# Configurations that differ in free text

Free text is what a configuration may say in any words: the name and the color of
the extension, labels, the texts of operations, the code between placeholders, and
default values that are strings. Everything else is a name or one of a few tags, or
it says whether something is there.

Resolving goes through two configurations that differ in free text in lockstep. The
opcodes and the numbers of arguments are the same, so the naming policy gives the
same identifiers; the names are the same, so the placeholders of the code are bound
to the same identifiers. What is left are resolved blocks that differ in free text.

## Main results

* `Resolution.forall₂_sameButText`: two palettes that differ in free text resolve to
  blocks that differ in free text.
-/

namespace BlockExtension

open BlockExtension.Script.Lexer
open BlockExtension.Dispatch (Coded coded_of_resolves templateOf)

/-! ## Declarations -/

/-- Extensions that differ in name and color, where a color is declared in both or in neither. -/
structure Extension.SameButText (a b : Extension) : Prop where
  id_eq : a.id = b.id
  color_isSome_eq : a.color.isSome = b.color.isSome
  comment_eq : a.comment = b.comment

/-- Arguments that differ in a default value that is a string. -/
structure ArgumentDeclaration.SameButText (a b : ArgumentDeclaration) : Prop where
  name_eq : a.name = b.name
  kind_eq : a.kind = b.kind
  default_same : Option.Rel Json.SameButText a.defaultValue b.defaultValue

def Placeholder.names (text : String) : List String :=
  (Resolution.placeholders (Placeholder.scan text)).map Prod.fst

/--
Operations that differ in their texts and in the code between the placeholders,
where code is declared in both or in neither and has the same placeholders.
-/
structure OperationDeclaration.SameButText (a b : OperationDeclaration) : Prop where
  opcode_eq : a.opcode = b.opcode
  shape_eq : a.shape = b.shape
  code_same : Option.Rel (fun s t => Placeholder.names s = Placeholder.names t) a.code b.code
  returns_eq : a.returns = b.returns
  allowDropAnywhere_eq : a.allowDropAnywhere = b.allowDropAnywhere
  reports_eq : a.reports = b.reports
  arguments_same : List.Forall₂ ArgumentDeclaration.SameButText a.arguments b.arguments

/-- Entries of one sort that differ in free text. -/
inductive Declaration.SameButText : Declaration → Declaration → Prop where
  | separator : SameButText .separator .separator
  | label (a b : String) : SameButText (.label a) (.label b)
  | operation {a b : OperationDeclaration} (h : a.SameButText b) :
      SameButText (.operation a) (.operation b)

/-- Configurations that differ in free text. -/
structure Configuration.SameButText (a b : Configuration) : Prop where
  extension_same : a.extension.SameButText b.extension
  blocks_same : List.Forall₂ Declaration.SameButText a.blocks b.blocks

private theorem rel_refl {α : Type} {R : α → α → Prop} (hR : ∀ a, R a a) (a : Option α) :
    Option.Rel R a a := by
  cases a with
  | none => exact .none
  | some a => exact .some (hR a)

private theorem OperationDeclaration.SameButText.refl (declared : OperationDeclaration) :
    declared.SameButText declared where
  opcode_eq := rfl
  shape_eq := rfl
  code_same := rel_refl (R := fun s t => Placeholder.names s = Placeholder.names t) (fun _ => rfl) _
  returns_eq := rfl
  allowDropAnywhere_eq := rfl
  reports_eq := rfl
  arguments_same := List.forall₂_same.2 fun _ _ => ⟨rfl, rfl, rel_refl .same _⟩

/-- An entry differs from itself in nothing. -/
theorem Declaration.SameButText.refl (declaration : Declaration) :
    declaration.SameButText declaration := by
  cases declaration with
  | separator => exact .separator
  | label text => exact .label text text
  | operation declared => exact .operation (.refl declared)

/-- A configuration differs from itself in nothing. -/
theorem Configuration.SameButText.refl (configuration : Configuration) :
    configuration.SameButText configuration :=
  ⟨⟨rfl, rfl, rfl⟩, List.forall₂_same.2 fun declaration _ => .refl declaration⟩

/-! ## Resolved blocks -/

/-- Arguments that differ in a default value that is a string. -/
structure Argument.SameButText (a b : Argument) : Prop where
  name_eq : a.name = b.name
  kind_eq : a.kind = b.kind
  id_eq : a.id = b.id
  default_same : Option.Rel Json.SameButText a.defaultValue b.defaultValue

/-- The identifiers in the substitutions of a template, in order. -/
def CodeTemplate.ids (template : CodeTemplate) : List String :=
  template.segments.filterMap fun
    | .literal _ => none
    | .argument id => some id

/-- A resolved operation whose names and code can stand in the script. -/
structure Operation.Sound (operation : Operation) : Prop where
  named : Resolution.Named operation.arguments
  coded : ∀ template, operation.code = some template → Coded operation template

/-- Resolved operations that differ in free text. -/
structure Operation.SameButText (a b : Operation) : Prop where
  opcode_eq : a.opcode = b.opcode
  shape_eq : a.shape = b.shape
  code_same : Option.Rel (fun s t => s.ids = t.ids) a.code b.code
  emitsCode_eq : a.emitsCode = b.emitsCode
  returns_eq : a.returns = b.returns
  allowDropAnywhere_eq : a.allowDropAnywhere = b.allowDropAnywhere
  report_eq : a.report = b.report
  arguments_same : List.Forall₂ Argument.SameButText a.arguments b.arguments
  sound_left : a.Sound
  sound_right : b.Sound

/-- Resolved entries of one sort that differ in free text. -/
inductive Block.SameButText : Block → Block → Prop where
  | separator : SameButText .separator .separator
  | label (a b : String) : SameButText (.label a) (.label b)
  | operation {a b : Operation} (h : a.SameButText b) : SameButText (.operation a) (.operation b)

namespace Resolution

/-! ## Operations in lockstep -/

/-- The same identifiers go to arguments that differ in free text. -/
theorem nameArguments_sameButText {declared others : List ArgumentDeclaration} {ids : List String}
    (h : List.Forall₂ ArgumentDeclaration.SameButText declared others) :
    List.Forall₂ Argument.SameButText (nameArguments declared ids) (nameArguments others ids) := by
  induction h generalizing ids with
  | nil => exact .nil
  | cons hFirst _ ih =>
      cases ids with
      | nil => exact .nil
      | cons id ids =>
          exact .cons ⟨hFirst.name_eq, hFirst.kind_eq, rfl, hFirst.default_same⟩ ih

/-- A name is bound to the same identifier among arguments that differ in free text. -/
theorem idOf?_eq {arguments others : List Argument}
    (h : List.Forall₂ Argument.SameButText arguments others) (name : String) :
    idOf? arguments name = idOf? others name := by
  induction h with
  | nil => rfl
  | cons hFirst _ ih =>
      unfold idOf? at ih ⊢
      rw [List.find?_cons, List.find?_cons, hFirst.name_eq]
      split
      · rw [Option.map_some, Option.map_some, hFirst.id_eq]
      · exact ih

/-- The substitutions of bound code are what its placeholders are bound to. -/
theorem ids_bound (arguments : List Argument) (code : String) :
    CodeTemplate.ids ⟨(Placeholder.scan code).map (bindSegment arguments)⟩ =
      (Placeholder.names code).map fun name => (idOf? arguments name).getD "" := by
  unfold Placeholder.names CodeTemplate.ids placeholders
  generalize Placeholder.scan code = segments
  induction segments with
  | nil => rfl
  | cons segment segments ih =>
      cases segment with
      | text value => exact ih
      | placeholder name column => exact congrArg (List.cons _) ih

theorem reportOf_eq {opcode : String} {arguments others : List Argument}
    (h : List.Forall₂ Argument.SameButText arguments others) (reports : Option String) :
    reportOf opcode arguments reports = reportOf opcode others reports := by
  unfold reportOf
  cases reports with
  | some name =>
      dsimp only
      rw [idOf?_eq h name]
  | none =>
      cases h with
      | nil => rfl
      | cons hFirst _ => exact congrArg (fun id => Except.ok (Report.argument id)) hFirst.id_eq

/-- Operations that resolve are sound. -/
theorem sound_of_resolves {declared : OperationDeclaration} {operation : Operation}
    (h : declared.Resolves operation) : operation.Sound := by
  refine ⟨h.named, ?_⟩
  intro template hTemplate
  have hEq := h.code_eq
  rw [hTemplate] at hEq
  obtain ⟨code, hCode, hBound⟩ := Option.map_eq_some_iff.1 hEq.symm
  rw [← hBound]
  exact coded_of_resolves h hCode

private theorem code_sameButText {declared other : OperationDeclaration} {a b : Operation}
    (h : declared.SameButText other) (hA : declared.Resolves a) (hB : other.Resolves b)
    (hArguments : List.Forall₂ Argument.SameButText a.arguments b.arguments) :
    Option.Rel (fun s t => CodeTemplate.ids s = CodeTemplate.ids t) a.code b.code := by
  have hSame := h.code_same
  rw [hA.code_eq, hB.code_eq]
  cases hCode : declared.code with
  | none =>
      rw [hCode] at hSame
      cases hOther : other.code with
      | none => exact .none
      | some _ =>
          rw [hOther] at hSame
          cases hSame
  | some code =>
      rw [hCode] at hSame
      cases hOther : other.code with
      | none =>
          rw [hOther] at hSame
          cases hSame
      | some otherCode =>
          rw [hOther] at hSame
          cases hSame with
          | some hNames =>
              refine .some ?_
              rw [ids_bound, ids_bound, hNames]
              simp only [idOf?_eq hArguments]

/-- Code is declared in both of two operations that differ in free text, or in neither. -/
private theorem emitsCode_eq {declared other : OperationDeclaration} {a b : Operation}
    (h : declared.SameButText other) (hDeclared : declared.WellFormed) (hOther : other.WellFormed)
    (hA : declared.Resolves a) (hB : other.Resolves b) : a.emitsCode = b.emitsCode := by
  have hSame := h.code_same
  rw [Bool.eq_iff_iff, emitsCode_iff hDeclared hA, emitsCode_iff hOther hB]
  generalize declared.code = code at hSame
  generalize other.code = otherCode at hSame
  cases hSame with
  | none => exact Iff.rfl
  | some _ => exact ⟨fun _ => ⟨_, rfl⟩, fun _ => ⟨_, rfl⟩⟩

/-- Operations that differ in free text and receive the same identifiers. -/
theorem operation_sameButText {declared other : OperationDeclaration} {a b : Operation}
    {ids : List String} (h : declared.SameButText other) (hDeclared : declared.WellFormed)
    (hOther : other.WellFormed) (hA : declared.Resolves a) (hB : other.Resolves b)
    (hNamedA : a.arguments = nameArguments declared.arguments ids)
    (hNamedB : b.arguments = nameArguments other.arguments ids) : a.SameButText b := by
  have hArguments : List.Forall₂ Argument.SameButText a.arguments b.arguments := by
    rw [hNamedA, hNamedB]
    exact nameArguments_sameButText h.arguments_same
  have hReport : (.ok a.report : Except Fault Report) = .ok b.report := by
    rw [← hA.report_eq, ← hB.report_eq, h.opcode_eq, h.reports_eq]
    exact reportOf_eq hArguments _
  exact
    { opcode_eq := by rw [hA.opcode_eq, hB.opcode_eq, h.opcode_eq]
      shape_eq := by rw [hA.shape_eq, hB.shape_eq, h.shape_eq]
      code_same := code_sameButText h hA hB hArguments
      emitsCode_eq := emitsCode_eq h hDeclared hOther hA hB
      returns_eq := by rw [hA.returns_eq, hB.returns_eq, h.returns_eq]
      allowDropAnywhere_eq := by
        rw [hA.allowDropAnywhere_eq, hB.allowDropAnywhere_eq, h.allowDropAnywhere_eq]
      report_eq := Except.ok.inj hReport
      arguments_same := hArguments
      sound_left := sound_of_resolves hA
      sound_right := sound_of_resolves hB }

/-! ## Palettes in lockstep -/

private theorem forall₂_of_resolveFrom_pair {position : Nat} {seen : List (String × Nat)}
    {naming : Naming} {declarations others : List Declaration} {first second : Resolution}
    (h : List.Forall₂ Declaration.SameButText declarations others)
    (hDeclarations : ∀ declaration ∈ declarations, declaration.WellFormed)
    (hOthers : ∀ declaration ∈ others, declaration.WellFormed)
    (hFirst : resolveFrom position seen naming declarations = .ok first)
    (hSecond : resolveFrom position seen naming others = .ok second) :
    List.Forall₂ Block.SameButText first.blocks second.blocks := by
  induction h generalizing position seen naming first second with
  | nil =>
      cases hFirst
      cases hSecond
      exact .nil
  | cons hEntry _ ih =>
      have hRest := fun declaration hMem => hDeclarations declaration (List.mem_cons_of_mem _ hMem)
      have hOtherRest := fun declaration hMem => hOthers declaration (List.mem_cons_of_mem _ hMem)
      cases hEntry with
      | separator =>
          rw [resolveFrom, map_eq_ok_iff] at hFirst hSecond
          obtain ⟨more, hMore, rfl⟩ := hFirst
          obtain ⟨otherMore, hOtherMore, rfl⟩ := hSecond
          exact .cons .separator (ih hRest hOtherRest hMore hOtherMore)
      | label text other =>
          rw [resolveFrom, map_eq_ok_iff] at hFirst hSecond
          obtain ⟨more, hMore, rfl⟩ := hFirst
          obtain ⟨otherMore, hOtherMore, rfl⟩ := hSecond
          exact .cons (.label text other) (ih hRest hOtherRest hMore hOtherMore)
      | @operation declared other hOperation =>
          obtain ⟨step⟩ := nonempty_operationStep hFirst
          obtain ⟨otherStep⟩ := nonempty_operationStep hSecond
          have hDeclared : declared.WellFormed := hDeclarations _ (List.mem_cons_self ..)
          have hOther : other.WellFormed := hOthers _ (List.mem_cons_self ..)
          have hTaken := step.taken
          rw [hOperation.opcode_eq, hOperation.arguments_same.length_eq, otherStep.taken] at hTaken
          obtain ⟨hIds, hNaming⟩ := Prod.mk.inj (Option.some.inj hTaken)
          have hMore := step.rest_resolved
          rw [hOperation.opcode_eq, ← hNaming] at hMore
          have hSame := operation_sameButText hOperation hDeclared hOther (step.resolves hDeclared)
            (otherStep.resolves hOther) (step.arguments_eq hDeclared)
            (by rw [otherStep.arguments_eq hOther, hIds])
          rw [step.resolution_eq, otherStep.resolution_eq]
          exact .cons (.operation hSame) (ih hRest hOtherRest hMore otherStep.rest_resolved)

/-- Two palettes that differ in free text resolve to blocks that differ in free text. -/
theorem forall₂_sameButText {naming : Naming} {declarations others : List Declaration}
    {first second : Resolution} (h : List.Forall₂ Declaration.SameButText declarations others)
    (hDeclarations : ∀ declaration ∈ declarations, declaration.WellFormed)
    (hOthers : ∀ declaration ∈ others, declaration.WellFormed)
    (hFirst : resolve naming declarations = .ok first)
    (hSecond : resolve naming others = .ok second) :
    List.Forall₂ Block.SameButText first.blocks second.blocks :=
  forall₂_of_resolveFrom_pair h hDeclarations hOthers hFirst hSecond

/-- Resolved blocks differ from themselves in nothing. -/
theorem forall₂_sameButText_self {naming : Naming} {declarations : List Declaration}
    {resolution : Resolution} (hDeclarations : ∀ declaration ∈ declarations, declaration.WellFormed)
    (h : resolve naming declarations = .ok resolution) :
    List.Forall₂ Block.SameButText resolution.blocks resolution.blocks :=
  forall₂_sameButText (List.forall₂_same.2 fun declaration _ => .refl declaration) hDeclarations
    hDeclarations h h

end Resolution

end BlockExtension
