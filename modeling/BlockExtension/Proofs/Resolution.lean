import BlockExtension.Proofs.Acceptance
import BlockExtension.Proofs.Naming
import BlockExtension.Proofs.Script.Literals
import BlockExtension.Resolution
import Mathlib.Data.List.Forall2

/-!
# What resolving yields

Resolving walks over the declarations of a palette and stops at the first fault.
When it comes to its end, every declaration has become a block. `Resolves` says
what that block has to do with the declaration, and it is all that the emitters
need to know about resolving: the fields are copied, the arguments have received
identifiers, and the code has its placeholders bound to them.

## Main results

* `forall₂_resolves`: declarations and resolved blocks correspond one by one.
* `nodup_opcodes`: no two operations of a resolved palette have one opcode.
* `separated_scan`: scanned code never has two literal stretches in a row.
-/

namespace BlockExtension

open BlockExtension.Script (isIdentifier)
open BlockExtension.Script.Lexer (Separated IsLiteral)

/-! ## Looking up by a key -/

/-- An item is the one that is found under its key, if no other item has that key. -/
theorem find?_eq_some_of_nodup {α κ : Type} [DecidableEq κ] {key : α → κ} {items : List α}
    (h : (items.map key).Nodup) {item : α} (hMem : item ∈ items) :
    items.find? (fun found => key found = key item) = some item := by
  induction items with
  | nil => cases hMem
  | cons first rest ih =>
      rw [List.map_cons, List.nodup_cons] at h
      rcases List.mem_cons.1 hMem with rfl | hMem
      · rw [List.find?_cons_of_pos (by simp)]
      · have hOther : key first ≠ key item := by
          intro hSame
          exact h.1 (hSame ▸ List.mem_map_of_mem hMem)
        rw [List.find?_cons_of_neg (by simpa using hOther), ih h.2 hMem]

/-! ## Scanned text -/

namespace Placeholder

/-- Segments with a placeholder in front, if there are any. -/
private def BeginsBound (segments : List Segment) : Prop :=
  ∀ segment ∈ segments.head?, ∃ name column, segment = .placeholder name column

/-- No two stretches of text stand next to each other. -/
def Alternating (segments : List Segment) : Prop :=
  segments.IsChain fun a b => ¬ ((∃ s, a = .text s) ∧ ∃ t, b = .text t)

private theorem alternating_flush_append {pending : List Char} {segments : List Segment}
    (hBegins : BeginsBound segments) (h : Alternating segments) :
    Alternating (flush pending ++ segments) := by
  unfold flush
  split
  · exact h
  · cases segments with
    | nil => exact List.IsChain.singleton _
    | cons segment segments =>
        refine List.IsChain.cons_cons ?_ h
        obtain ⟨name, column, hEq⟩ := hBegins segment rfl
        rintro ⟨_, t, ht⟩
        rw [hEq] at ht
        cases ht

/-- In front of a scan that starts without pending text, a placeholder may stand. -/
private theorem alternating_cons {name : String} {column : Nat} {segments : List Segment}
    (h : Alternating segments) : Alternating (.placeholder name column :: segments) := by
  cases segments with
  | nil => exact List.IsChain.singleton _
  | cons segment segments =>
      refine List.IsChain.cons_cons ?_ h
      rintro ⟨⟨s, hs⟩, _⟩
      cases hs

/-- Scanning never yields two stretches of text in a row. -/
theorem alternating_scanFrom (column : Nat) (pending text : List Char) :
    Alternating (scanFrom column pending text) := by
  fun_induction scanFrom column pending text with
  | case1 column pending =>
      have hBegins : BeginsBound [] := by simp [BeginsBound]
      have hFlush : Alternating (flush pending ++ []) :=
        alternating_flush_append hBegins List.IsChain.nil
      rwa [List.append_nil] at hFlush
  | case2 column pending rest name rest' h ih =>
      refine alternating_flush_append ?_ (alternating_cons ih)
      intro segment hSegment
      cases hSegment
      exact ⟨_, _, rfl⟩
  | case3 column pending rest h ih => exact ih
  | case4 column pending c rest h ih => exact ih

/-- A scanned placeholder is an identifier. -/
theorem isIdentifier_of_mem_scanFrom {column : Nat} {pending text : List Char} {name : String}
    {at_ : Nat} (h : .placeholder name at_ ∈ scanFrom column pending text) :
    isIdentifier name := by
  have hFlush : ∀ pending, Segment.placeholder name at_ ∉ flush pending := by
    intro pending hMem
    unfold flush at hMem
    split at hMem <;> simp at hMem
  fun_induction scanFrom column pending text with
  | case1 column pending => exact absurd h (hFlush pending)
  | case2 column pending rest found rest' hRead ih =>
      rcases List.mem_append.1 h with h | h
      · exact absurd h (hFlush pending)
      · rcases List.mem_cons.1 h with h | h
        · cases h
          simpa [isIdentifier] using (eq_of_readName hRead).2
        · exact ih h
  | case3 column pending rest hRead ih => exact ih h
  | case4 column pending c rest hOpen ih => exact ih h

end Placeholder

namespace Resolution

/-- Binding placeholders leaves no two literal stretches next to each other. -/
theorem separated_scan (arguments : List Argument) (code : String) :
    Separated ((Placeholder.scan code).map (bindSegment arguments)) := by
  have hScan := Placeholder.alternating_scanFrom 1 [] code.toList
  have hText : ∀ segment, IsLiteral (bindSegment arguments segment) →
      ∃ t, segment = .text t := by
    intro segment h
    cases segment with
    | text t => exact ⟨t, rfl⟩
    | placeholder name column => exact h.elim
  rw [Separated, List.isChain_map]
  exact hScan.imp fun a b h hBoth => h ⟨hText a hBoth.1, hText b hBoth.2⟩

/-! ## Arguments with identifiers -/

def declarationOf (argument : Argument) : ArgumentDeclaration :=
  ⟨argument.name, argument.kind, argument.defaultValue⟩

/-- Arguments whose names and identifiers can stand in the script and tell them apart. -/
structure Named (arguments : List Argument) : Prop where
  names_nodup : (arguments.map (·.name)).Nodup
  ids_nodup : (arguments.map (·.id)).Nodup
  isIdentifier_id : ∀ argument ∈ arguments, isIdentifier argument.id
  wellFormed : ∀ argument ∈ arguments, (declarationOf argument).WellFormed

private theorem map_nameArguments {declared : List ArgumentDeclaration} {ids : List String}
    (h : ids.length = declared.length) :
    (nameArguments declared ids).map declarationOf = declared ∧
      (nameArguments declared ids).map (·.id) = ids := by
  induction declared generalizing ids with
  | nil =>
      rw [List.length_nil, List.length_eq_zero_iff] at h
      subst h
      exact ⟨rfl, rfl⟩
  | cons argument declared ih =>
      cases ids with
      | nil => cases h
      | cons id ids =>
          obtain ⟨hDeclared, hIds⟩ := @ih ids (by simpa using h)
          refine ⟨?_, ?_⟩
          · rw [nameArguments, List.zipWith_cons_cons, List.map_cons]
            exact congrArg (argument :: ·) hDeclared
          · rw [nameArguments, List.zipWith_cons_cons, List.map_cons]
            exact congrArg (id :: ·) hIds

theorem map_declarationOf {declared : List ArgumentDeclaration} {ids : List String}
    (h : ids.length = declared.length) :
    (nameArguments declared ids).map declarationOf = declared := (map_nameArguments h).1

theorem map_id_nameArguments {declared : List ArgumentDeclaration} {ids : List String}
    (h : ids.length = declared.length) :
    (nameArguments declared ids).map (·.id) = ids := (map_nameArguments h).2

/-- Nothing is repeated exactly if the names are all different, and from the earlier ones too. -/
theorem firstRepeated?_eq_none_iff {earlier names : List String} :
    firstRepeated? earlier names = none ↔ names.Nodup ∧ ∀ name ∈ names, name ∉ earlier := by
  induction names generalizing earlier with
  | nil => simp [firstRepeated?]
  | cons name names ih =>
      simp only [firstRepeated?, List.nodup_cons, List.forall_mem_cons]
      split
      · next hEarlier => simp [hEarlier]
      · next hNew =>
          rw [ih]
          constructor
          · rintro ⟨hNodup, hFresh⟩
            exact ⟨⟨fun hMem => hFresh name hMem (List.mem_cons_self ..), hNodup⟩, hNew,
              fun other hMem hEarlier => hFresh other hMem (List.mem_cons_of_mem _ hEarlier)⟩
          · rintro ⟨⟨hHead, hNodup⟩, _, hFresh⟩
            refine ⟨hNodup, fun other hMem hEarlier => ?_⟩
            rcases List.mem_cons.1 hEarlier with rfl | hEarlier
            · exact hHead hMem
            · exact hFresh other hMem hEarlier

/-- Arguments pass the check if their names are all different. -/
theorem checkArguments_eq_ok_iff {declared : OperationDeclaration} {done : Unit} :
    checkArguments declared = .ok done ↔ (declared.arguments.map (·.name)).Nodup := by
  have hNone : firstRepeated? [] (declared.arguments.map (·.name)) = none ↔
      (declared.arguments.map (·.name)).Nodup := by simp [firstRepeated?_eq_none_iff]
  rw [← hNone]
  unfold checkArguments
  cases firstRepeated? [] (declared.arguments.map (·.name)) <;> simp

/-- An operation without repeated names whose arguments receive identifiers. -/
theorem named_nameArguments {declared : OperationDeclaration} {naming after : Naming}
    {ids : List String} (hWellFormed : declared.WellFormed)
    (hChecked : checkArguments declared = .ok ())
    (hTake : naming.take declared.opcode 1 declared.arguments.length = some (ids, after)) :
    Named (nameArguments declared.arguments ids) := by
  obtain ⟨hDeclared, hIds⟩ := map_nameArguments (Naming.length_of_take hTake)
  have hNames : (nameArguments declared.arguments ids).map (·.name) =
      declared.arguments.map (·.name) := by
    conv_rhs => rw [← hDeclared]
    rw [List.map_map]
    rfl
  refine
    { names_nodup := ?_
      ids_nodup := ?_
      isIdentifier_id := ?_
      wellFormed := ?_ }
  · rw [hNames]
    exact checkArguments_eq_ok_iff.1 hChecked
  · rw [hIds]
    exact Naming.nodup_of_take hTake
  · intro argument hMem
    have hId : argument.id ∈ ids := by
      rw [← hIds]
      exact List.mem_map_of_mem hMem
    exact Naming.isIdentifier_of_take hWellFormed.opcode_isIdentifier hTake _ hId
  · intro argument hMem
    have hMemDeclared : declarationOf argument ∈ declared.arguments := by
      rw [← hDeclared]
      exact List.mem_map_of_mem hMem
    exact hWellFormed.arguments_wellFormed _ hMemDeclared

/-- What a name is bound to is the identifier of an argument with that name. -/
theorem exists_of_idOf? {arguments : List Argument} {name id : String}
    (h : idOf? arguments name = some id) :
    ∃ argument ∈ arguments, argument.name = name ∧ argument.id = id := by
  rw [idOf?, Option.map_eq_some_iff] at h
  obtain ⟨argument, hFind, hId⟩ := h
  exact ⟨argument, List.mem_of_find?_eq_some hFind, by simpa using List.find?_some hFind, hId⟩

/-- Code that passes the check has every placeholder bound. -/
theorem exists_id_of_checkPlaceholders {opcode : String} {field : PlaceholderField}
    {arguments : List Argument} {segments : List Segment}
    (h : checkPlaceholders opcode field arguments segments = .ok ()) {name : String}
    {column : Nat} (hMem : .placeholder name column ∈ segments) :
    ∃ id, idOf? arguments name = some id := by
  unfold checkPlaceholders at h
  split at h
  · cases h
  · next hNone =>
      have hAll := List.find?_eq_none.1 hNone (name, column) ((placeholders_scan ..).2 hMem)
      cases hId : idOf? arguments name with
      | none => simp [hId] at hAll
      | some id => exact ⟨id, rfl⟩

end Resolution

/-! ## Operations -/

/--
What a resolved operation has to do with its declaration. Everything else that is proved of
resolved operations follows from this.
-/
structure OperationDeclaration.Resolves (declared : OperationDeclaration)
    (operation : Operation) : Prop where
  opcode_eq : operation.opcode = declared.opcode
  shape_eq : operation.shape = declared.shape
  text_eq : operation.text = declared.text
  returns_eq : operation.returns = declared.returns
  allowDropAnywhere_eq : operation.allowDropAnywhere = declared.allowDropAnywhere
  arguments_eq : operation.arguments.map Resolution.declarationOf = declared.arguments
  named : Resolution.Named operation.arguments
  code_eq : operation.code = declared.code.map fun code =>
    ⟨(Placeholder.scan code).map (Resolution.bindSegment operation.arguments)⟩
  code_bound : ∀ code, declared.code = some code → ∀ name column,
    .placeholder name column ∈ Placeholder.scan code →
      ∃ id, Resolution.idOf? operation.arguments name = some id
  report_eq :
    Resolution.reportOf declared.opcode operation.arguments declared.reports = .ok operation.report

namespace Resolution

/-- Code that resolves has every placeholder bound, and is the bound code. -/
theorem resolveCode_eq_ok {opcode code : String} {arguments : List Argument}
    {template : CodeTemplate} (h : resolveCode opcode arguments code = .ok template) :
    template = ⟨(Placeholder.scan code).map (bindSegment arguments)⟩ ∧
      ∀ name column, .placeholder name column ∈ Placeholder.scan code →
        ∃ id, idOf? arguments name = some id := by
  rw [resolveCode, map_eq_ok_iff] at h
  obtain ⟨_, hCheck, hTemplate⟩ := h
  exact ⟨hTemplate.symm, fun _ _ hMem => exists_id_of_checkPlaceholders hCheck hMem⟩

/-- The code of an operation with its placeholders bound, if there is any. -/
def boundCode (declared : OperationDeclaration) (arguments : List Argument) :
    Except Fault (Option CodeTemplate) :=
  match declared.code with
  | some code => (resolveCode declared.opcode arguments code).map some
  | none => .ok none

/-- The steps that can fail when an operation is resolved. -/
theorem resolveOperation_eq (declared : OperationDeclaration) (ids : List String) :
    resolveOperation declared ids = (do
      let arguments := nameArguments declared.arguments ids
      checkPlaceholders declared.opcode .text arguments (Placeholder.scan declared.text)
      let code ← boundCode declared arguments
      let report ← reportOf declared.opcode arguments declared.reports
      return (⟨declared.opcode, declared.shape, declared.text, code, declared.returns,
          declared.allowDropAnywhere, report, arguments⟩,
        notShown declared.opcode arguments (Placeholder.scan declared.text))) := by
  unfold resolveOperation boundCode
  cases declared.code <;> rfl

/--
An operation that resolves is its declaration with the arguments named and the code bound.
That the names are different is known from the check before it.
-/
theorem resolves_of_resolveOperation {declared : OperationDeclaration} {ids : List String}
    {operation : Operation} {warnings : List Warning}
    (hLength : ids.length = declared.arguments.length)
    (hNamed : Named (nameArguments declared.arguments ids))
    (h : resolveOperation declared ids = .ok (operation, warnings)) :
    declared.Resolves operation ∧ operation.arguments = nameArguments declared.arguments ids ∧
      warnings = notShown declared.opcode operation.arguments (Placeholder.scan declared.text) := by
  simp only [resolveOperation, bind_eq_ok_iff] at h
  obtain ⟨_, _, h⟩ := h
  cases hCode : declared.code with
  | none =>
      rw [hCode] at h
      simp only [bind_eq_ok_iff] at h
      obtain ⟨code, hNone, report, hReport, h⟩ := h
      cases hNone
      cases h
      exact ⟨⟨rfl, rfl, rfl, rfl, rfl, map_declarationOf hLength, hNamed, by rw [hCode]; rfl,
        by simp [hCode], hReport⟩, rfl, rfl⟩
  | some text =>
      rw [hCode] at h
      simp only [bind_eq_ok_iff] at h
      obtain ⟨code, hSome, report, hReport, h⟩ := h
      rw [map_eq_ok_iff] at hSome
      obtain ⟨template, hTemplate, rfl⟩ := hSome
      obtain ⟨hEq, hBound⟩ := resolveCode_eq_ok hTemplate
      cases h
      refine ⟨⟨rfl, rfl, rfl, rfl, rfl, map_declarationOf hLength, hNamed, ?_, ?_, hReport⟩,
        rfl, rfl⟩
      · rw [hCode, hEq]
        rfl
      · intro code hSame
        rw [hCode, Option.some.injEq] at hSame
        rw [← hSame]
        exact hBound

end Resolution

/-- The name of the argument that a block shows, if it shows one. -/
def OperationDeclaration.reportedName? (declared : OperationDeclaration) : Option String :=
  declared.reports <|> declared.arguments.head?.map (·.name)

namespace Resolution

section Reported

variable {declared : OperationDeclaration} {operation : Operation}

/-- A reported identifier is that of an argument, the one that the declaration asks for. -/
theorem report_argument (h : declared.Resolves operation) {id : String}
    (hReport : operation.report = .argument id) :
    ∃ argument ∈ operation.arguments, argument.id = id ∧
      declared.reportedName? = some argument.name := by
  have hEq := h.report_eq
  unfold reportOf at hEq
  rw [hReport] at hEq
  cases hAsked : declared.reports with
  | some name =>
      rw [hAsked] at hEq
      dsimp only at hEq
      split at hEq
      · next found hFound =>
          cases hEq
          obtain ⟨argument, hMem, hName, hId⟩ := exists_of_idOf? hFound
          refine ⟨argument, hMem, hId, ?_⟩
          rw [OperationDeclaration.reportedName?, hAsked, hName]
          rfl
      · cases hEq
  | none =>
      rw [hAsked] at hEq
      cases hArguments : operation.arguments with
      | nil => simp [hArguments] at hEq
      | cons first rest =>
          rw [hArguments] at hEq
          cases hEq
          refine ⟨first, List.mem_cons_self .., rfl, ?_⟩
          rw [OperationDeclaration.reportedName?, hAsked, ← h.arguments_eq, hArguments]
          rfl

/-- An operation that reports no argument has none, and its declaration asks for none. -/
theorem report_expression (h : declared.Resolves operation)
    (hReport : operation.report = .expression) : declared.reportedName? = none := by
  have hEq := h.report_eq
  unfold reportOf at hEq
  rw [hReport] at hEq
  cases hAsked : declared.reports with
  | some name =>
      rw [hAsked] at hEq
      dsimp only at hEq
      split at hEq <;> cases hEq
  | none =>
      rw [hAsked] at hEq
      cases hArguments : operation.arguments with
      | nil =>
          rw [OperationDeclaration.reportedName?, hAsked, ← h.arguments_eq, hArguments]
          rfl
      | cons first rest =>
          rw [hArguments] at hEq
          cases hEq

end Reported

end Resolution

/-! ## Palettes -/

/-- What a resolved block has to do with its declaration. -/
inductive Declaration.Resolves : Declaration → Block → Prop where
  | separator : Resolves .separator .separator
  | label (text : String) : Resolves (.label text) (.label text)
  | operation {declared : OperationDeclaration} {operation : Operation}
      (h : declared.Resolves operation) : Resolves (.operation declared) (.operation operation)

namespace Resolution

/--
What it takes that an operation and all that follows it resolve: the checks that it passes,
the identifiers that it takes, and what is left to resolve.
-/
structure OperationStep (position : Nat) (seen : List (String × Nat)) (naming : Naming)
    (declared : OperationDeclaration) (rest : List Declaration) (resolution : Resolution) where
  ids : List String
  naming' : Naming
  operation : Operation
  warnings : List Warning
  more : Resolution
  opcode_new : declared.opcode ∉ seen.map Prod.fst
  names_checked : checkArguments declared = .ok ()
  taken : naming.take declared.opcode 1 declared.arguments.length = some (ids, naming')
  resolved : resolveOperation declared ids = .ok (operation, warnings)
  rest_resolved :
    resolveFrom (position + 1) ((declared.opcode, position) :: seen) naming' rest = .ok more
  resolution_eq : resolution = cons (.operation operation) warnings more

/-- An opcode passes the check if it is not among those met before. -/
theorem checkOpcode_eq_ok_iff {seen : List (String × Nat)} {opcode : String} {position : Nat}
    {done : Unit} :
    checkOpcode seen opcode position = .ok done ↔ opcode ∉ seen.map Prod.fst := by
  have hLookup : seen.lookup opcode = none ↔ opcode ∉ seen.map Prod.fst := by
    rw [List.lookup_eq_none_iff, List.mem_map]
    constructor
    · rintro hNone ⟨entry, hEntry, rfl⟩
      simpa using hNone entry hEntry
    · rintro hNew entry hEntry
      simpa using fun hSame : opcode = entry.1 => hNew ⟨entry, hEntry, hSame.symm⟩
  rw [← hLookup]
  unfold checkOpcode
  cases seen.lookup opcode <;> simp

theorem mapError_eq_ok_iff {ε ε' α : Type} {first : Except ε α} {f : ε → ε'} {result : α} :
    first.mapError f = .ok result ↔ first = .ok result := by
  cases first <;> simp [Except.mapError]

/-- An operation in front resolves only together with all that follows it. -/
theorem nonempty_operationStep {position : Nat} {seen : List (String × Nat)} {naming : Naming}
    {declared : OperationDeclaration} {rest : List Declaration} {resolution : Resolution}
    (h : resolveFrom position seen naming (.operation declared :: rest) = .ok resolution) :
    Nonempty (OperationStep position seen naming declared rest resolution) := by
  simp only [resolveFrom, bind_eq_ok_iff, mapError_eq_ok_iff] at h
  obtain ⟨_, hOpcode, _, hArguments, h⟩ := h
  split at h
  · cases h
  · next ids naming' hTake =>
      simp only [bind_eq_ok_iff, mapError_eq_ok_iff] at h
      obtain ⟨⟨operation, warnings⟩, hOperation, more, hMore, h⟩ := h
      cases h
      exact ⟨⟨ids, naming', operation, warnings, more, checkOpcode_eq_ok_iff.1 hOpcode, hArguments,
        hTake, hOperation, hMore, rfl⟩⟩

section OperationStep

variable {position : Nat} {seen : List (String × Nat)} {naming : Naming}
  {declared : OperationDeclaration} {rest : List Declaration} {resolution : Resolution}

private theorem OperationStep.resolves_and_arguments_eq
    (step : OperationStep position seen naming declared rest resolution)
    (hWellFormed : declared.WellFormed) :
    declared.Resolves step.operation ∧
      step.operation.arguments = nameArguments declared.arguments step.ids := by
  have hNamed := named_nameArguments hWellFormed step.names_checked step.taken
  obtain ⟨hResolves, hArguments, _⟩ :=
    resolves_of_resolveOperation (Naming.length_of_take step.taken) hNamed step.resolved
  exact ⟨hResolves, hArguments⟩

theorem OperationStep.resolves (step : OperationStep position seen naming declared rest resolution)
    (hWellFormed : declared.WellFormed) : declared.Resolves step.operation :=
  (step.resolves_and_arguments_eq hWellFormed).1

/-- The arguments of a resolved operation are those declared, with the identifiers taken. -/
theorem OperationStep.arguments_eq
    (step : OperationStep position seen naming declared rest resolution)
    (hWellFormed : declared.WellFormed) :
    step.operation.arguments = nameArguments declared.arguments step.ids :=
  (step.resolves_and_arguments_eq hWellFormed).2

end OperationStep

/-- Declarations and resolved blocks correspond one by one, from any position on. -/
theorem forall₂_of_resolveFrom {position : Nat} {seen : List (String × Nat)} {naming : Naming}
    {declarations : List Declaration} {resolution : Resolution}
    (hWellFormed : ∀ declaration ∈ declarations, declaration.WellFormed)
    (h : resolveFrom position seen naming declarations = .ok resolution) :
    List.Forall₂ Declaration.Resolves declarations resolution.blocks := by
  induction declarations generalizing position seen naming resolution with
  | nil =>
      cases h
      exact .nil
  | cons declaration rest ih =>
      have hRest : ∀ declaration ∈ rest, declaration.WellFormed := fun declaration hMem =>
        hWellFormed declaration (List.mem_cons_of_mem _ hMem)
      cases declaration with
      | separator =>
          rw [resolveFrom, map_eq_ok_iff] at h
          obtain ⟨more, hMore, rfl⟩ := h
          exact .cons .separator (ih hRest hMore)
      | label text =>
          rw [resolveFrom, map_eq_ok_iff] at h
          obtain ⟨more, hMore, rfl⟩ := h
          exact .cons (.label text) (ih hRest hMore)
      | operation declared =>
          obtain ⟨step⟩ := nonempty_operationStep h
          have hDeclared : declared.WellFormed := hWellFormed _ (List.mem_cons_self ..)
          rw [step.resolution_eq]
          exact .cons (.operation (step.resolves hDeclared)) (ih hRest step.rest_resolved)

def opcodes (declarations : List Declaration) : List String :=
  declarations.filterMap fun
    | .operation declared => some declared.opcode
    | _ => none

/-- What resolves has no opcode twice, nor one that was seen before. -/
theorem nodup_opcodes_of_resolveFrom {position : Nat} {seen : List (String × Nat)}
    {naming : Naming} {declarations : List Declaration} {resolution : Resolution}
    (h : resolveFrom position seen naming declarations = .ok resolution) :
    (opcodes declarations).Nodup ∧ ∀ opcode ∈ opcodes declarations,
      opcode ∉ seen.map Prod.fst := by
  induction declarations generalizing position seen naming resolution with
  | nil => simp [opcodes]
  | cons declaration rest ih =>
      cases declaration with
      | separator =>
          rw [resolveFrom, map_eq_ok_iff] at h
          obtain ⟨more, hMore, _⟩ := h
          exact ih hMore
      | label text =>
          rw [resolveFrom, map_eq_ok_iff] at h
          obtain ⟨more, hMore, _⟩ := h
          exact ih hMore
      | operation declared =>
          obtain ⟨step⟩ := nonempty_operationStep h
          obtain ⟨hNodup, hFresh⟩ := ih step.rest_resolved
          rw [show opcodes (.operation declared :: rest) = declared.opcode :: opcodes rest from rfl]
          have hHead : declared.opcode ∉ opcodes rest := fun hMem =>
            hFresh _ hMem (List.mem_cons_self ..)
          refine ⟨List.nodup_cons.2 ⟨hHead, hNodup⟩, ?_⟩
          intro opcode hMem
          rcases List.mem_cons.1 hMem with rfl | hMem
          · exact step.opcode_new
          · exact fun hSeen => hFresh opcode hMem (List.mem_cons_of_mem _ hSeen)

/-- Declarations and resolved blocks correspond one by one. -/
theorem forall₂_resolves {naming : Naming} {declarations : List Declaration}
    {resolution : Resolution}
    (hWellFormed : ∀ declaration ∈ declarations, declaration.WellFormed)
    (h : resolve naming declarations = .ok resolution) :
    List.Forall₂ Declaration.Resolves declarations resolution.blocks :=
  forall₂_of_resolveFrom hWellFormed h

/-- Every declared operation has become an operation of the resolved palette. -/
theorem exists_operation {declarations : List Declaration} {blocks : List Block}
    (h : List.Forall₂ Declaration.Resolves declarations blocks) {declared : OperationDeclaration}
    (hMem : .operation declared ∈ declarations) :
    ∃ operation, .operation operation ∈ blocks ∧ declared.Resolves operation := by
  induction h with
  | nil => cases hMem
  | @cons declaration block declarations blocks hFirst _ ih =>
      rcases List.mem_cons.1 hMem with rfl | hMem
      · cases hFirst with
        | @operation _ operation hOperation =>
            exact ⟨operation, List.mem_cons_self .., hOperation⟩
      · obtain ⟨operation, hIn, hOperation⟩ := ih hMem
        exact ⟨operation, List.mem_cons_of_mem _ hIn, hOperation⟩

/-- The operation at an index has become the operation at that index of the resolved palette. -/
theorem exists_operation_at {declarations : List Declaration} {blocks : List Block}
    (h : List.Forall₂ Declaration.Resolves declarations blocks) {index : Nat}
    {declared : OperationDeclaration}
    (hAt : declarations[index]? = some (.operation declared)) :
    ∃ operation, blocks[index]? = some (.operation operation) ∧ declared.Resolves operation := by
  induction h generalizing index with
  | nil => cases hAt
  | @cons declaration block declarations blocks hFirst _ ih =>
      cases index with
      | zero =>
          cases hAt
          cases hFirst with
          | operation hOperation => exact ⟨_, rfl, hOperation⟩
      | succ index => exact ih hAt

/-- Every operation of a resolved palette was declared. -/
theorem exists_declared {declarations : List Declaration} {blocks : List Block}
    (h : List.Forall₂ Declaration.Resolves declarations blocks) {operation : Operation}
    (hMem : .operation operation ∈ blocks) :
    ∃ declared, .operation declared ∈ declarations ∧ declared.Resolves operation := by
  induction h with
  | nil => cases hMem
  | @cons declaration block declarations blocks hFirst _ ih =>
      rcases List.mem_cons.1 hMem with rfl | hMem
      · cases hFirst with
        | @operation declared _ hOperation =>
            exact ⟨declared, List.mem_cons_self .., hOperation⟩
      · obtain ⟨declared, hIn, hOperation⟩ := ih hMem
        exact ⟨declared, List.mem_cons_of_mem _ hIn, hOperation⟩

/-- The opcodes of resolved operations are those that were declared. -/
theorem opcodes_operations {declarations : List Declaration} {blocks : List Block}
    (h : List.Forall₂ Declaration.Resolves declarations blocks) :
    (blocks.filterMap Block.operation?).map (·.opcode) = opcodes declarations := by
  induction h with
  | nil => rfl
  | cons hFirst _ ih =>
      cases hFirst with
      | separator => exact ih
      | label text => exact ih
      | operation hOperation =>
          exact congrArg₂ List.cons hOperation.opcode_eq ih

/-- No two operations of a palette that resolves have one opcode. -/
theorem nodup_opcodes {naming : Naming} {declarations : List Declaration}
    {resolution : Resolution} (h : resolve naming declarations = .ok resolution) :
    (opcodes declarations).Nodup := (nodup_opcodes_of_resolveFrom h).1

/-! ## Operations that emit code -/

/-- Code that is not empty is scanned into segments that are not all empty. -/
private theorem any_of_scan {arguments : List Argument} {code : String} (h : code ≠ "") :
    CodeTemplate.isEmpty ⟨(Placeholder.scan code).map (bindSegment arguments)⟩ = false := by
  rw [Bool.eq_false_iff]
  intro hEmpty
  have hSource := Placeholder.source_scanFrom 1 [] code.toList
  have hNil : (Placeholder.scan code).flatMap Segment.source = [] := by
    rw [List.flatMap_eq_nil_iff]
    intro segment hMem
    simp only [CodeTemplate.isEmpty, List.all_map, List.all_eq_true] at hEmpty
    have hSegment := hEmpty segment hMem
    cases segment with
    | text value => simpa [Segment.source, bindSegment] using hSegment
    | placeholder name column => simp [bindSegment] at hSegment
  rw [Placeholder.scan, hSource] at hNil
  exact h (by simpa using hNil)

/-- An operation emits code exactly when it was declared with code. -/
theorem emitsCode_iff {declared : OperationDeclaration} {operation : Operation}
    (hWellFormed : declared.WellFormed) (h : declared.Resolves operation) :
    operation.emitsCode ↔ ∃ code, declared.code = some code := by
  rw [Operation.emitsCode, h.code_eq]
  cases hCode : declared.code with
  | none => simp
  | some code => simp [any_of_scan (hWellFormed.code_ne_empty code hCode)]

end Resolution

end BlockExtension
