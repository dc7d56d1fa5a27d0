import BlockExtension.Proofs.Renaming

/-!
# What a palette is mapped to

Resolving builds its answer on the way: a table of identifiers, a set of names that
the text has shown, a list of warnings that grows. None of these can be seen in the
answer. `ReferenceMapping` says what the answer is with the declarations alone: a
block for every entry, made of what the entry says, and a warning for every argument
that its text does not show.

Under the ordinal policy nothing checks that an identifier is new. That no two of
them are the same follows from how they are written: a counted name tells its opcode
and its number, and no opcode is declared twice.

## Main results

* `resolve_ordinal_ids`: the identifiers of a whole palette are all different.
* `Resolution.ReferenceMapping.unique`: declarations have one reference mapping at most.
* `resolve_ordinal_reference`: what a palette resolves to is its reference mapping.
-/

namespace BlockExtension

open BlockExtension.Script (isIdentifier)

/-! ## Identifiers -/

open Resolution in
/--
The arguments of a palette are numbered operation by operation, no two of all these
identifiers are the same, and they are identifiers of the script if the opcodes are.
-/
theorem resolve_ordinal_ids {declarations : List Declaration} {resolution : Resolution}
    (h : resolve .ordinal declarations = .ok resolution) :
    resolution.ids = declarations.flatMap Declaration.ordinalIds ∧
      resolution.ids.Nodup ∧
      ((∀ opcode ∈ opcodes declarations, isIdentifier opcode) →
        ∀ id ∈ resolution.ids, isIdentifier id) := by
  obtain ⟨hOpcodes, pieces, ⟨each, hEach, hPieces⟩, rfl⟩ := resolve_eq_ok_iff.1 h
  cases (takeEach_ordinal declarations).symm.trans hEach
  have hIds : (ofPieces pieces).ids = declarations.flatMap Declaration.ordinalIds :=
    ids_ofPieces (Naming.map_length_takeEach hEach) hPieces
  rw [hIds]
  refine ⟨rfl, nodup_ordinalIds hOpcodes, fun hIdentifiers id hMem => ?_⟩
  obtain ⟨declaration, hDeclaration, hId⟩ := List.mem_flatMap.1 hMem
  obtain ⟨declared, ordinal, rfl, rfl⟩ := Declaration.mem_ordinalIds hId
  exact Naming.isIdentifier_ordinalId
    (hIdentifiers _ (List.mem_filterMap.2 ⟨_, hDeclaration, rfl⟩)) ordinal

/-- Operations whose opcodes look like the identifiers of one another's arguments. -/
def lookalikes : List Declaration :=
  ["a", "a_arg1", "a_arg1_arg1"].map fun opcode =>
    .operation ⟨opcode, .command, "do [x] [y]", none, none, false, none,
      [⟨"x", .string, none⟩, ⟨"y", .string, none⟩]⟩

/-- An opcode that is the identifier of an argument does not lead to that identifier again. -/
theorem resolve_ordinal_ids_lookalikes :
    ∃ resolution, resolve .ordinal lookalikes = .ok resolution ∧
      resolution.ids = ["a_arg1", "a_arg2", "a_arg1_arg1", "a_arg1_arg2", "a_arg1_arg1_arg1",
        "a_arg1_arg1_arg2"] ∧
      resolution.ids.Nodup ∧ ∀ id ∈ resolution.ids, isIdentifier id := by
  have hResolve : ∃ resolution, resolve .ordinal lookalikes = .ok resolution := ⟨_, by cbv⟩
  obtain ⟨resolution, hResolution⟩ := hResolve
  obtain ⟨hIds, hNodup, hIdentifiers⟩ := resolve_ordinal_ids hResolution
  refine ⟨resolution, hResolution, ?_, hNodup, hIdentifiers (by decide +kernel)⟩
  rw [hIds]
  decide +kernel

/-! ## Shown arguments -/

/-- A text shows an argument if its name is one of the placeholders. -/
def Placeholder.Shows (text name : String) : Prop :=
  ∃ column, .placeholder name column ∈ Placeholder.scan text

open Resolution in
/-- An argument is shown if its name is among those that are looked up. -/
theorem Placeholder.shows_iff {text name : String} :
    Placeholder.Shows text name ↔ name ∈ (placeholders (scan text)).map Prod.fst := by
  simp only [Shows, List.mem_map, Prod.exists, placeholders_scan]
  constructor
  · rintro ⟨column, hMem⟩
    exact ⟨name, column, hMem, rfl⟩
  · rintro ⟨_, column, hMem, rfl⟩
    exact ⟨column, hMem⟩

instance (text name : String) : Decidable (Placeholder.Shows text name) :=
  decidable_of_iff _ Placeholder.shows_iff.symm

/-- The warnings about an entry: one for each argument that the text does not show. -/
def Declaration.warnings : Declaration → List Warning
  | .operation declared =>
      (declared.names.filter fun name => ¬ Placeholder.Shows declared.text name).map fun name =>
        .argumentNotShown name declared.opcode
  | _ => []

/-! ## The reference -/

namespace OperationDeclaration

/--
What a block shows when it is clicked, by the declaration: an argument that is asked for,
else the first argument, else the value of the code.
-/
structure Reported (declared : OperationDeclaration) (arguments : List Argument)
    (report : Report) : Prop where
  /-- An argument that the declaration asks for is shown. -/
  named : ∀ name, declared.reports = some name →
    ∃ argument ∈ arguments, argument.name = name ∧ report = .argument argument.id
  /-- If it asks for none, the first one is shown. -/
  first : declared.reports = none → ∀ argument ∈ arguments.head?, report = .argument argument.id
  /-- If there is none either, the code is. -/
  expression : declared.reports = none → arguments = [] → report = .expression

/--
What a declared operation is mapped to under the ordinal policy. Together with the warnings
this leaves nothing of the block open.
-/
structure MapsTo (declared : OperationDeclaration) (operation : Operation) : Prop where
  opcode_eq : operation.opcode = declared.opcode
  shape_eq : operation.shape = declared.shape
  text_eq : operation.text = declared.text
  returns_eq : operation.returns = declared.returns
  allowDropAnywhere_eq : operation.allowDropAnywhere = declared.allowDropAnywhere
  /-- Arguments keep their order, names, types and defaults. -/
  arguments_eq : operation.arguments.map Resolution.declarationOf = declared.arguments
  ids_eq : operation.arguments.map (·.id) = (Declaration.operation declared).ordinalIds
  names_nodup : declared.names.Nodup
  reported : declared.Reported operation.arguments operation.report
  code_none_iff : operation.code = none ↔ declared.code = none
  code_eq : operation.code = declared.code.map fun code =>
    ⟨(Placeholder.scan code).map (Resolution.bindSegment operation.arguments)⟩

end OperationDeclaration

/-- What an entry is mapped to: separators and labels stay what they are. -/
inductive Declaration.MapsTo : Declaration → Block → Prop where
  | separator : MapsTo .separator .separator
  | label (text : String) : MapsTo (.label text) (.label text)
  | operation {declared : OperationDeclaration} {operation : Operation}
      (h : declared.MapsTo operation) : MapsTo (.operation declared) (.operation operation)

namespace Resolution

/-- What a palette is mapped to: a block for each entry, and the warnings entry by entry. -/
structure ReferenceMapping (declarations : List Declaration) (resolution : Resolution) :
    Prop where
  blocks : List.Forall₂ Declaration.MapsTo declarations resolution.blocks
  warnings_eq : resolution.warnings = declarations.flatMap Declaration.warnings

/-! ## The reference determines the result -/

/-- Arguments are what they were declared as, together with their identifiers. -/
theorem arguments_ext {first second : List Argument}
    (hDeclared : first.map declarationOf = second.map declarationOf)
    (hIds : first.map (·.id) = second.map (·.id)) : first = second := by
  induction first generalizing second with
  | nil => exact (List.map_eq_nil_iff.1 hIds.symm).symm
  | cons argument first ih =>
      cases second with
      | nil => cases hIds
      | cons other second =>
          obtain ⟨hHead, hTail⟩ := List.cons.inj hDeclared
          obtain ⟨hId, hIdsTail⟩ := List.cons.inj hIds
          rw [ih hTail hIdsTail]
          obtain ⟨name, kind, id, default⟩ := argument
          cases hHead
          cases hId
          rfl

theorem names_of_arguments_eq {declared : OperationDeclaration} {arguments : List Argument}
    (h : arguments.map declarationOf = declared.arguments) :
    arguments.map (·.name) = declared.names := by
  rw [OperationDeclaration.names, ← h, List.map_map]
  rfl

end Resolution

namespace OperationDeclaration

variable {declared : OperationDeclaration}

/-- Arguments with different names leave no choice for what is shown. -/
theorem Reported.unique {arguments : List Argument} {first second : Report}
    (hNodup : (arguments.map (·.name)).Nodup) (hFirst : declared.Reported arguments first)
    (hSecond : declared.Reported arguments second) : first = second := by
  cases hAsked : declared.reports with
  | some name =>
      obtain ⟨argument, hMem, hName, rfl⟩ := hFirst.named name hAsked
      obtain ⟨other, hOther, hSame, rfl⟩ := hSecond.named name hAsked
      rw [List.inj_on_of_nodup_map hNodup hMem hOther (hName.trans hSame.symm)]
  | none =>
      cases hArguments : arguments with
      | nil => rw [hFirst.expression hAsked hArguments, hSecond.expression hAsked hArguments]
      | cons argument rest =>
          rw [hFirst.first hAsked argument (by simp [hArguments]),
            hSecond.first hAsked argument (by simp [hArguments])]

/-- A declared operation is mapped to one operation only. -/
theorem MapsTo.unique {first second : Operation} (hFirst : declared.MapsTo first)
    (hSecond : declared.MapsTo second) : first = second := by
  have hArguments : first.arguments = second.arguments :=
    Resolution.arguments_ext (hFirst.arguments_eq.trans hSecond.arguments_eq.symm)
      (hFirst.ids_eq.trans hSecond.ids_eq.symm)
  have hNodup : (second.arguments.map (·.name)).Nodup := by
    rw [Resolution.names_of_arguments_eq hSecond.arguments_eq]
    exact hSecond.names_nodup
  have hReport : first.report = second.report :=
    (hArguments ▸ hFirst.reported).unique hNodup hSecond.reported
  have hCode : first.code = second.code := by rw [hFirst.code_eq, hSecond.code_eq, hArguments]
  obtain ⟨opcode, shape, text, code, returns, allow, report, arguments⟩ := first
  cases hFirst.opcode_eq.trans hSecond.opcode_eq.symm
  cases hFirst.shape_eq.trans hSecond.shape_eq.symm
  cases hFirst.text_eq.trans hSecond.text_eq.symm
  cases hFirst.returns_eq.trans hSecond.returns_eq.symm
  cases hFirst.allowDropAnywhere_eq.trans hSecond.allowDropAnywhere_eq.symm
  cases hArguments
  cases hReport
  cases hCode
  rfl

end OperationDeclaration

/-- An entry is mapped to one block only. -/
theorem Declaration.MapsTo.unique {declaration : Declaration} {first second : Block}
    (hFirst : declaration.MapsTo first) (hSecond : declaration.MapsTo second) :
    first = second := by
  cases hFirst with
  | separator =>
      cases hSecond
      rfl
  | label text =>
      cases hSecond
      rfl
  | operation hFirst =>
      cases hSecond with
      | operation hSecond => rw [hFirst.unique hSecond]

/-- Declarations have one reference mapping at most. -/
theorem Resolution.ReferenceMapping.unique {declarations : List Declaration}
    {first second : Resolution} (hFirst : ReferenceMapping declarations first)
    (hSecond : ReferenceMapping declarations second) : first = second := by
  have hBlocks : first.blocks = second.blocks :=
    Relator.RightUnique.forall₂ (fun _ _ _ h h' => h.unique h') hFirst.blocks hSecond.blocks
  have hWarnings : first.warnings = second.warnings :=
    hFirst.warnings_eq.trans hSecond.warnings_eq.symm
  obtain ⟨blocks, warnings⟩ := first
  cases hBlocks
  cases hWarnings
  rfl

/-! ## The result is the reference -/

namespace Resolution

/-- What a click shows is what the declaration says. -/
theorem reported_of_reportOf {declared : OperationDeclaration} {arguments : List Argument}
    {report : Report} (h : reportOf declared.opcode arguments declared.reports = .ok report) :
    declared.Reported arguments report := by
  unfold reportOf at h
  cases hAsked : declared.reports with
  | some name =>
      rw [hAsked] at h
      cases hId : idOf? arguments name with
      | none => simp [hId] at h
      | some id =>
          simp only [hId] at h
          cases h
          obtain ⟨argument, hMem, hName, rfl⟩ := exists_of_idOf? hId
          refine
            { named := ?_
              first := by simp [hAsked]
              expression := by simp [hAsked] }
          intro asked hSame
          cases hAsked.symm.trans hSame
          exact ⟨argument, hMem, hName, rfl⟩
  | none =>
      rw [hAsked] at h
      cases arguments with
      | nil =>
          cases h
          exact ⟨by simp [hAsked], by simp, fun _ _ => rfl⟩
      | cons first rest =>
          cases h
          exact ⟨by simp [hAsked], by simp, by simp⟩

/-- The code of an operation is bound, and there is some exactly if some is declared. -/
theorem eq_of_boundCode {declared : OperationDeclaration} {arguments : List Argument}
    {code : Option CodeTemplate} (h : boundCode declared arguments = .ok code) :
    code = declared.code.map fun code =>
      ⟨(Placeholder.scan code).map (bindSegment arguments)⟩ := by
  unfold boundCode at h
  cases hCode : declared.code with
  | none =>
      rw [hCode] at h
      cases h
      rfl
  | some text =>
      simp only [hCode, map_eq_ok_iff] at h
      obtain ⟨template, hTemplate, rfl⟩ := h
      rw [(resolveCode_eq_ok hTemplate).1]
      rfl

/-- The arguments that are not shown are named one after the other. -/
theorem notShown_eq_warnings {declared : OperationDeclaration} {arguments : List Argument}
    (h : arguments.map declarationOf = declared.arguments) :
    notShown declared.opcode arguments (Placeholder.scan declared.text) =
      (Declaration.operation declared).warnings := by
  have hHidden : ∀ argument : Argument,
      (!((placeholders (Placeholder.scan declared.text)).map Prod.fst).contains argument.name) =
        decide (¬ Placeholder.Shows declared.text argument.name) := by
    intro argument
    simp [Placeholder.shows_iff]
  simp only [notShown, hHidden]
  rw [Declaration.warnings, ← names_of_arguments_eq h, List.filter_map, List.map_map]
  rfl

/-- An entry that resolves alone is mapped to its block, with the warnings about it. -/
theorem mapsTo_of_resolveAlone {declaration : Declaration} {piece : Block × List Warning}
    (h : resolveAlone declaration = .ok piece) :
    declaration.MapsTo piece.1 ∧ piece.2 = declaration.warnings := by
  cases declaration with
  | separator =>
      cases h
      exact ⟨.separator, rfl⟩
  | label text =>
      cases h
      exact ⟨.label text, rfl⟩
  | operation declared =>
      simp only [resolveAlone, Declaration.resolveWith, resolveOperation_eq, bind_eq_ok_iff] at h
      obtain ⟨_, hNames, _, ⟨_, _, code, hCode, report, hReport, hOperation⟩, hPiece⟩ := h
      cases hOperation
      cases hPiece
      have hLength : (Declaration.operation declared).ordinalIds.length =
          declared.arguments.length := by simp [Declaration.ordinalIds]
      have hArguments := map_declarationOf hLength
      have hCode := eq_of_boundCode hCode
      refine ⟨.operation ?_, notShown_eq_warnings hArguments⟩
      exact
        { opcode_eq := rfl
          shape_eq := rfl
          text_eq := rfl
          returns_eq := rfl
          allowDropAnywhere_eq := rfl
          arguments_eq := hArguments
          ids_eq := map_id_nameArguments hLength
          names_nodup := checkArguments_eq_ok_iff.1 hNames
          reported := reported_of_reportOf hReport
          code_none_iff := by simp [hCode]
          code_eq := hCode }

/-- Entries that resolve one by one are mapped one by one. -/
theorem referenceMapping_ofPieces {declarations : List Declaration}
    {pieces : List (Block × List Warning)}
    (h : declarations.map resolveAlone = pieces.map .ok) :
    ReferenceMapping declarations (ofPieces pieces) := by
  induction declarations generalizing pieces with
  | nil =>
      cases List.map_eq_nil_iff.1 h.symm
      exact ⟨.nil, rfl⟩
  | cons declaration rest ih =>
      cases pieces with
      | nil => cases h
      | cons piece more =>
          obtain ⟨hPiece, hMore⟩ := List.cons.inj h
          obtain ⟨hMapsTo, hWarnings⟩ := mapsTo_of_resolveAlone hPiece
          obtain ⟨hBlocks, hRest⟩ := ih hMore
          rw [← cons_ofPieces]
          refine ⟨.cons hMapsTo hBlocks, ?_⟩
          show piece.2 ++ (ofPieces more).warnings = _
          rw [List.flatMap_cons, hWarnings, hRest]

end Resolution

open Resolution in
/--
What a palette resolves to is what its declarations are mapped to, and there is
nothing else that they are mapped to.
-/
theorem resolve_ordinal_reference {declarations : List Declaration} {resolution : Resolution}
    (h : resolve .ordinal declarations = .ok resolution) :
    ReferenceMapping declarations resolution ∧
      ∀ other, ReferenceMapping declarations other → other = resolution := by
  obtain ⟨_, pieces, hEach, rfl⟩ := resolve_eq_ok_iff.1 h
  have hReference := referenceMapping_ofPieces (resolveEach_ordinal_iff.1 hEach)
  exact ⟨hReference, fun _ hOther => hOther.unique hReference⟩

/-- A palette with all kinds of entries; two of its arguments are not shown, one of them in code. -/
def turningPalette : List Declaration :=
  [.label "Turning", .operation ⟨"turn", .command, "turn [by]", some "turn([by], [unit])", none,
      true, some "unit", [⟨"unit", .string, some (.string "deg")⟩, ⟨"by", .angle, none⟩]⟩,
    .separator,
    .operation ⟨"heading", .reporter, "heading", none, some .number, false, none,
      [⟨"of", .string, none⟩]⟩]

open Resolution in
/-- An argument that only the code uses is reported and warned about at once. -/
theorem resolve_ordinal_reference_turningPalette :
    ∃ resolution, resolve .ordinal turningPalette = .ok resolution ∧
      ReferenceMapping turningPalette resolution ∧
      resolution.warnings =
        [.argumentNotShown "unit" "turn", .argumentNotShown "of" "heading"] ∧
      (resolution.blocks.filterMap Block.operation?).map (·.report) =
        [.argument "turn_arg1", .argument "heading_arg1"] := by
  have hResolve : resolve .ordinal turningPalette = .ok
      ⟨[.label "Turning", .operation ⟨"turn", .command, "turn [by]",
            some ⟨[.literal "turn(", .argument "turn_arg2", .literal ", ",
              .argument "turn_arg1", .literal ")"]⟩, none, true, .argument "turn_arg1",
            [⟨"unit", .string, "turn_arg1", some (.string "deg")⟩,
              ⟨"by", .angle, "turn_arg2", none⟩]⟩,
          .separator,
          .operation ⟨"heading", .reporter, "heading", none, some .number, false,
            .argument "heading_arg1", [⟨"of", .string, "heading_arg1", none⟩]⟩],
        [.argumentNotShown "unit" "turn", .argumentNotShown "of" "heading"]⟩ := by cbv
  exact ⟨_, hResolve, (resolve_ordinal_reference hResolve).1, rfl, rfl⟩

end BlockExtension
