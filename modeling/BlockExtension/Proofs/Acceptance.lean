import BlockExtension.Configuration

/-!
# What the reader of configurations promises

Reading a configuration is a long run of checks, and everything behind it lives
on what they establish: the id of the extension, the opcodes and the names of
arguments are identifiers, no argument is named like a property that compiled
nodes have of their own, a default value is no container, and code that is there
is not empty. `WellFormed` says so for each kind of declaration, and the theorems
below derive it from the reader's success alone.

## Main results

* `Declaration.wellFormed_of_ofJson`: an accepted entry is well formed.
* `Configuration.wellFormed_of_ofJson`: an accepted configuration is.
-/

namespace BlockExtension

/-! ## Steps that may fail -/

/-- A sequence succeeds exactly when both steps do. -/
theorem bind_eq_ok_iff {ε α β : Type} {first : Except ε α} {next : α → Except ε β} {result : β} :
    (first >>= next) = .ok result ↔ ∃ a, first = .ok a ∧ next a = .ok result := by
  cases first <;> simp [bind, Except.bind]

/-- A step that only changes its result succeeds exactly when the step itself does. -/
theorem map_eq_ok_iff {ε α β : Type} {first : Except ε α} {f : α → β} {result : β} :
    first.map f = .ok result ↔ ∃ a, first = .ok a ∧ f a = result := by
  cases first <;> simp [Except.map]

/-- Every result of a walk over a list comes from one of its members. -/
theorem exists_mem_of_mapM_eq_ok {ε α β : Type} {f : α → Except ε β} {items : List α}
    {results : List β} (h : items.mapM f = .ok results) :
    ∀ b ∈ results, ∃ a ∈ items, f a = .ok b := by
  induction items generalizing results with
  | nil =>
      cases h
      simp
  | cons item items ih =>
      simp only [List.mapM_cons, bind_eq_ok_iff] at h
      obtain ⟨b, hb, more, hMore, hEq⟩ := h
      cases hEq
      intro c hc
      rcases List.mem_cons.1 hc with rfl | hc
      · exact ⟨item, by simp, hb⟩
      · obtain ⟨a, ha, hac⟩ := ih hMore c hc
        exact ⟨a, by simp [ha], hac⟩

/-! ## Well-formed declarations -/

/--
A value that is no container and not `null`. Only such a value may be the default of an
argument.
-/
def Json.IsScalar : Json → Prop
  | .bool _ => True
  | .number _ => True
  | .string _ => True
  | _ => False

/-- An argument that the reader accepts. -/
structure ArgumentDeclaration.WellFormed (argument : ArgumentDeclaration) : Prop where
  name_isIdentifier : Script.isIdentifier argument.name
  name_notReserved : argument.name ∉ Configuration.reservedNames
  default_isScalar : ∀ value, argument.defaultValue = some value → value.IsScalar

/-- An operation that the reader accepts. -/
structure OperationDeclaration.WellFormed (declared : OperationDeclaration) : Prop where
  opcode_isIdentifier : Script.isIdentifier declared.opcode
  code_ne_empty : ∀ code, declared.code = some code → code ≠ ""
  arguments_wellFormed : ∀ argument ∈ declared.arguments, argument.WellFormed

/-- An entry that the reader accepts; separators and labels may be anything. -/
def Declaration.WellFormed : Declaration → Prop
  | .operation declared => declared.WellFormed
  | _ => True

/-- A configuration that the reader accepts. -/
structure Configuration.WellFormed (configuration : Configuration) : Prop where
  id_isIdentifier : Script.isIdentifier configuration.extension.id
  blocks_wellFormed : ∀ declaration ∈ configuration.blocks, declaration.WellFormed

namespace Configuration

/-! ## What the single checks establish -/

private theorem isIdentifier_of_expectIdentifier {what value : String} {done : Unit}
    (h : expectIdentifier what value = .ok done) : Script.isIdentifier value := by
  unfold expectIdentifier at h
  split at h
  · assumption
  · cases h

private theorem isScalar_of_defaultValue {value found : Option Json} {field : String}
    (h : defaultValue value field = .ok found) : ∀ json, found = some json → json.IsScalar := by
  unfold defaultValue at h
  intro json hJson
  subst hJson
  split at h <;> cases h <;> trivial

private theorem wellFormed_of_readArgument {index : Nat} {block : BlockRef} {name : String}
    {value : Json} {argument : ArgumentDeclaration}
    (h : readArgument index block name value = .ok argument) : argument.WellFormed := by
  simp only [readArgument, bind_eq_ok_iff] at h
  obtain ⟨_, hName, h⟩ := h
  split at h
  · simp [throw, throwThe, MonadExceptOf.throw, bind, Except.bind] at h
  · next hReserved =>
      split at h
      · simp only [bind_eq_ok_iff] at h
        obtain ⟨_, _, tag, _, h⟩ := h
        split at h
        · cases h
        · simp only [bind_eq_ok_iff] at h
          obtain ⟨default, hDefault, h⟩ := h
          cases h
          exact
            { name_isIdentifier := isIdentifier_of_expectIdentifier hName
              name_notReserved := by simpa using hReserved
              default_isScalar := isScalar_of_defaultValue hDefault }
      · cases h

private theorem wellFormed_of_readArguments {index : Nat} {block : BlockRef}
    {value : Option Json} {arguments : List ArgumentDeclaration}
    (h : readArguments index block value = .ok arguments) :
    ∀ argument ∈ arguments, argument.WellFormed := by
  unfold readArguments at h
  split at h
  · cases h
    simp
  · cases h
    simp
  · intro argument hMem
    obtain ⟨field, _, hField⟩ := exists_mem_of_mapM_eq_ok h argument hMem
    exact wellFormed_of_readArgument hField
  · cases h

private theorem wellFormed_of_readFields {index : Nat} {fields : List (String × Json)}
    {declaration : Declaration} (h : readFields index fields = .ok declaration) :
    declaration.WellFormed := by
  simp only [readFields, bind_eq_ok_iff] at h
  obtain ⟨opcode, _, _, _, tag, _, text, _, h⟩ := h
  split at h
  · simp only [bind_eq_ok_iff] at h
    obtain ⟨_, _, h⟩ := h
    cases h
    trivial
  · split at h
    · cases h
    · simp only [bind_eq_ok_iff] at h
      obtain ⟨_, _, _, hOpcode, _, _, code, _, _, _, _, _, _, _, _, hArguments, h⟩ := h
      cases h
      refine
        { opcode_isIdentifier := isIdentifier_of_expectIdentifier hOpcode
          code_ne_empty := ?_
          arguments_wellFormed := wellFormed_of_readArguments hArguments }
      intro kept hKept
      have hFilter := (Option.filter_eq_some_iff.1 hKept).2
      rintro rfl
      simp at hFilter

end Configuration

/-! ## Entries and configurations -/

/-- An accepted entry is well formed. -/
theorem Declaration.wellFormed_of_ofJson {index : Nat} {entry : Json} {declaration : Declaration}
    (h : Declaration.ofJson index entry = .ok declaration) : declaration.WellFormed := by
  unfold Declaration.ofJson at h
  split at h
  · split at h <;> cases h <;> trivial
  · exact Configuration.wellFormed_of_readFields h
  · cases h

/-- Declarations each of which was accepted are well formed. -/
theorem Declaration.wellFormed_of_read {declarations : List Declaration}
    (hRead : ∀ declaration ∈ declarations, ∃ index entry,
      Declaration.ofJson index entry = .ok declaration) :
    ∀ declaration ∈ declarations, declaration.WellFormed := by
  intro declaration hMem
  obtain ⟨index, entry, hEntry⟩ := hRead declaration hMem
  exact Declaration.wellFormed_of_ofJson hEntry

/-- Accepted entries are well formed. -/
theorem Declaration.wellFormed_of_ofEntries {index : Nat} {entries : List Json}
    {declarations : List Declaration}
    (h : Declaration.ofEntries index entries = .ok declarations) :
    ∀ declaration ∈ declarations, declaration.WellFormed := by
  induction entries generalizing index declarations with
  | nil =>
      cases h
      simp
  | cons entry entries ih =>
      simp only [Declaration.ofEntries, bind_eq_ok_iff] at h
      obtain ⟨first, hFirst, more, hMore, hEq⟩ := h
      cases hEq
      intro declaration hMem
      rcases List.mem_cons.1 hMem with rfl | hMem
      · exact Declaration.wellFormed_of_ofJson hFirst
      · exact ih hMore declaration hMem

/-- An accepted configuration is well formed. -/
theorem Configuration.wellFormed_of_ofJson {document : Json} {configuration : Configuration}
    (h : Configuration.ofJson document = .ok configuration) : configuration.WellFormed := by
  unfold Configuration.ofJson at h
  split at h
  · simp only [bind_eq_ok_iff] at h
    obtain ⟨_, _, blocks, _, extension, hExtension, h⟩ := h
    split at h
    · simp only [bind_eq_ok_iff] at h
      obtain ⟨declarations, hDeclarations, h⟩ := h
      cases h
      refine ⟨?_, Declaration.wellFormed_of_ofEntries hDeclarations⟩
      unfold Configuration.readExtension at hExtension
      split at hExtension
      · simp only [bind_eq_ok_iff] at hExtension
        obtain ⟨_, _, id, _, _, hId, _, _, _, _, _, _, hExtension⟩ := hExtension
        cases hExtension
        exact Configuration.isIdentifier_of_expectIdentifier hId
      · cases hExtension
    · cases h
  · cases h

end BlockExtension
