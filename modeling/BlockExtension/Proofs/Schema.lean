import BlockExtension.Proofs.Acceptance
import Mathlib.Data.List.Forall2

/-!
# Which documents are configurations

The reader of configurations is a run of checks in a certain order. What it accepts
does not depend on that order, and is said here twice over. `IsConfiguration` is the
schema: it says of a document what its fields must be, and nothing about reading.
`Describes` says what such a document declares: the declaration of an entry depends
on that entry alone, not on its position nor on the entries around it, and the
arguments of an operation stand in the order of their keys.

Every step of the reader has one lemma of the same form: it yields a result exactly
if the value meets the schema and describes that result. The lemmas are put together
along the reader, and at the end the two parts are separated again, since a document
that meets the schema always describes something.

## Main results

* `Configuration.ofJson_eq_ok_iff`: what the reader yields.
* `exists_describes`: a document that meets the schema describes a configuration.
* `Configuration.ofJson_exact`: the reader accepts what meets the schema, and yields
  what the document describes.
-/

namespace BlockExtension

/-! ## Fields -/

namespace Schema

/-- A field that is there and has a property. -/
def Present (P : Json → Prop) (value : Option Json) : Prop := ∃ given, value = some given ∧ P given

/-- A field that is absent, `null` or has a property. -/
def Optional (P : Json → Prop) (value : Option Json) : Prop :=
  value = none ∨ value = some .null ∨ Present P value

theorem Optional.imp {P Q : Json → Prop} {value : Option Json} (h : Optional P value)
    (hImp : ∀ given, P given → Q given) : Optional Q value := by
  rcases h with h | h | ⟨given, hGiven, hP⟩
  · exact .inl h
  · exact .inr (.inl h)
  · exact .inr (.inr ⟨given, hGiven, hImp given hP⟩)

def IsText (value : Json) : Prop := ∃ text, value = .string text

def IsIdentifier (value : Json) : Prop := ∃ text, value = .string text ∧ Script.isIdentifier text

/-- A string that is one of the tags. -/
def IsOneOf (tags : List String) (value : Json) : Prop := ∃ tag ∈ tags, value = .string tag

def IsFlag (value : Json) : Prop := ∃ flag, value = .bool flag

/-! ## The schema -/

def operationTags : List String := ["COMMAND", "REPORTER", "BOOLEAN", "CONDITIONAL"]

def returnTags : List String := ["STRING", "BOOLEAN", "NUMBER"]

def argumentTags : List String := ["STRING", "BOOLEAN", "NUMBER", "COLOR", "ANGLE"]

/-- What a configuration may say about the extension itself. -/
structure IsExtension (value : Json) : Prop where
  id : Present IsIdentifier (value.field? "id")
  name : Optional IsText (value.field? "name")
  color : Optional IsText (value.field? "color1")
  comment : Optional IsText (value.field? "comment")

/--
What an operation may say about an argument with a name. The two names that a node uses
itself are taken.
-/
structure IsArgument (name : String) (value : Json) : Prop where
  name_isIdentifier : Script.isIdentifier name
  name_free : name ≠ "block" ∧ name ≠ "kind"
  type : Present (IsOneOf argumentTags) (value.field? "type")
  defaultValue : Optional Json.IsScalar (value.field? "defaultValue")

def IsArguments (value : Json) : Prop :=
  ∃ fields, value = .object fields ∧ ∀ field ∈ fields, IsArgument field.1 field.2

/-- An entry with these fields is a label. -/
structure IsLabel (entry : Json) : Prop where
  blockType : entry.field? "blockType" = some (.string "LABEL")
  text : Present IsText (entry.field? "text")

/-- An entry with these fields is an operation. Fields that are not listed may hold anything. -/
structure IsOperation (entry : Json) : Prop where
  blockType : Present (IsOneOf operationTags) (entry.field? "blockType")
  opcode : Present IsIdentifier (entry.field? "opcode")
  text : Present IsText (entry.field? "text")
  code : Optional IsText (entry.field? "code")
  returns : Optional (IsOneOf returnTags) (entry.field? "returns")
  allowDropAnywhere : Optional IsFlag (entry.field? "allowDropAnywhere")
  reports : Optional IsText (entry.field? "reports")
  arguments : Optional IsArguments (entry.field? "arguments")

/-- An entry with these fields is a label or an operation. -/
structure IsObjectEntry (entry : Json) : Prop where
  opcode : Optional IsText (entry.field? "opcode")
  text : Optional IsText (entry.field? "text")
  kind : IsLabel entry ∨ IsOperation entry

/-- An entry is a string, or an object that is a label or an operation. -/
def IsEntry (entry : Json) : Prop := IsText entry ∨ IsObjectEntry entry

def IsPalette (value : Json) : Prop :=
  ∃ entries, value = .array entries ∧ ∀ entry ∈ entries, IsEntry entry

/-- A document is a configuration. Only objects have fields. -/
structure IsConfiguration (document : Json) : Prop where
  extension : Present IsExtension (document.field? "extension")
  blocks : Present IsPalette (document.field? "blocks")

/-! ## What a document describes -/

def textOf (value : Option Json) : Option String := value.bind Json.string?

/-- The value of an optional field, where `null` is none. -/
def givenOf : Option Json → Option Json
  | some .null => none
  | value => value

def fieldsOf : Option Json → List (String × Json)
  | some (.object fields) => fields
  | _ => []

/-- The extension that a value describes. The identifier is its name unless the value says one. -/
structure DescribesExtension (value : Json) (extension : Extension) : Prop where
  id : value.field? "id" = some (.string extension.id)
  name : extension.name = (textOf (value.field? "name")).getD extension.id
  color : extension.color = textOf (value.field? "color1")
  comment : extension.comment =
    (textOf (value.field? "comment")).filter fun text => !(Text.trim text.toList).isEmpty

/-- The argument that a field of the arguments describes. -/
structure DescribesArgument (field : String × Json) (argument : ArgumentDeclaration) : Prop where
  name : argument.name = field.1
  kind : field.2.field? "type" = some (.string argument.kind.tag)
  defaultValue : argument.defaultValue = givenOf (field.2.field? "defaultValue")

/--
The operation that an entry describes. What is left out and what is `null` is described
alike.
-/
structure DescribesOperation (entry : Json) (declared : OperationDeclaration) : Prop where
  opcode : entry.field? "opcode" = some (.string declared.opcode)
  shape : entry.field? "blockType" = some (.string declared.shape.tag)
  text : entry.field? "text" = some (.string declared.text)
  code : declared.code = (textOf (entry.field? "code")).filter (!·.isEmpty)
  returns : declared.returns.map ReturnKind.tag = textOf (entry.field? "returns")
  allowDropAnywhere :
    declared.allowDropAnywhere = true ↔ entry.field? "allowDropAnywhere" = some (.bool true)
  reports : declared.reports = textOf (entry.field? "reports")
  arguments :
    List.Forall₂ DescribesArgument (fieldsOf (entry.field? "arguments")) declared.arguments

/--
The declaration that an entry describes, wherever it stands. A string is a separator or a
label; an object is a label or an operation.
-/
inductive DescribesEntry : Json → Declaration → Prop where
  | separator : DescribesEntry (.string "---") .separator
  | text {text : String} (h : text ≠ "---") : DescribesEntry (.string text) (.label text)
  | label {entry : Json} {text : String} (hType : entry.field? "blockType" = some (.string "LABEL"))
      (hText : entry.field? "text" = some (.string text)) : DescribesEntry entry (.label text)
  | operation {entry : Json} {declared : OperationDeclaration}
      (h : DescribesOperation entry declared) : DescribesEntry entry (.operation declared)

/-- The configuration that a document describes, entry by entry. It describes one at most. -/
structure Describes (document : Json) (configuration : Configuration) : Prop where
  extension : ∃ value, document.field? "extension" = some value ∧
    DescribesExtension value configuration.extension
  blocks : ∃ entries, document.field? "blocks" = some (.array entries) ∧
    List.Forall₂ DescribesEntry entries configuration.blocks

/-! ## Reading single fields -/

end Schema

open Schema

namespace Configuration

theorem expectIdentifier_eq_ok_iff {what value : String} {done : Unit} :
    expectIdentifier what value = .ok done ↔ Script.isIdentifier value := by
  unfold expectIdentifier
  split <;> simp_all

theorem required_eq_ok_iff {value : Option Json} {field : String} {result : Json} :
    required value field = .ok result ↔ value = some result := by
  cases value <;> simp [required]

theorem expectString_eq_ok_iff {value : Json} {field text : String} :
    expectString value field = .ok text ↔ value = .string text := by
  cases value <;> simp [expectString, Json.string?]

/-- The text of a field is that of a string. -/
theorem textOf_eq_some_iff {value : Option Json} {text : String} :
    textOf value = some text ↔ value = some (.string text) := by
  cases value with
  | none => simp [textOf]
  | some json => cases json <;> simp [textOf, Json.string?]

theorem optionalString_eq_ok_iff {value : Option Json} {field : String} {result : Option String} :
    optionalString value field = .ok result ↔ Optional IsText value ∧ result = textOf value := by
  cases value with
  | none => simp [optionalString, Optional, textOf, eq_comm]
  | some json =>
      cases json <;>
        simp [optionalString, expectString, Json.string?, Optional, Present, IsText, textOf,
          Except.map, eq_comm]

theorem defaultValue_eq_ok_iff {value result : Option Json} {field : String} :
    defaultValue value field = .ok result ↔
      Optional Json.IsScalar value ∧ result = givenOf value := by
  cases value with
  | none => simp [defaultValue, Optional, givenOf, eq_comm]
  | some json =>
      cases json <;>
        simp [defaultValue, Optional, Present, Json.IsScalar, givenOf, eq_comm]

theorem requiredText_eq_ok_iff {text : Option String} {field result : String} :
    requiredText text field = .ok result ↔ text = some result := by
  cases text <;> simp [requiredText]

theorem readAllowDrop_eq_ok_iff {index : Nat} {value : Option Json} {result : Bool} :
    readAllowDrop index value = .ok result ↔
      Optional IsFlag value ∧ (result = true ↔ value = some (.bool true)) := by
  cases value with
  | none => cases result <;> simp [readAllowDrop, Optional]
  | some json =>
      cases json with
      | bool flag => cases flag <;> cases result <;> simp [readAllowDrop, Optional, Present, IsFlag]
      | _ => cases result <;> simp [readAllowDrop, Optional, Present, IsFlag]

end Configuration

/-! ## Tags of closed sets -/

section ClosedSet

variable {α : Type} {members : List α} {tag : α → String}

/-- A member is found by its tag and by nothing else. -/
private theorem find?_tag_eq_some_iff
    (hMembers : ∀ a, members.find? (fun b => tag b = tag a) = some a) {text : String} {a : α} :
    members.find? (fun b => tag b = text) = some a ↔ text = tag a := by
  constructor
  · intro hFound
    have hTag : tag a = text := by simpa using List.find?_some hFound
    exact hTag.symm
  · rintro rfl
    exact hMembers a

/-- A field is one of the tags of a closed set exactly if it is the tag of a member. -/
private theorem present_isOneOf_iff
    (hMembers : ∀ a, members.find? (fun b => tag b = tag a) = some a) {tags : List String}
    (hTags : tags = members.map tag) {value : Option Json} :
    Present (IsOneOf tags) value ↔ ∃ a, value = some (.string (tag a)) := by
  constructor
  · rintro ⟨_, rfl, text, hMem, rfl⟩
    rw [hTags] at hMem
    obtain ⟨a, _, rfl⟩ := List.mem_map.1 hMem
    exact ⟨a, rfl⟩
  · rintro ⟨a, rfl⟩
    refine ⟨_, rfl, _, ?_, rfl⟩
    rw [hTags]
    exact List.mem_map_of_mem (List.mem_of_find?_eq_some (hMembers a))

end ClosedSet

private theorem blockShape_ofTag?_iff {text : String} {shape : BlockShape} :
    BlockShape.ofTag? text = some shape ↔ text = shape.tag :=
  find?_tag_eq_some_iff BlockShape.ofTag?_tag

private theorem argumentKind_ofTag?_iff {text : String} {kind : ArgumentKind} :
    ArgumentKind.ofTag? text = some kind ↔ text = kind.tag :=
  find?_tag_eq_some_iff ArgumentKind.ofTag?_tag

private theorem returnKind_ofTag?_iff {text : String} {kind : ReturnKind} :
    ReturnKind.ofTag? text = some kind ↔ text = kind.tag :=
  find?_tag_eq_some_iff ReturnKind.ofTag?_tag

private theorem present_argumentTags_iff {value : Option Json} :
    Present (IsOneOf argumentTags) value ↔ ∃ kind : ArgumentKind, value = some (.string kind.tag) :=
  present_isOneOf_iff ArgumentKind.ofTag?_tag rfl

private theorem present_operationTags_iff {value : Option Json} :
    Present (IsOneOf operationTags) value ↔
      ∃ shape : BlockShape, value = some (.string shape.tag) :=
  present_isOneOf_iff BlockShape.ofTag?_tag rfl

private theorem present_returnTags_iff {value : Option Json} :
    Present (IsOneOf returnTags) value ↔ ∃ kind : ReturnKind, value = some (.string kind.tag) :=
  present_isOneOf_iff ReturnKind.ofTag?_tag rfl

theorem Json.exists_object_of_field? {value found : Json} {key : String}
    (h : value.field? key = some found) : ∃ fields, value = .object fields := by
  cases value with
  | object fields => exact ⟨fields, rfl⟩
  | _ => cases h

namespace Configuration

/-! ## Reading arguments -/

theorem readArgument_eq_ok_iff {index : Nat} {block : BlockRef} {name : String} {value : Json}
    {argument : ArgumentDeclaration} :
    readArgument index block name value = .ok argument ↔
      IsArgument name value ∧ DescribesArgument (name, value) argument := by
  constructor
  · intro h
    simp only [readArgument, bind_eq_ok_iff, expectIdentifier_eq_ok_iff] at h
    obtain ⟨_, hName, h⟩ := h
    split at h
    · simp [throw, throwThe, MonadExceptOf.throw, bind, Except.bind] at h
    · next hFree =>
        split at h
        · next fields =>
            simp only [bind_eq_ok_iff, required_eq_ok_iff, expectString_eq_ok_iff] at h
            obtain ⟨_, hType, tag, rfl, h⟩ := h
            split at h
            · cases h
            · next kind hKind =>
                simp only [bind_eq_ok_iff, defaultValue_eq_ok_iff] at h
                obtain ⟨default, ⟨hDefault, rfl⟩, h⟩ := h
                cases h
                rw [argumentKind_ofTag?_iff] at hKind
                subst hKind
                exact ⟨⟨hName, by simpa [reservedNames] using hFree,
                  present_argumentTags_iff.2 ⟨kind, hType⟩, hDefault⟩, rfl, hType, rfl⟩
        · cases h
  · rintro ⟨hSchema, hName, hKind, hDefault⟩
    obtain ⟨fields, rfl⟩ := Json.exists_object_of_field? hKind
    have hFree : reservedNames.contains name = false := by
      simpa [reservedNames] using hSchema.name_free
    simp only [readArgument, bind_eq_ok_iff, expectIdentifier_eq_ok_iff, required_eq_ok_iff,
      expectString_eq_ok_iff, hFree, Bool.false_eq_true, if_false]
    refine ⟨(), hSchema.name_isIdentifier, _, hKind, _, rfl, ?_⟩
    rw [argumentKind_ofTag?_iff.2 rfl]
    refine bind_eq_ok_iff.2 ⟨_, defaultValue_eq_ok_iff.2 ⟨hSchema.defaultValue, hDefault⟩, ?_⟩
    cases argument
    cases hName
    rfl

/-- A walk over a list succeeds exactly if it does so at every member. -/
private theorem mapM_eq_ok_iff {ε α β : Type} {f : α → Except ε β} {items : List α}
    {results : List β} :
    items.mapM f = .ok results ↔ List.Forall₂ (fun a b => f a = .ok b) items results := by
  induction items generalizing results with
  | nil =>
      rw [List.mapM_nil, List.forall₂_nil_left_iff]
      exact ⟨fun h => by cases h; rfl, fun h => by rw [h]; rfl⟩
  | cons item items ih =>
      rw [List.mapM_cons, bind_eq_ok_iff, List.forall₂_cons_left_iff]
      constructor
      · rintro ⟨first, hFirst, h⟩
        obtain ⟨rest, hRest, hEq⟩ := bind_eq_ok_iff.1 h
        cases hEq
        exact ⟨first, rest, hFirst, ih.1 hRest, rfl⟩
      · rintro ⟨first, rest, hFirst, hRest, rfl⟩
        exact ⟨first, hFirst, bind_eq_ok_iff.2 ⟨rest, ih.2 hRest, rfl⟩⟩

theorem readArguments_eq_ok_iff {index : Nat} {block : BlockRef} {value : Option Json}
    {arguments : List ArgumentDeclaration} :
    readArguments index block value = .ok arguments ↔
      Optional IsArguments value ∧ List.Forall₂ DescribesArgument (fieldsOf value) arguments := by
  cases value with
  | none => simp [readArguments, Optional, fieldsOf, eq_comm]
  | some json =>
      cases json with
      | null => simp [readArguments, Optional, fieldsOf, eq_comm]
      | object fields =>
          simp only [readArguments, mapM_eq_ok_iff, readArgument_eq_ok_iff, fieldsOf]
          rw [List.forall₂_and_left (p := fun field : String × Json => IsArgument field.1 field.2)]
          simp [Optional, Present, IsArguments]
      | _ => simp [readArguments, Optional, Present, IsArguments]

/-! ## Reading entries -/

theorem readReturns_eq_ok_iff {index : Nat} {block : BlockRef} {value : Option Json}
    {result : Option ReturnKind} :
    readReturns index block value = .ok result ↔
      Optional (IsOneOf returnTags) value ∧ result.map ReturnKind.tag = textOf value := by
  constructor
  · intro h
    rw [readReturns, bind_eq_ok_iff] at h
    obtain ⟨text, hText, h⟩ := h
    obtain ⟨hOptional, rfl⟩ := optionalString_eq_ok_iff.1 hText
    rcases hOptional with rfl | rfl | ⟨_, rfl, text, rfl⟩
    · cases h
      exact ⟨.inl rfl, rfl⟩
    · cases h
      exact ⟨.inr (.inl rfl), rfl⟩
    · cases hKind : ReturnKind.ofTag? text with
      | none => simp [textOf, Json.string?, hKind, throw, throwThe, MonadExceptOf.throw] at h
      | some kind =>
          simp only [textOf, Json.string?, Option.bind_some, hKind] at h
          cases h
          rw [returnKind_ofTag?_iff] at hKind
          subst hKind
          exact ⟨.inr (.inr (present_returnTags_iff.2 ⟨kind, rfl⟩)), rfl⟩
  · rintro ⟨hOptional, hResult⟩
    have hText : Optional IsText value := hOptional.imp fun _ ⟨tag, _, hTag⟩ => ⟨tag, hTag⟩
    rw [readReturns, bind_eq_ok_iff]
    refine ⟨_, optionalString_eq_ok_iff.2 ⟨hText, rfl⟩, ?_⟩
    rw [← hResult]
    cases result with
    | none => rfl
    | some kind =>
        rw [Option.map_some]
        simp only [returnKind_ofTag?_iff.2 rfl]
        rfl

theorem readFields_eq_ok_iff {index : Nat} {fields : List (String × Json)}
    {declaration : Declaration} :
    readFields index fields = .ok declaration ↔
      IsObjectEntry (.object fields) ∧ DescribesEntry (.object fields) declaration := by
  constructor
  · intro h
    simp only [readFields, bind_eq_ok_iff, optionalString_eq_ok_iff, required_eq_ok_iff,
      expectString_eq_ok_iff] at h
    obtain ⟨opcode, ⟨hOpcode, rfl⟩, _, hType, tag, rfl, text, ⟨hText, rfl⟩, h⟩ := h
    split at h
    · next hLabel =>
        subst hLabel
        simp only [bind_eq_ok_iff, requiredText_eq_ok_iff, textOf_eq_some_iff] at h
        obtain ⟨text, hGiven, h⟩ := h
        cases h
        exact ⟨⟨hOpcode, hText, .inl ⟨hType, _, hGiven, text, rfl⟩⟩, .label hType hGiven⟩
    · split at h
      · cases h
      · next shape hShape =>
          rw [blockShape_ofTag?_iff] at hShape
          subst hShape
          simp only [bind_eq_ok_iff, requiredText_eq_ok_iff, textOf_eq_some_iff,
            expectIdentifier_eq_ok_iff, readReturns_eq_ok_iff, readAllowDrop_eq_ok_iff,
            readArguments_eq_ok_iff, optionalString_eq_ok_iff] at h
          obtain ⟨opcode, hName, _, hIdentifier, text, hGiven, code, ⟨hCode, rfl⟩,
            returns, ⟨hReturns, hReturned⟩, allow, ⟨hAllow, hAllowed⟩, reports, ⟨hReports, rfl⟩,
            arguments, ⟨hArguments, hDeclared⟩, h⟩ := h
          cases h
          have hOperation : IsOperation (.object fields) :=
            { blockType := present_operationTags_iff.2 ⟨shape, hType⟩
              opcode := ⟨_, hName, opcode, rfl, hIdentifier⟩
              text := ⟨_, hGiven, text, rfl⟩
              code := hCode
              returns := hReturns
              allowDropAnywhere := hAllow
              reports := hReports
              arguments := hArguments }
          exact ⟨⟨hOpcode, hText, .inr hOperation⟩,
            .operation ⟨hName, hType, hGiven, rfl, hReturned, hAllowed, rfl, hDeclared⟩⟩
  · rintro ⟨⟨hOpcode, hText, hKind⟩, hDescribes⟩
    simp only [readFields, bind_eq_ok_iff, optionalString_eq_ok_iff, required_eq_ok_iff,
      expectString_eq_ok_iff]
    cases hDescribes with
    | label hType hGiven =>
        refine ⟨_, ⟨hOpcode, rfl⟩, _, hType, _, rfl, _, ⟨hText, rfl⟩, ?_⟩
        rw [if_pos (show "LABEL" = labelTag from rfl)]
        exact bind_eq_ok_iff.2 ⟨_, requiredText_eq_ok_iff.2 (textOf_eq_some_iff.2 hGiven), rfl⟩
    | @operation _ declared h =>
        have hNotLabel : declared.shape.tag ≠ labelTag := by cases declared.shape <;> decide
        have hOperation : IsOperation (.object fields) := by
          rcases hKind with hLabel | hOperation
          · have hTags := h.shape.symm.trans hLabel.blockType
            exact absurd (Json.string.inj (Option.some.inj hTags)) hNotLabel
          · exact hOperation
        obtain ⟨_, hName, opcode, rfl, hIdentifier⟩ := hOperation.opcode
        cases h.opcode.symm.trans hName
        refine ⟨_, ⟨hOpcode, rfl⟩, _, h.shape, _, rfl, _, ⟨hText, rfl⟩, ?_⟩
        rw [if_neg hNotLabel, blockShape_ofTag?_iff.2 rfl]
        simp only [bind_eq_ok_iff, requiredText_eq_ok_iff, textOf_eq_some_iff,
          expectIdentifier_eq_ok_iff, readReturns_eq_ok_iff, readAllowDrop_eq_ok_iff,
          readArguments_eq_ok_iff, optionalString_eq_ok_iff]
        refine ⟨_, h.opcode, (), hIdentifier, _, h.text, _, ⟨hOperation.code, rfl⟩,
          _, ⟨hOperation.returns, h.returns⟩,
          _, ⟨hOperation.allowDropAnywhere, h.allowDropAnywhere⟩,
          _, ⟨hOperation.reports, rfl⟩, _, ⟨hOperation.arguments, h.arguments⟩, ?_⟩
        have hCode := h.code
        have hReports := h.reports
        cases declared
        cases hCode
        cases hReports
        rfl

end Configuration

theorem Declaration.ofJson_eq_ok_iff {index : Nat} {entry : Json} {declaration : Declaration} :
    Declaration.ofJson index entry = .ok declaration ↔
      IsEntry entry ∧ DescribesEntry entry declaration := by
  cases entry with
  | string text =>
      have hEntry : IsEntry (.string text) := .inl ⟨text, rfl⟩
      simp only [Declaration.ofJson, hEntry, true_and]
      constructor
      · intro h
        split at h
        · next hSeparator =>
            cases h
            subst hSeparator
            exact .separator
        · next hText =>
            cases h
            exact .text hText
      · intro h
        cases h with
        | separator => rfl
        | text hText => exact if_neg hText
        | label hType _ => cases hType
        | operation h => cases h.opcode
  | object fields =>
      rw [Declaration.ofJson, Configuration.readFields_eq_ok_iff]
      have hNotText : ¬ IsText (.object fields) := fun ⟨_, hText⟩ => by cases hText
      exact and_congr_left fun _ => (or_iff_right hNotText).symm
  | _ =>
      simp only [Declaration.ofJson, reduceCtorEq, false_iff]
      rintro ⟨_, hDescribes⟩
      cases hDescribes with
      | label hType _ => cases hType
      | operation h => cases h.opcode

theorem Declaration.ofEntries_eq_ok_iff {index : Nat} {entries : List Json}
    {declarations : List Declaration} :
    Declaration.ofEntries index entries = .ok declarations ↔
      (∀ entry ∈ entries, IsEntry entry) ∧ List.Forall₂ DescribesEntry entries declarations := by
  rw [← List.forall₂_and_left]
  induction entries generalizing index declarations with
  | nil =>
      rw [Declaration.ofEntries, List.forall₂_nil_left_iff, Except.ok.injEq, eq_comm]
  | cons entry entries ih =>
      simp only [Declaration.ofEntries, bind_eq_ok_iff, ofJson_eq_ok_iff, ih,
        List.forall₂_cons_left_iff]
      constructor
      · rintro ⟨declaration, hEntry, rest, hRest, h⟩
        cases h
        exact ⟨declaration, rest, hEntry, hRest, rfl⟩
      · rintro ⟨declaration, rest, hEntry, hRest, rfl⟩
        exact ⟨declaration, hEntry, rest, hRest, rfl⟩

namespace Configuration

theorem readExtension_eq_ok_iff {value : Json} {extension : Extension} :
    readExtension value = .ok extension ↔
      IsExtension value ∧ DescribesExtension value extension := by
  constructor
  · intro h
    unfold readExtension at h
    split at h
    · next fields =>
        simp only [bind_eq_ok_iff, required_eq_ok_iff, expectString_eq_ok_iff,
          expectIdentifier_eq_ok_iff, optionalString_eq_ok_iff] at h
        obtain ⟨_, hId, id, rfl, _, hIdentifier, name, ⟨hName, rfl⟩, color, ⟨hColor, rfl⟩,
          comment, ⟨hComment, rfl⟩, h⟩ := h
        cases h
        exact ⟨⟨⟨_, hId, id, rfl, hIdentifier⟩, hName, hColor, hComment⟩, hId, rfl, rfl, rfl⟩
    · cases h
  · rintro ⟨hSchema, hId, hName, hColor, hComment⟩
    obtain ⟨fields, rfl⟩ := Json.exists_object_of_field? hId
    obtain ⟨_, hGiven, id, rfl, hIdentifier⟩ := hSchema.id
    cases hId.symm.trans hGiven
    simp only [readExtension, bind_eq_ok_iff, required_eq_ok_iff, expectString_eq_ok_iff,
      expectIdentifier_eq_ok_iff, optionalString_eq_ok_iff]
    refine ⟨_, hId, _, rfl, (), hIdentifier, _, ⟨hSchema.name, rfl⟩, _, ⟨hSchema.color, rfl⟩,
      _, ⟨hSchema.comment, rfl⟩, ?_⟩
    cases extension
    dsimp only at hName hColor hComment
    subst hName hColor hComment
    rfl

/--
The reader yields what a document that meets the schema describes, and it yields nothing for
any other document.
-/
theorem ofJson_eq_ok_iff {document : Json} {configuration : Configuration} :
    Configuration.ofJson document = .ok configuration ↔
      IsConfiguration document ∧ Describes document configuration := by
  constructor
  · intro h
    unfold Configuration.ofJson at h
    split at h
    · next fields =>
        simp only [bind_eq_ok_iff, required_eq_ok_iff, readExtension_eq_ok_iff] at h
        obtain ⟨value, hValue, blocks, hBlocks, extension, ⟨hSchema, hExtension⟩, h⟩ := h
        split at h
        · next entries =>
            simp only [bind_eq_ok_iff, Declaration.ofEntries_eq_ok_iff] at h
            obtain ⟨declarations, ⟨hEntries, hDeclarations⟩, h⟩ := h
            cases h
            exact ⟨⟨⟨value, hValue, hSchema⟩, ⟨_, hBlocks, entries, rfl, hEntries⟩⟩,
              ⟨value, hValue, hExtension⟩, entries, hBlocks, hDeclarations⟩
        · cases h
    · cases h
  · rintro ⟨hSchema, ⟨value, hValue, hExtension⟩, entries, hBlocks, hDeclarations⟩
    obtain ⟨fields, rfl⟩ := Json.exists_object_of_field? hValue
    obtain ⟨_, hGiven, hIsExtension⟩ := hSchema.extension
    cases hValue.symm.trans hGiven
    obtain ⟨_, hGiven, _, rfl, hEntries⟩ := hSchema.blocks
    cases hBlocks.symm.trans hGiven
    simp only [Configuration.ofJson, bind_eq_ok_iff, required_eq_ok_iff, readExtension_eq_ok_iff]
    refine ⟨value, hValue, _, hBlocks, _, ⟨hIsExtension, hExtension⟩, ?_⟩
    simp only [bind_eq_ok_iff, Declaration.ofEntries_eq_ok_iff]
    exact ⟨_, ⟨hEntries, hDeclarations⟩, rfl⟩

end Configuration

/-! ## What meets the schema describes something -/

private theorem exists_forall₂ {α β : Type} {R : α → β → Prop} {items : List α}
    (h : ∀ a ∈ items, ∃ b, R a b) : ∃ results, List.Forall₂ R items results := by
  induction items with
  | nil => exact ⟨[], .nil⟩
  | cons item items ih =>
      obtain ⟨b, hb⟩ := h item (List.mem_cons_self ..)
      obtain ⟨results, hResults⟩ := ih fun a ha => h a (List.mem_cons_of_mem _ ha)
      exact ⟨b :: results, .cons hb hResults⟩

private theorem exists_describesArgument {name : String} {value : Json}
    (h : IsArgument name value) : ∃ argument, DescribesArgument (name, value) argument := by
  obtain ⟨kind, hKind⟩ := present_argumentTags_iff.1 h.type
  exact ⟨⟨name, kind, _⟩, rfl, hKind, rfl⟩

private theorem exists_describesOperation {entry : Json} (h : IsOperation entry) :
    ∃ declared, DescribesOperation entry declared := by
  obtain ⟨shape, hShape⟩ := present_operationTags_iff.1 h.blockType
  obtain ⟨_, hOpcode, opcode, rfl, _⟩ := h.opcode
  obtain ⟨_, hText, text, rfl⟩ := h.text
  obtain ⟨returns, hReturns⟩ : ∃ returns : Option ReturnKind,
      returns.map ReturnKind.tag = textOf (entry.field? "returns") := by
    rcases h.returns with hNone | hNull | hTag
    · exact ⟨none, by rw [hNone]; rfl⟩
    · exact ⟨none, by rw [hNull]; rfl⟩
    · obtain ⟨kind, hKind⟩ := present_returnTags_iff.1 hTag
      exact ⟨some kind, by rw [hKind]; rfl⟩
  obtain ⟨arguments, hArguments⟩ : ∃ arguments,
      List.Forall₂ DescribesArgument (fieldsOf (entry.field? "arguments")) arguments := by
    rcases h.arguments with hNone | hNull | ⟨_, hGiven, fields, rfl, hFields⟩
    · exact ⟨[], by rw [hNone]; exact .nil⟩
    · exact ⟨[], by rw [hNull]; exact .nil⟩
    · rw [hGiven]
      exact exists_forall₂ fun field hMem => exists_describesArgument (hFields field hMem)
  obtain ⟨allow, hAllow⟩ : ∃ allow : Bool,
      allow = true ↔ entry.field? "allowDropAnywhere" = some (.bool true) := by
    by_cases hTrue : entry.field? "allowDropAnywhere" = some (.bool true)
    · exact ⟨true, by simp [hTrue]⟩
    · exact ⟨false, by simp [hTrue]⟩
  exact ⟨⟨opcode, shape, text, _, returns, allow, _, arguments⟩,
    hOpcode, hShape, hText, rfl, hReturns, hAllow, rfl, hArguments⟩

private theorem exists_describesEntry {entry : Json} (h : IsEntry entry) :
    ∃ declaration, DescribesEntry entry declaration := by
  rcases h with ⟨text, rfl⟩ | ⟨_, _, hLabel | hOperation⟩
  · by_cases hText : text = "---"
    · exact ⟨.separator, hText ▸ .separator⟩
    · exact ⟨.label text, .text hText⟩
  · obtain ⟨_, hGiven, text, rfl⟩ := hLabel.text
    exact ⟨.label text, .label hLabel.blockType hGiven⟩
  · obtain ⟨declared, hDeclared⟩ := exists_describesOperation hOperation
    exact ⟨.operation declared, .operation hDeclared⟩

/-- A document that meets the schema describes a configuration. -/
theorem exists_describes {document : Json} (h : IsConfiguration document) :
    ∃ configuration, Describes document configuration := by
  obtain ⟨value, hValue, hExtension⟩ := h.extension
  obtain ⟨_, hBlocks, entries, rfl, hEntries⟩ := h.blocks
  obtain ⟨_, hId, id, rfl, _⟩ := hExtension.id
  obtain ⟨declarations, hDeclarations⟩ :=
    exists_forall₂ fun entry hMem => exists_describesEntry (hEntries entry hMem)
  have hDescribed : DescribesExtension value ⟨id, (textOf (value.field? "name")).getD id, _, _⟩ :=
    ⟨hId, rfl, rfl, rfl⟩
  exact ⟨⟨_, declarations⟩, ⟨value, hValue, hDescribed⟩, entries, hBlocks, hDeclarations⟩

/--
The reader accepts a document exactly if it meets the schema, and then yields the
configuration that the document describes.
-/
theorem Configuration.ofJson_exact (document : Json) :
    ((∃ configuration, Configuration.ofJson document = .ok configuration) ↔
      IsConfiguration document) ∧
    ∀ configuration, Configuration.ofJson document = .ok configuration ↔
      IsConfiguration document ∧ Describes document configuration := by
  refine ⟨⟨?_, ?_⟩, fun configuration => ofJson_eq_ok_iff⟩
  · rintro ⟨configuration, hRead⟩
    exact (ofJson_eq_ok_iff.1 hRead).1
  · intro hSchema
    obtain ⟨configuration, hDescribes⟩ := exists_describes hSchema
    exact ⟨configuration, ofJson_eq_ok_iff.2 ⟨hSchema, hDescribes⟩⟩

end BlockExtension
