import Mathlib
import BlockExtension.Generation
import BlockExtension.Proofs.Resolution
import BlockExtension.Proofs.Schema

/-!
# Keys that a document repeats

Two arguments of an operation must not have one name, and the resolver checks it. The
arguments of a configuration text, though, are the fields of an object. When a key is
written again in an object, the document is settled before anything else is read: the
key keeps its first place and takes its last value. So the check never finds anything
wrong with what comes from a text, however often the text repeats a name, and a
repeated argument is declared once, as it was written last.

## Main results

* `Association.keys_putAll`, `Association.lookup_putAll`: a repeated key keeps its first
  place and takes its last value.
* `Json.field?_settle`: a field of a settled document is the last one written.
* `Configuration.quiet_ofJson`: reading a document never finds a repeated argument.
* `Resolution.resolveFrom_ne_repeated`: nor does resolving, where all names differ.
* `generate_repeated_arguments`: the arguments that a text with repetitions declares.
-/

namespace BlockExtension

/-! ## Entries that are written in turn -/

namespace Association

variable {κ α : Type} [BEq κ]

theorem putAll_concat (entries : List (κ × α)) (entry : κ × α) :
    putAll (entries ++ [entry]) = put (putAll entries) entry.1 entry.2 := by
  simp [putAll]

variable [LawfulBEq κ]

/-- The keys stand in the order in which they were first written. -/
theorem keys_putAll (entries : List (κ × α)) :
    (putAll entries).map Prod.fst = (entries.map Prod.fst).eraseDups := by
  induction entries using List.reverseRecOn with
  | nil => rfl
  | append_singleton entries entry ih =>
      rw [putAll_concat, keys_put, ih, List.map_append, List.eraseDups_append]
      by_cases hKey : entry.1 ∈ entries.map Prod.fst
      · simp [hKey, List.removeAll]
      · simp [hKey, List.removeAll, List.eraseDups_cons]

/-- No key stands twice. -/
theorem nodup_keys_putAll (entries : List (κ × α)) : ((putAll entries).map Prod.fst).Nodup := by
  induction entries using List.reverseRecOn with
  | nil => exact List.nodup_nil
  | append_singleton entries entry ih =>
      rw [putAll_concat, keys_put]
      split
      · exact ih
      · next hNew => exact List.nodup_append_comm.1 (List.nodup_cons.2 ⟨hNew, ih⟩)

/-- A key has the value that was written last. -/
theorem lookup_putAll (entries : List (κ × α)) (key : κ) :
    (putAll entries).lookup key = entries.reverse.lookup key := by
  induction entries using List.reverseRecOn with
  | nil => rfl
  | append_singleton entries entry ih =>
      rw [putAll_concat, List.reverse_append, List.reverse_singleton, List.singleton_append,
        List.lookup_cons]
      by_cases hKey : key = entry.1
      · rw [hKey, lookup_put_self, beq_self_eq_true]
      · rw [lookup_put_of_ne _ _ hKey, ih, beq_eq_false_iff_ne.2 hKey]

/-- Where no key stands twice, an entry is what its key leads to. -/
theorem lookup_of_mem {entries : List (κ × α)} (hKeys : (entries.map Prod.fst).Nodup)
    {entry : κ × α} (hMem : entry ∈ entries) : entries.lookup entry.1 = some entry.2 := by
  obtain ⟨before, after, rfl⟩ := List.append_of_mem hMem
  rw [List.map_append, List.map_cons, List.nodup_middle, List.nodup_cons] at hKeys
  refine List.lookup_eq_some_iff.2 ⟨before, after, rfl, fun other hOther => ?_⟩
  have hKey : entry.1 ≠ other.1 := fun hSame =>
    hKeys.1 (List.mem_append_left _ (hSame ▸ List.mem_map_of_mem hOther))
  exact bne_iff_ne.2 hKey

end Association

/-! ## Settled documents -/

namespace Json

theorem settleItems_eq_map (items : List Json) : settleItems items = items.map settle := by
  induction items with
  | nil => rfl
  | cons item rest ih => rw [settleItems, ih, List.map_cons]

theorem settleFields_eq_map (fields : List (String × Json)) :
    settleFields fields = fields.map (Prod.map id settle) := by
  induction fields with
  | nil => rfl
  | cons field rest ih => rw [settleFields, ih, List.map_cons, Prod.map, id]

/-- The value that an object gives to a key when it writes the key for the last time. -/
def lastField? (value : Json) (key : String) : Option Json :=
  match value with
  | .object fields => fields.reverse.lookup key
  | _ => none

/-- The settled fields of an object have the settled values that were written last. -/
theorem lookup_settleFields (fields : List (String × Json)) (key : String) :
    (Association.putAll (settleFields fields)).lookup key =
      (fields.reverse.lookup key).map settle := by
  have hLookup (fields : List (String × Json)) :
      (fields.map (Prod.map id settle)).lookup key = (fields.lookup key).map settle := by
    induction fields with
    | nil => rfl
    | cons field rest ih =>
        rw [List.map_cons, Prod.map, id, List.lookup_cons, List.lookup_cons, ih]
        cases key == field.1 <;> rfl
  rw [Association.lookup_putAll, settleFields_eq_map, ← List.map_reverse, hLookup]

/-- A field of a settled document is the last one written. -/
theorem field?_settle (value : Json) (key : String) :
    value.settle.field? key = (value.lastField? key).map settle := by
  cases value with
  | object fields => exact lookup_settleFields fields key
  | _ => rfl

theorem eq_array_of_settle {value : Json} {items : List Json} (h : value.settle = .array items) :
    ∃ written, value = .array written ∧ items = written.map settle := by
  cases value <;> simp only [settle, reduceCtorEq, array.injEq] at h
  next written => exact ⟨written, rfl, by rw [← h, settleItems_eq_map]⟩

end Json

/-! ## Reading never finds a repeated argument -/

def Fault.RepeatsArgument (fault : Fault) : Prop :=
  ∃ block argument, fault = .duplicateArgument block argument

/-- An outcome that is no complaint about a repeated argument. -/
structure Quiet {α : Type} (outcome : Except Fault α) : Prop where
  not_repeats : ∀ fault, outcome = .error fault → ¬ fault.RepeatsArgument

namespace Quiet

variable {α β : Type}

theorem ok (value : α) : Quiet (.ok value) := ⟨nofun⟩

/-- Any other complaint is quiet. -/
theorem error {fault : Fault} (h : ∀ block argument, fault ≠ .duplicateArgument block argument) :
    Quiet (.error fault : Except Fault α) := by
  refine ⟨?_⟩
  rintro _ ⟨⟩ ⟨block, argument, hFault⟩
  exact h block argument hFault

theorem bind {first : Except Fault α} {next : α → Except Fault β} (hFirst : Quiet first)
    (hNext : ∀ value, Quiet (next value)) : Quiet (first >>= next) := by
  cases first with
  | ok value => exact hNext value
  | error fault =>
      refine ⟨?_⟩
      rintro _ ⟨⟩
      exact hFirst.not_repeats fault rfl

theorem map {first : Except Fault α} (h : Quiet first) (f : α → β) : Quiet (first.map f) := by
  cases first with
  | ok value => exact ok (f value)
  | error fault =>
      refine ⟨?_⟩
      rintro _ ⟨⟩
      exact h.not_repeats fault rfl

theorem mapM {f : α → Except Fault β} (h : ∀ item, Quiet (f item)) (items : List α) :
    Quiet (items.mapM f) := by
  induction items with
  | nil => exact ok []
  | cons item rest ih =>
      rw [List.mapM_cons]
      exact (h item).bind fun _ => ih.bind fun _ => ok _

end Quiet

namespace Configuration

theorem quiet_required (value : Option Json) (field : String) : Quiet (required value field) := by
  cases value with
  | none => exact .error nofun
  | some value => exact .ok value

theorem quiet_expectString (value : Json) (field : String) :
    Quiet (expectString value field) := by
  unfold expectString
  split
  · exact .ok _
  · exact .error nofun

theorem quiet_optionalString (value : Option Json) (field : String) :
    Quiet (optionalString value field) := by
  unfold optionalString
  split
  · exact .ok none
  · exact .ok none
  · exact (quiet_expectString _ field).map some

theorem quiet_expectIdentifier (what value : String) : Quiet (expectIdentifier what value) := by
  unfold expectIdentifier
  split
  · exact .ok ()
  · exact .error nofun

theorem quiet_defaultValue (value : Option Json) (field : String) :
    Quiet (defaultValue value field) := by
  unfold defaultValue
  split
  all_goals first | exact .ok _ | exact .error nofun

theorem quiet_requiredText (text : Option String) (field : String) :
    Quiet (requiredText text field) := by
  cases text with
  | none => exact .error nofun
  | some text => exact .ok text

theorem quiet_readAllowDrop (index : Nat) (value : Option Json) :
    Quiet (readAllowDrop index value) := by
  unfold readAllowDrop
  split
  all_goals first | exact .ok _ | exact .error nofun

theorem quiet_readReturns (index : Nat) (block : BlockRef) (value : Option Json) :
    Quiet (readReturns index block value) := by
  refine (quiet_optionalString ..).bind fun tag => ?_
  cases tag with
  | none => exact .ok none
  | some tag =>
      dsimp only
      cases ReturnKind.ofTag? tag with
      | none => exact .error nofun
      | some kind => exact .ok (some kind)

theorem quiet_readArgument (index : Nat) (block : BlockRef) (name : String) (value : Json) :
    Quiet (readArgument index block name value) := by
  unfold readArgument
  refine (quiet_expectIdentifier ..).bind fun _ => ?_
  by_cases hReserved : reservedNames.contains name
  · rw [if_pos hReserved]
    exact .error nofun
  rw [if_neg hReserved]
  cases value with
  | object fields =>
      refine (quiet_required ..).bind fun _ => (quiet_expectString ..).bind fun tag => ?_
      cases ArgumentKind.ofTag? tag with
      | none => exact .error nofun
      | some kind => exact (quiet_defaultValue ..).bind fun _ => .ok _
  | _ => exact .error nofun

theorem quiet_readArguments (index : Nat) (block : BlockRef) (value : Option Json) :
    Quiet (readArguments index block value) := by
  unfold readArguments
  split
  · exact .ok []
  · exact .ok []
  · exact .mapM (fun field : String × Json => quiet_readArgument index block field.1 field.2) _
  · exact .error nofun

theorem quiet_readFields (index : Nat) (fields : List (String × Json)) :
    Quiet (readFields index fields) := by
  unfold readFields
  refine (quiet_optionalString ..).bind fun opcode => ?_
  refine (quiet_required ..).bind fun _ => (quiet_expectString ..).bind fun tag => ?_
  refine (quiet_optionalString ..).bind fun text => ?_
  split
  · exact (quiet_requiredText ..).bind fun _ => .ok _
  cases BlockShape.ofTag? tag with
  | none => exact .error nofun
  | some shape =>
      refine (quiet_requiredText ..).bind fun _ => (quiet_expectIdentifier ..).bind fun _ => ?_
      refine (quiet_requiredText ..).bind fun _ => (quiet_optionalString ..).bind fun _ => ?_
      refine (quiet_readReturns ..).bind fun _ => (quiet_readAllowDrop ..).bind fun _ => ?_
      exact (quiet_optionalString ..).bind fun _ => (quiet_readArguments ..).bind fun _ => .ok _

theorem quiet_ofEntries (index : Nat) (entries : List Json) :
    Quiet (Declaration.ofEntries index entries) := by
  induction entries generalizing index with
  | nil => exact .ok []
  | cons entry rest ih =>
      have hEntry : Quiet (Declaration.ofJson index entry) := by
        unfold Declaration.ofJson
        split
        · split
          · exact .ok _
          · exact .ok _
        · exact quiet_readFields index _
        · exact .error nofun
      exact hEntry.bind fun _ => (ih (index + 1)).bind fun _ => .ok _

theorem quiet_readExtension (value : Json) : Quiet (readExtension value) := by
  cases value with
  | object fields =>
      refine (quiet_required ..).bind fun _ => (quiet_expectString ..).bind fun _ => ?_
      refine (quiet_expectIdentifier ..).bind fun _ => (quiet_optionalString ..).bind fun _ => ?_
      exact (quiet_optionalString ..).bind fun _ => (quiet_optionalString ..).bind fun _ => .ok _
  | _ => exact .error nofun

/-- Reading a document never finds a repeated argument. -/
theorem quiet_ofJson (document : Json) : Quiet (Configuration.ofJson document) := by
  cases document with
  | object fields =>
      refine (quiet_required ..).bind fun _ => (quiet_required ..).bind fun blocks => ?_
      refine (quiet_readExtension _).bind fun _ => ?_
      cases blocks with
      | array entries => exact (quiet_ofEntries 0 entries).bind fun _ => .ok _
      | _ => exact .error nofun
  | _ => exact .error nofun

end Configuration

/-! ## Nor does resolving, where all names differ -/

namespace Resolution

theorem quiet_checkOpcode (seen : List (String × Nat)) (opcode : String) (position : Nat) :
    Quiet (checkOpcode seen opcode position) := by
  unfold checkOpcode
  split
  · exact .error nofun
  · exact .ok ()

theorem quiet_checkPlaceholders (opcode : String) (field : PlaceholderField)
    (arguments : List Argument) (segments : List Segment) :
    Quiet (checkPlaceholders opcode field arguments segments) := by
  unfold checkPlaceholders
  split
  · exact .error nofun
  · exact .ok ()

theorem quiet_reportOf (opcode : String) (arguments : List Argument) (reports : Option String) :
    Quiet (reportOf opcode arguments reports) := by
  cases reports with
  | none => cases arguments <;> exact .ok _
  | some name =>
      unfold reportOf
      dsimp only
      split
      · exact .ok _
      · exact .error nofun

theorem quiet_resolveOperation (declared : OperationDeclaration) (ids : List String) :
    Quiet (resolveOperation declared ids) := by
  rw [resolveOperation_eq]
  refine (quiet_checkPlaceholders ..).bind fun _ => ?_
  have hCode : Quiet (boundCode declared (nameArguments declared.arguments ids)) := by
    unfold boundCode
    split
    · exact ((quiet_checkPlaceholders ..).map _).map some
    · exact .ok none
  exact hCode.bind fun _ => (quiet_reportOf ..).bind fun _ => .ok _

/-- Where the arguments of each operation have different names, none is found to be repeated. -/
theorem resolveFrom_ne_repeated {position : Nat} {seen : List (String × Nat)} {naming : Naming}
    {declarations : List Declaration} {fault : Fault} (hRepeats : fault.RepeatsArgument)
    (hNames : ∀ declared, .operation declared ∈ declarations →
      (declared.arguments.map (·.name)).Nodup) :
    resolveFrom position seen naming declarations ≠ .error (.fault fault) := by
  have hRest {outcome : Except Failure Resolution} {f : Resolution → Resolution}
      (h : outcome ≠ .error (.fault fault)) : outcome.map f ≠ .error (.fault fault) := by
    cases outcome with
    | ok resolution => simp [Except.map]
    | error failure => exact h
  induction declarations generalizing position seen naming with
  | nil => simp [resolveFrom]
  | cons declaration rest ih =>
      have ih {position : Nat} {seen : List (String × Nat)} {naming : Naming} :
          resolveFrom position seen naming rest ≠ .error (.fault fault) :=
        ih fun declared hMem => hNames declared (List.mem_cons_of_mem _ hMem)
      cases declaration with
      | separator | label text => exact hRest ih
      | operation declared =>
          have hArguments : checkArguments declared = .ok () :=
            checkArguments_eq_ok_iff.2 (hNames declared (List.mem_cons_self ..))
          simp only [resolveFrom, hArguments]
          cases hOpcode : checkOpcode seen declared.opcode position with
          | error other =>
              rintro ⟨⟩
              exact (quiet_checkOpcode ..).not_repeats _ hOpcode hRepeats
          | ok _ =>
          cases naming.take declared.opcode 1 declared.arguments.length with
          | none =>
              intro h
              cases h
          | some taken =>
          cases hOperation : resolveOperation declared taken.1 with
          | error other =>
              intro h
              simp only [hOperation] at h
              cases h
              exact (quiet_resolveOperation ..).not_repeats _ hOperation hRepeats
          | ok resolved =>
              simp only [hOperation]
              exact hRest ih

end Resolution

/-! ## From a text -/

private theorem exists_getElem? {α β : Type} {R : α → β → Prop} {items : List α}
    {others : List β} (h : List.Forall₂ R items others) {index : Nat} {other : β}
    (hAt : others[index]? = some other) : ∃ item, items[index]? = some item ∧ R item other := by
  induction h generalizing index with
  | nil => cases hAt
  | cons hHead _ ih =>
      cases index with
      | zero =>
          cases hAt
          exact ⟨_, rfl, hHead⟩
      | succ index => exact ih hAt

open Schema in
/--
An operation declares the arguments of an entry, each as it is written last. The arguments
stand in the order in which their keys are written first.
-/
structure OperationDeclaration.DeclaresLast (declared : OperationDeclaration) (entry : Json) :
    Prop where
  /-- A name that is repeated stands at its first place only. -/
  names : declared.arguments.map (·.name) =
    ((fieldsOf (entry.lastField? "arguments")).map Prod.fst).eraseDups
  /-- The argument is the one that was written last under its name. -/
  arguments : ∀ argument ∈ declared.arguments, ∃ value,
    (fieldsOf (entry.lastField? "arguments")).reverse.lookup argument.name = some value ∧
      DescribesArgument (argument.name, value.settle) argument

open Schema in
/-- What a settled entry describes declares the arguments that were written last. -/
theorem declaresLast_of_describes {entry : Json} {declared : OperationDeclaration}
    (h : DescribesOperation entry.settle declared) : declared.DeclaresLast entry := by
  have hFields : fieldsOf (entry.settle.field? "arguments") =
      Association.putAll (Json.settleFields (fieldsOf (entry.lastField? "arguments"))) := by
    rw [Json.field?_settle]
    cases entry.lastField? "arguments" with
    | none => rfl
    | some value => cases value <;> rfl
  have hEach := h.arguments
  rw [hFields] at hEach
  refine
    { names := ?_
      arguments := fun argument hArgument => ?_ }
  · have hNames : (Association.putAll (Json.settleFields
        (fieldsOf (entry.lastField? "arguments")))).map Prod.fst =
          declared.arguments.map (·.name) := by
      rw [← List.forall₂_eq_eq_eq, List.forall₂_map_left_iff, List.forall₂_map_right_iff]
      exact hEach.imp fun field argument hField => hField.name.symm
    rw [← hNames, Association.keys_putAll, Json.settleFields_eq_map, List.map_map]
    rfl
  · obtain ⟨index, hAt⟩ := List.mem_iff_getElem?.1 hArgument
    obtain ⟨field, hField, hDescribes⟩ := exists_getElem? hEach hAt
    have hLookup := Association.lookup_of_mem (Association.nodup_keys_putAll _)
      (List.mem_of_getElem? hField)
    rw [Json.lookup_settleFields, Option.map_eq_some_iff] at hLookup
    obtain ⟨value, hValue, hSettled⟩ := hLookup
    refine ⟨value, hDescribes.name ▸ hValue, ?_⟩
    rw [hSettled, hDescribes.name]
    exact hDescribes

open Schema in
/--
No configuration text is refused because an argument is repeated, neither when it is
read nor when a module is generated from it: each operation declares the arguments of
its entry, and those that are repeated only once, as they are written last.
-/
theorem generate_repeated_arguments (naming : Naming) (text : String) :
    (∀ fault, Configuration.parse text = .error (.fault fault) → ¬ fault.RepeatsArgument) ∧
    ∀ configuration, Configuration.parse text = .ok configuration →
      (∀ fault, generate naming configuration = .error (.fault fault) →
        ¬ fault.RepeatsArgument) ∧
      ∃ written entries, Json.written? Json.nestingLimit text = some written ∧
        written.lastField? "blocks" = some (.array entries) ∧
        ∀ (index : Nat) (declared : OperationDeclaration),
          configuration.blocks[index]? = some (.operation declared) →
            ∃ entry, entries[index]? = some entry ∧ declared.DeclaresLast entry := by
  unfold Configuration.parse Json.parse?
  cases hWritten : Json.written? Json.nestingLimit text with
  | none => exact ⟨nofun, nofun⟩
  | some written =>
  dsimp only [Option.map_some]
  cases hRead : Configuration.ofJson written.settle with
  | error fault =>
      refine ⟨?_, nofun⟩
      rintro _ ⟨⟩
      exact (Configuration.quiet_ofJson _).not_repeats fault hRead
  | ok configuration =>
  refine ⟨nofun, ?_⟩
  rintro _ ⟨⟩
  obtain ⟨settled, hSettled, hBlocks⟩ := (Configuration.ofJson_eq_ok_iff.1 hRead).2.blocks
  rw [Json.field?_settle, Option.map_eq_some_iff] at hSettled
  obtain ⟨value, hValue, hArray⟩ := hSettled
  obtain ⟨entries, rfl, rfl⟩ := Json.eq_array_of_settle hArray
  have hDeclared : ∀ (index : Nat) (declared : OperationDeclaration),
      configuration.blocks[index]? = some (.operation declared) →
        ∃ entry, entries[index]? = some entry ∧ declared.DeclaresLast entry := by
    intro index declared hAt
    obtain ⟨item, hItem, hDescribes⟩ := exists_getElem? hBlocks hAt
    rw [List.getElem?_map, Option.map_eq_some_iff] at hItem
    obtain ⟨entry, hEntry, hSame⟩ := hItem
    cases hDescribes with
    | operation hOperation =>
        exact ⟨entry, hEntry, declaresLast_of_describes (hSame ▸ hOperation)⟩
  refine ⟨fun fault hFault hRepeats => ?_, written, entries, rfl, hValue, hDeclared⟩
  rw [generate_eq_error_iff] at hFault
  refine Resolution.resolveFrom_ne_repeated hRepeats (fun declared hMem => ?_) hFault
  obtain ⟨index, hAt⟩ := List.mem_iff_getElem?.1 hMem
  obtain ⟨entry, _, hLast⟩ := hDeclared index declared hAt
  rw [hLast.names, ← Association.keys_putAll]
  exact Association.nodup_keys_putAll _

/-- A configuration in which an operation has an argument twice, of different kinds. -/
def argumentTwice : String :=
  "\x7b\"extension\":\x7b\"id\":\"ext\"\x7d,\"blocks\":[\x7b\"opcode\":\"say\"," ++
    "\"blockType\":\"COMMAND\",\"text\":\"say [x]\",\"arguments\":\x7b" ++
    "\"x\":\x7b\"type\":\"STRING\"\x7d,\"x\":\x7b\"type\":\"NUMBER\"\x7d\x7d\x7d]\x7d"

/-- The repetition is there to be seen in the document. -/
theorem written_argumentTwice :
    Json.written? Json.nestingLimit argumentTwice = some (.object
      [("extension", .object [("id", .string "ext")]),
        ("blocks", .array [.object [("opcode", .string "say"), ("blockType", .string "COMMAND"),
          ("text", .string "say [x]"),
          ("arguments", .object [("x", .object [("type", .string "STRING")]),
            ("x", .object [("type", .string "NUMBER")])])]])]) := by cbv

/-- What the configuration declares: the argument is a number. -/
def argumentOnce : Configuration :=
  ⟨⟨"ext", "ext", none, none⟩,
    [.operation ⟨"say", .command, "say [x]", none, none, false, none, [⟨"x", .number, none⟩]⟩]⟩

theorem parse_argumentTwice : Configuration.parse argumentTwice = .ok argumentOnce := by
  rw [Configuration.parse, Json.parse?, written_argumentTwice]
  rfl

/-- The argument is declared as it is written the second time. -/
theorem generate_repeated_arguments_twice :
    Configuration.parse argumentTwice = .ok argumentOnce ∧
      ∃ written entries entry, Json.written? Json.nestingLimit argumentTwice = some written ∧
        written.lastField? "blocks" = some (.array entries) ∧ entries[0]? = some entry ∧
        (⟨"say", .command, "say [x]", none, none, false, none,
          [⟨"x", .number, none⟩]⟩ : OperationDeclaration).DeclaresLast entry := by
  obtain ⟨_, hRead⟩ := generate_repeated_arguments .ordinal argumentTwice
  obtain ⟨_, written, entries, hWritten, hEntries, hEach⟩ := hRead _ parse_argumentTwice
  obtain ⟨entry, hEntry, hLast⟩ := hEach 0 _ rfl
  exact ⟨parse_argumentTwice, written, entries, entry, hWritten, hEntries, hEntry, hLast⟩

open Schema in
/-- A text that repeats an argument of an operation, and a module generated from it. -/
theorem argumentTwice_generates :
    ∃ written entries entry configuration generated,
      Json.written? Json.nestingLimit argumentTwice = some written ∧
      written.lastField? "blocks" = some (.array entries) ∧ entry ∈ entries ∧
      ¬ ((fieldsOf (entry.lastField? "arguments")).map Prod.fst).Nodup ∧
      Configuration.parse argumentTwice = .ok configuration ∧
      generate .ordinal configuration = .ok generated := by
  have hResolves : resolve .ordinal argumentOnce.blocks = .ok
      ⟨[.operation ⟨"say", .command, "say [x]", none, none, false, .argument "say_arg1",
        [⟨"x", .number, "say_arg1", none⟩]⟩], []⟩ := by cbv
  refine ⟨_, _, _, argumentOnce, _, written_argumentTwice, rfl, List.mem_singleton_self _, ?_,
    parse_argumentTwice, by rw [generate, hResolves]; rfl⟩
  decide

end BlockExtension
