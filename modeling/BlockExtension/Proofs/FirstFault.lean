import BlockExtension.Proofs.Resolution

/-!
# The first fault of a palette

Resolving under the ordinal policy never runs out of names, so it fails for one
reason only: something is wrong with an operation. What can be wrong is said here
without the walk over the palette. An operation is `Faultless` if its opcode is
new, its arguments have different names, and its text, its code and its report
name nothing but its arguments. A `Complaint` is one way not to be, together with
the fault that says so, and the checks that can complain have an order.

The fault of a palette is the first complaint about its first operation that is
not faultless. The walk keeps one invariant: the table of opcodes holds those of
the operations before, each with its position, and all of these are faultless.

## Main results

* `Placeholder.stands_of_mem_scan`: the column of a placeholder is where its
  bracket stands in the text.
* `FirstFault.unique`: a palette has one first fault at most.
* `resolve_ordinal_exact`: a palette resolves exactly if every operation is
  faultless, and fails with a fault exactly if that is its first one.
-/

namespace BlockExtension

/-! ## Where placeholders stand -/

namespace Placeholder

/-- A bracketed name stands in a text, with its opening bracket at a column counted from one. -/
def StandsIn (text : List Char) (name : String) (column : Nat) : Prop :=
  ∃ front back, text = front ++ '[' :: (name.toList ++ ']' :: back) ∧ column = front.length + 1

private theorem exists_of_mem_scanFrom {column : Nat} {pending text : List Char} {name : String}
    {found : Nat} (h : .placeholder name found ∈ scanFrom column pending text) :
    ∃ front back, text = front ++ '[' :: (name.toList ++ ']' :: back) ∧
      found = column + front.length := by
  have hFlush : ∀ pending, Segment.placeholder name found ∉ flush pending := by
    intro pending hMem
    unfold flush at hMem
    split at hMem <;> simp at hMem
  fun_induction scanFrom column pending text with
  | case1 column pending => exact absurd h (hFlush pending)
  | case2 column pending rest read rest' hRead ih =>
      have hRest := (eq_of_readName hRead).1
      rcases List.mem_append.1 h with h | h
      · exact absurd h (hFlush pending)
      · rcases List.mem_cons.1 h with h | h
        · cases h
          exact ⟨[], rest', by simp [hRest], rfl⟩
        · obtain ⟨front, back, hText, hFound⟩ := ih h
          refine ⟨'[' :: (read ++ ']' :: front), back, ?_, ?_⟩
          · simp [hRest, hText]
          · simp only [List.length_cons, List.length_append]
            omega
  | case3 column pending rest hRead ih =>
      obtain ⟨front, back, hText, hFound⟩ := ih h
      refine ⟨'[' :: front, back, by simp [hText], ?_⟩
      simp only [List.length_cons]
      omega
  | case4 column pending c rest hOpen ih =>
      obtain ⟨front, back, hText, hFound⟩ := ih h
      refine ⟨c :: front, back, by simp [hText], ?_⟩
      simp only [List.length_cons]
      omega

/-- The column of a placeholder is where its bracket stands in the text. -/
theorem stands_of_mem_scan {text name : String} {column : Nat}
    (h : .placeholder name column ∈ scan text) : StandsIn text.toList name column := by
  obtain ⟨front, back, hText, hColumn⟩ := exists_of_mem_scanFrom h
  exact ⟨front, back, hText, by omega⟩

end Placeholder

def OperationDeclaration.names (declared : OperationDeclaration) : List String :=
  declared.arguments.map (·.name)

namespace Resolution

/-! ## Faultless operations -/

def NewOpcode (declarations : List Declaration) (index : Nat) (opcode : String) : Prop :=
  ∀ earlier < index, ∀ other, declarations[earlier]? = some (.operation other) →
    other.opcode ≠ opcode

/-- Every placeholder of a text is one of the names. -/
def AllDeclared (names : List String) (text : String) : Prop :=
  ∀ name column, .placeholder name column ∈ Placeholder.scan text → name ∈ names

/--
Nothing is wrong with the operation at an index of a palette. This says for each check what
it demands, without saying how it is made.
-/
structure Faultless (declarations : List Declaration) (index : Nat)
    (declared : OperationDeclaration) : Prop where
  opcode_new : NewOpcode declarations index declared.opcode
  names_nodup : declared.names.Nodup
  text_declared : AllDeclared declared.names declared.text
  code_declared : ∀ code, declared.code = some code → AllDeclared declared.names code
  report_declared : ∀ name, declared.reports = some name → name ∈ declared.names

def FaultlessBefore (declarations : List Declaration) (index : Nat) : Prop :=
  ∀ earlier < index, ∀ other, declarations[earlier]? = some (.operation other) →
    Faultless declarations earlier other

/-- Nothing is wrong with any operation of a palette. -/
def Acceptable (declarations : List Declaration) : Prop :=
  ∀ (index : Nat) (declared : OperationDeclaration),
    declarations[index]? = some (.operation declared) → Faultless declarations index declared

/-! ## Complaints -/

/--
The only operation before an index that has the opcode is at `first`. That is the position
which the message about the second one names.
-/
structure OnlyEarlier (declarations : List Declaration) (index first : Nat) (opcode : String) :
    Prop where
  first_lt : first < index
  exists_operation : ∃ other, declarations[first]? = some (.operation other) ∧
    other.opcode = opcode
  only : ∀ earlier < index, ∀ other, declarations[earlier]? = some (.operation other) →
    other.opcode = opcode → earlier = first

def FirstRepeated (names : List String) (name : String) : Prop :=
  ∃ before after, names = before ++ name :: after ∧ before.Nodup ∧ name ∈ before

/--
The first placeholder of a text that is none of the names, and the column where it stands,
counted in characters from one.
-/
structure FirstUndeclared (names : List String) (text name : String) (column : Nat) : Prop where
  first : ∃ before after, placeholders (Placeholder.scan text) = before ++ (name, column) :: after ∧
    ∀ placeholder ∈ before, placeholder.1 ∈ names
  undeclared : name ∉ names
  stands : Placeholder.StandsIn text.toList name column

/-- What is checked of an operation. -/
inductive Check where
  | opcode
  | argumentNames
  | text
  | code
  | report
  deriving DecidableEq, Repr

/-- The checks are made in this order. -/
def Check.rank : Check → Nat
  | .opcode => 0
  | .argumentNames => 1
  | .text => 2
  | .code => 3
  | .report => 4

/--
What a check finds wrong with the operation at an index, and the fault that says so.
Positions in faults are counted from one, and separators and labels count too.
-/
inductive Complaint (declarations : List Declaration) (index : Nat)
    (declared : OperationDeclaration) : Check → Fault → Prop where
  | opcode {first : Nat} (h : OnlyEarlier declarations index first declared.opcode) :
      Complaint declarations index declared .opcode
        (.duplicateOpcode declared.opcode (first + 1) (index + 1))
  | argumentNames {name : String} (h : FirstRepeated declared.names name) :
      Complaint declarations index declared .argumentNames
        (.duplicateArgument (.opcode declared.opcode) name)
  | text {name : String} {column : Nat}
      (h : FirstUndeclared declared.names declared.text name column) :
      Complaint declarations index declared .text
        (.unresolvedPlaceholder (.opcode declared.opcode) .text name column)
  | code {code name : String} {column : Nat} (hCode : declared.code = some code)
      (h : FirstUndeclared declared.names code name column) :
      Complaint declarations index declared .code
        (.unresolvedPlaceholder (.opcode declared.opcode) .code name column)
  | report {name : String} (hReports : declared.reports = some name)
      (h : name ∉ declared.names) :
      Complaint declarations index declared .report
        (.unknownReportArgument (.opcode declared.opcode) name)

/-- The complaint of the first check that has one. What later checks would find is not reported. -/
def FirstComplaint (declarations : List Declaration) (index : Nat)
    (declared : OperationDeclaration) (fault : Fault) : Prop :=
  ∃ check, Complaint declarations index declared check fault ∧
    ∀ earlier : Check, earlier.rank < check.rank →
      ∀ other, ¬ Complaint declarations index declared earlier other

/-- The first complaint about the first operation that is not faultless. -/
def FirstFault (declarations : List Declaration) (fault : Fault) : Prop :=
  ∃ (index : Nat) (declared : OperationDeclaration),
    declarations[index]? = some (.operation declared) ∧
    FaultlessBefore declarations index ∧ FirstComplaint declarations index declared fault

/-! ## A check complains only about what is wrong -/

theorem FirstRepeated.not_nodup {names : List String} {name : String}
    (h : FirstRepeated names name) : ¬ names.Nodup := by
  obtain ⟨before, after, rfl, _, hMem⟩ := h
  intro hNodup
  exact (List.nodup_append.1 hNodup).2.2 name hMem name (List.mem_cons_self ..) rfl

theorem FirstUndeclared.mem_scan {names : List String} {text name : String} {column : Nat}
    (h : FirstUndeclared names text name column) :
    .placeholder name column ∈ Placeholder.scan text := by
  obtain ⟨before, after, hSplit, _⟩ := h.first
  rw [← placeholders_scan, hSplit]
  exact List.mem_append_right _ (List.mem_cons_self ..)

theorem FirstUndeclared.not_allDeclared {names : List String} {text name : String} {column : Nat}
    (h : FirstUndeclared names text name column) : ¬ AllDeclared names text :=
  fun hAll => h.undeclared (hAll name column h.mem_scan)

theorem OnlyEarlier.not_newOpcode {declarations : List Declaration} {index first : Nat}
    {opcode : String} (h : OnlyEarlier declarations index first opcode) :
    ¬ NewOpcode declarations index opcode := by
  obtain ⟨other, hOther, hSame⟩ := h.exists_operation
  exact fun hNew => hNew first h.first_lt other hOther hSame

/-- What a check demands of an operation. -/
def Check.Passes (declarations : List Declaration) (index : Nat)
    (declared : OperationDeclaration) : Check → Prop
  | .opcode => NewOpcode declarations index declared.opcode
  | .argumentNames => declared.names.Nodup
  | .text => AllDeclared declared.names declared.text
  | .code => ∀ code, declared.code = some code → AllDeclared declared.names code
  | .report => ∀ name, declared.reports = some name → name ∈ declared.names

section Operation

variable {declarations : List Declaration} {index : Nat} {declared : OperationDeclaration}

/-- A check that is passed has no complaint. -/
theorem Check.Passes.not_complaint {check : Check} (h : check.Passes declarations index declared)
    (fault : Fault) : ¬ Complaint declarations index declared check fault := by
  intro hComplaint
  cases hComplaint with
  | opcode hOnly => exact hOnly.not_newOpcode h
  | argumentNames hRepeated => exact hRepeated.not_nodup h
  | text hUndeclared => exact hUndeclared.not_allDeclared h
  | code hCode hUndeclared => exact hUndeclared.not_allDeclared (h _ hCode)
  | report hReports hUnknown => exact hUnknown (h _ hReports)

theorem Faultless.passes (h : Faultless declarations index declared) (check : Check) :
    check.Passes declarations index declared := by
  cases check with
  | opcode => exact h.opcode_new
  | argumentNames => exact h.names_nodup
  | text => exact h.text_declared
  | code => exact h.code_declared
  | report => exact h.report_declared

theorem faultless_of_passes (h : ∀ check : Check, check.Passes declarations index declared) :
    Faultless declarations index declared where
  opcode_new := h .opcode
  names_nodup := h .argumentNames
  text_declared := h .text
  code_declared := h .code
  report_declared := h .report

theorem FirstComplaint.not_faultless {fault : Fault}
    (h : FirstComplaint declarations index declared fault) :
    ¬ Faultless declarations index declared := by
  obtain ⟨check, hComplaint, _⟩ := h
  exact fun hFaultless => (hFaultless.passes check).not_complaint fault hComplaint

end Operation

/-! ## There is one first fault -/

/--
Two splits at the first member without a property are the same. If one of them were longer,
the member of the other would stand in front of its own.
-/
private theorem eq_of_splits {α : Type} {P : α → Prop} {before before' after after' : List α}
    {a b : α} (hSplit : before ++ a :: after = before' ++ b :: after')
    (hBefore : ∀ c ∈ before, P c) (ha : ¬ P a) (hBefore' : ∀ c ∈ before', P c) (hb : ¬ P b) :
    before = before' ∧ a = b := by
  induction before generalizing before' with
  | nil =>
      cases before' with
      | nil =>
          rw [List.nil_append, List.nil_append, List.cons.injEq] at hSplit
          exact ⟨rfl, hSplit.1⟩
      | cons c before' =>
          rw [List.nil_append, List.cons_append, List.cons.injEq] at hSplit
          exact absurd (hBefore' c (List.mem_cons_self ..)) (hSplit.1 ▸ ha)
  | cons c before ih =>
      cases before' with
      | nil =>
          rw [List.nil_append, List.cons_append, List.cons.injEq] at hSplit
          exact absurd (hBefore c (List.mem_cons_self ..)) (hSplit.1 ▸ hb)
      | cons d before' =>
          rw [List.cons_append, List.cons_append, List.cons.injEq] at hSplit
          obtain ⟨rfl, hRest⟩ := hSplit
          obtain ⟨hSame, hEq⟩ := ih hRest (fun e he => hBefore e (List.mem_cons_of_mem _ he))
            fun e he => hBefore' e (List.mem_cons_of_mem _ he)
          exact ⟨by rw [hSame], hEq⟩

theorem FirstUndeclared.unique {names : List String} {text name other : String}
    {column column' : Nat} (h : FirstUndeclared names text name column)
    (hOther : FirstUndeclared names text other column') : name = other ∧ column = column' := by
  obtain ⟨before, after, hSplit, hBefore⟩ := h.first
  obtain ⟨before', after', hSplit', hBefore'⟩ := hOther.first
  have hSame := eq_of_splits (P := fun placeholder => placeholder.1 ∈ names)
    (hSplit.symm.trans hSplit') hBefore h.undeclared hBefore' hOther.undeclared
  exact Prod.mk.inj hSame.2

theorem FirstRepeated.unique {names : List String} {name other : String}
    (h : FirstRepeated names name) (hOther : FirstRepeated names other) : name = other := by
  obtain ⟨before, after, hSplit, hNodup, hMem⟩ := h
  obtain ⟨before', after', hSplit', hNodup', hMem'⟩ := hOther
  rw [hSplit] at hSplit'
  rcases List.append_eq_append_iff.1 hSplit' with ⟨more, hFront, hRest⟩ | ⟨more, hFront, hRest⟩
  · cases more with
    | nil => exact (List.cons.inj hRest).1
    | cons first more =>
        obtain ⟨rfl, _⟩ := List.cons.inj hRest
        rw [hFront] at hNodup'
        exact absurd rfl ((List.nodup_append.1 hNodup').2.2 _ hMem _ (List.mem_cons_self ..))
  · cases more with
    | nil => exact (List.cons.inj hRest).1.symm
    | cons first more =>
        obtain ⟨rfl, _⟩ := List.cons.inj hRest
        rw [hFront] at hNodup
        exact absurd rfl ((List.nodup_append.1 hNodup).2.2 _ hMem' _ (List.mem_cons_self ..))

section Operation

variable {declarations : List Declaration} {index : Nat} {declared : OperationDeclaration}
  {fault other : Fault}

/-- A check has one complaint at most. -/
theorem Complaint.unique {check : Check} (h : Complaint declarations index declared check fault)
    (hOther : Complaint declarations index declared check other) : fault = other := by
  cases h with
  | opcode hOnly =>
      cases hOther with
      | opcode hOnly' =>
          obtain ⟨operation, hAt, hSame⟩ := hOnly.exists_operation
          rw [hOnly'.only _ hOnly.first_lt operation hAt hSame]
  | argumentNames hRepeated =>
      cases hOther with
      | argumentNames hRepeated' => rw [hRepeated.unique hRepeated']
  | text hUndeclared =>
      cases hOther with
      | text hUndeclared' =>
          obtain ⟨rfl, rfl⟩ := hUndeclared.unique hUndeclared'
          rfl
  | code hCode hUndeclared =>
      cases hOther with
      | code hCode' hUndeclared' =>
          rw [hCode] at hCode'
          cases hCode'
          obtain ⟨rfl, rfl⟩ := hUndeclared.unique hUndeclared'
          rfl
  | report hReports hUnknown =>
      cases hOther with
      | report hReports' hUnknown' =>
          rw [hReports] at hReports'
          cases hReports'
          rfl

private theorem Check.rank_injective : Function.Injective Check.rank := by
  intro a b h
  cases a <;> cases b <;> first | rfl | cases h

/-- There is one first complaint about an operation at most. -/
theorem FirstComplaint.unique (h : FirstComplaint declarations index declared fault)
    (hOther : FirstComplaint declarations index declared other) : fault = other := by
  obtain ⟨check, hComplaint, hFirst⟩ := h
  obtain ⟨check', hComplaint', hFirst'⟩ := hOther
  have hRank : check.rank = check'.rank := by
    have hNotBefore : ¬ check.rank < check'.rank := fun hLt => hFirst' check hLt fault hComplaint
    have hNotBehind : ¬ check'.rank < check.rank := fun hLt => hFirst check' hLt other hComplaint'
    omega
  cases Check.rank_injective hRank
  exact hComplaint.unique hComplaint'

end Operation

/-- A palette has one first fault at most. -/
theorem FirstFault.unique {declarations : List Declaration} {fault other : Fault}
    (h : FirstFault declarations fault) (hOther : FirstFault declarations other) :
    fault = other := by
  obtain ⟨index, declared, hAt, hBefore, hFirst⟩ := h
  obtain ⟨index', declared', hAt', hBefore', hFirst'⟩ := hOther
  have hIndex : index = index' := by
    have hNotBefore : ¬ index < index' := fun hLt =>
      hFirst.not_faultless (hBefore' index hLt declared hAt)
    have hNotBehind : ¬ index' < index := fun hLt =>
      hFirst'.not_faultless (hBefore index' hLt declared' hAt')
    omega
  subst hIndex
  rw [hAt, Option.some.injEq, Declaration.operation.injEq] at hAt'
  subst hAt'
  exact hFirst.unique hFirst'

theorem FirstFault.not_acceptable {declarations : List Declaration} {fault : Fault}
    (h : FirstFault declarations fault) : ¬ Acceptable declarations := by
  obtain ⟨index, declared, hAt, _, hFirst⟩ := h
  exact fun hAcceptable => hFirst.not_faultless (hAcceptable index declared hAt)

/-! ## What the single checks find -/

/-- The name that is found repeats one before it, and nothing in front of it does. -/
private theorem exists_of_firstRepeated? {earlier names : List String} {name : String}
    (h : firstRepeated? earlier names = some name) :
    ∃ before after, names = before ++ name :: after ∧ before.Nodup ∧
      (∀ other ∈ before, other ∉ earlier) ∧ (name ∈ before ∨ name ∈ earlier) := by
  induction names generalizing earlier with
  | nil => cases h
  | cons first names ih =>
      simp only [firstRepeated?] at h
      split at h
      · next hEarlier =>
          cases h
          exact ⟨[], names, rfl, List.nodup_nil, by simp, .inr hEarlier⟩
      · next hNew =>
          obtain ⟨before, after, hSplit, hNodup, hFresh, hRepeats⟩ := ih h
          have hHead : first ∉ before := fun hMem => hFresh first hMem (List.mem_cons_self ..)
          refine ⟨first :: before, after, by rw [hSplit, List.cons_append],
            List.nodup_cons.2 ⟨hHead, hNodup⟩, ?_, ?_⟩
          · intro other hMem
            rcases List.mem_cons.1 hMem with rfl | hMem
            · exact hNew
            · exact fun hEarlier => hFresh other hMem (List.mem_cons_of_mem _ hEarlier)
          · rcases hRepeats with hMem | hMem
            · exact .inl (List.mem_cons_of_mem _ hMem)
            · rcases List.mem_cons.1 hMem with rfl | hMem
              · exact .inl (List.mem_cons_self ..)
              · exact .inr hMem

/-- A name has no identifier exactly if no argument has the name. -/
theorem idOf?_eq_none_iff {arguments : List Argument} {name : String} :
    idOf? arguments name = none ↔ name ∉ arguments.map (·.name) := by
  rw [idOf?, Option.map_eq_none_iff, List.find?_eq_none, List.mem_map]
  constructor
  · rintro hNone ⟨argument, hMem, hName⟩
    exact hNone argument hMem (by simpa using hName)
  · intro hNone argument hMem hName
    exact hNone ⟨argument, hMem, by simpa using hName⟩

section Operation

variable {declarations : List Declaration} {index : Nat} {declared : OperationDeclaration}

/-- The check of the names of arguments. -/
private theorem checkArguments_outcome :
    (checkArguments declared = .ok () ∧
      Check.argumentNames.Passes declarations index declared) ∨
    ∃ fault, checkArguments declared = .error fault ∧
      Complaint declarations index declared .argumentNames fault := by
  unfold checkArguments
  cases hFound : firstRepeated? [] (declared.arguments.map (·.name)) with
  | none => exact .inl ⟨rfl, (firstRepeated?_eq_none_iff.1 hFound).1⟩
  | some name =>
      obtain ⟨before, after, hSplit, hNodup, _, hRepeats⟩ := exists_of_firstRepeated? hFound
      refine .inr ⟨_, rfl, .argumentNames ⟨before, after, hSplit, hNodup, ?_⟩⟩
      simpa using hRepeats

/-- The check of the placeholders of a text, by the names of the arguments. -/
private theorem checkPlaceholders_outcome {arguments : List Argument}
    (hNames : arguments.map (·.name) = declared.names) (field : PlaceholderField) (text : String) :
    (checkPlaceholders declared.opcode field arguments (Placeholder.scan text) = .ok () ∧
      AllDeclared declared.names text) ∨
    ∃ name column, checkPlaceholders declared.opcode field arguments (Placeholder.scan text) =
        .error (.unresolvedPlaceholder (.opcode declared.opcode) field name column) ∧
      FirstUndeclared declared.names text name column := by
  have hKnown : ∀ name, (idOf? arguments name).isNone = true ↔ name ∉ declared.names := by
    intro name
    rw [Option.isNone_iff_eq_none, idOf?_eq_none_iff, hNames]
  unfold checkPlaceholders
  cases hFound : unresolved? arguments (Placeholder.scan text) with
  | none =>
      refine .inl ⟨rfl, fun name column hMem => ?_⟩
      have hNone := List.find?_eq_none.1 hFound (name, column) ((placeholders_scan ..).2 hMem)
      rwa [hKnown, not_not] at hNone
  | some found =>
      obtain ⟨name, column⟩ := found
      obtain ⟨hUnknown, before, after, hSplit, hBefore⟩ :=
        List.find?_eq_some_iff_append.1 hFound
      have hMem : .placeholder name column ∈ Placeholder.scan text := by
        rw [← placeholders_scan, hSplit]
        exact List.mem_append_right _ (List.mem_cons_self ..)
      refine .inr ⟨name, column, rfl, ⟨before, after, hSplit, ?_⟩, (hKnown name).1 hUnknown,
        Placeholder.stands_of_mem_scan hMem⟩
      intro placeholder hPlaceholder
      have hBound := hBefore placeholder hPlaceholder
      by_contra hNot
      rw [(hKnown placeholder.1).2 hNot] at hBound
      cases hBound

/-- The choice of what a block shows. -/
private theorem reportOf_outcome {arguments : List Argument}
    (hNames : arguments.map (·.name) = declared.names) :
    ((∃ report, reportOf declared.opcode arguments declared.reports = .ok report) ∧
      Check.report.Passes declarations index declared) ∨
    ∃ fault, reportOf declared.opcode arguments declared.reports = .error fault ∧
      Complaint declarations index declared .report fault := by
  cases hReports : declared.reports with
  | none =>
      refine .inl ⟨?_, fun name hSome => by rw [hReports] at hSome; cases hSome⟩
      cases arguments with
      | nil => exact ⟨_, rfl⟩
      | cons first rest => exact ⟨_, rfl⟩
  | some name =>
      cases hFound : idOf? arguments name with
      | none =>
          refine .inr ⟨_, by simp only [reportOf, hFound], .report hReports ?_⟩
          rw [← hNames]
          exact idOf?_eq_none_iff.1 hFound
      | some id =>
          refine .inl ⟨⟨.argument id, by simp only [reportOf, hFound]⟩, ?_⟩
          intro other hOther
          rw [hReports, Option.some.injEq] at hOther
          subst hOther
          by_contra hNot
          rw [← hNames, ← idOf?_eq_none_iff, hFound] at hNot
          cases hNot

/-- A complaint is the first one if everything before it is passed. -/
private theorem firstComplaint_of_passes {check : Check} {fault : Fault}
    (h : Complaint declarations index declared check fault)
    (hBefore : ∀ earlier : Check, earlier.rank < check.rank →
      earlier.Passes declarations index declared) :
    FirstComplaint declarations index declared fault :=
  ⟨check, h, fun earlier hRank other => (hBefore earlier hRank).not_complaint other⟩

private theorem boundCode_outcome {arguments : List Argument}
    (hNames : arguments.map (·.name) = declared.names) :
    ((∃ template, boundCode declared arguments = .ok template) ∧
      Check.code.Passes declarations index declared) ∨
    ∃ fault, boundCode declared arguments = .error fault ∧
      Complaint declarations index declared .code fault := by
  cases hCode : declared.code with
  | none =>
      refine .inl ⟨⟨none, by rw [boundCode, hCode]⟩, fun code hSome => ?_⟩
      rw [hCode] at hSome
      cases hSome
  | some code =>
      rcases checkPlaceholders_outcome hNames .code code with
        ⟨hCheck, hAll⟩ | ⟨name, column, hCheck, hUndeclared⟩
      · refine .inl ⟨⟨_, by simp only [boundCode, hCode, resolveCode, hCheck]; rfl⟩, ?_⟩
        intro other hOther
        rw [hCode, Option.some.injEq] at hOther
        rwa [← hOther]
      · refine .inr ⟨_, ?_, .code hCode hUndeclared⟩
        simp only [boundCode, hCode, resolveCode, hCheck]
        rfl

/-- What is passed before a check and by it is passed up to it. -/
private theorem passes_of_rank_le {check : Check}
    (hBefore : ∀ earlier : Check, earlier.rank < check.rank →
      earlier.Passes declarations index declared)
    (hPasses : check.Passes declarations index declared) (earlier : Check)
    (hRank : earlier.rank ≤ check.rank) : earlier.Passes declarations index declared := by
  rcases Nat.lt_or_eq_of_le hRank with hLt | hSame
  · exact hBefore earlier hLt
  · rw [Check.rank_injective hSame]
    exact hPasses

/-- An operation whose opcode and names are in order resolves, or there is a first complaint. -/
private theorem resolveOperation_outcome {ids : List String}
    (hLength : ids.length = declared.arguments.length)
    (hBefore : ∀ earlier : Check, earlier.rank < Check.text.rank →
      earlier.Passes declarations index declared) :
    ((∃ result, resolveOperation declared ids = .ok result) ∧
      Faultless declarations index declared) ∨
    ∃ fault, resolveOperation declared ids = .error fault ∧
      FirstComplaint declarations index declared fault := by
  have hNames : (nameArguments declared.arguments ids).map (·.name) = declared.names := by
    rw [OperationDeclaration.names]
    conv_rhs => rw [← map_declarationOf hLength]
    rw [List.map_map]
    rfl
  rcases checkPlaceholders_outcome hNames .text declared.text with
    ⟨hText, hTextPasses⟩ | ⟨name, column, hText, hUndeclared⟩
  · have hBeforeCode : ∀ earlier : Check, earlier.rank < Check.code.rank →
        earlier.Passes declarations index declared := fun earlier hRank =>
      passes_of_rank_le hBefore hTextPasses earlier (Nat.le_of_lt_succ hRank)
    rcases boundCode_outcome hNames with
      ⟨⟨template, hCode⟩, hCodePasses⟩ | ⟨fault, hCode, hComplaint⟩
    · have hBeforeReport : ∀ earlier : Check, earlier.rank < Check.report.rank →
          earlier.Passes declarations index declared := fun earlier hRank =>
        passes_of_rank_le hBeforeCode hCodePasses earlier (Nat.le_of_lt_succ hRank)
      rcases reportOf_outcome hNames with
        ⟨⟨report, hReport⟩, hReportPasses⟩ | ⟨fault, hReport, hComplaint⟩
      · have hRun : ∃ result, resolveOperation declared ids = .ok result :=
          ⟨_, by simp only [resolveOperation_eq, hText, hCode, hReport]; rfl⟩
        refine .inl ⟨hRun, faultless_of_passes fun check => ?_⟩
        exact passes_of_rank_le hBeforeReport hReportPasses check (by cases check <;> decide)
      · exact .inr ⟨fault, by simp only [resolveOperation_eq, hText, hCode, hReport]; rfl,
          firstComplaint_of_passes hComplaint hBeforeReport⟩
    · exact .inr ⟨fault, by simp only [resolveOperation_eq, hText, hCode]; rfl,
        firstComplaint_of_passes hComplaint hBeforeCode⟩
  · exact .inr ⟨_, by simp only [resolveOperation_eq, hText]; rfl,
      firstComplaint_of_passes (.text hUndeclared) hBefore⟩

end Operation

/-! ## The walk over a palette -/

/--
The table of opcodes behind the first `index` entries: it holds the opcodes of
the operations among them, each with its position counted from one.
-/
structure Recorded (declarations : List Declaration) (index : Nat)
    (seen : List (String × Nat)) : Prop where
  exists_earlier : ∀ opcode position, seen.lookup opcode = some position →
    ∃ earlier < index, ∃ other, declarations[earlier]? = some (.operation other) ∧
      other.opcode = opcode ∧ position = earlier + 1
  newOpcode : ∀ opcode, seen.lookup opcode = none → NewOpcode declarations index opcode

section Walk

variable {declarations : List Declaration} {index : Nat} {seen : List (String × Nat)}
  {declared : OperationDeclaration}

private theorem recorded_nil (declarations : List Declaration) : Recorded declarations 0 [] where
  exists_earlier := fun _ _ hFound => by cases hFound
  newOpcode := fun _ _ earlier hEarlier => absurd hEarlier (Nat.not_lt_zero earlier)

/-- An entry that is no operation leaves the table as it is. -/
private theorem Recorded.skip (h : Recorded declarations index seen)
    (hAt : ∀ declared, declarations[index]? ≠ some (.operation declared)) :
    Recorded declarations (index + 1) seen where
  exists_earlier := fun opcode position hFound => by
    obtain ⟨earlier, hEarlier, hOther⟩ := h.exists_earlier opcode position hFound
    exact ⟨earlier, by omega, hOther⟩
  newOpcode := fun opcode hNone earlier hEarlier other hOther => by
    rcases Nat.lt_or_eq_of_le (Nat.le_of_lt_succ hEarlier) with hLt | rfl
    · exact h.newOpcode opcode hNone earlier hLt other hOther
    · exact absurd hOther (hAt other)

/-- An operation is recorded with its position. -/
private theorem Recorded.record (h : Recorded declarations index seen)
    (hAt : declarations[index]? = some (.operation declared)) :
    Recorded declarations (index + 1) ((declared.opcode, index + 1) :: seen) where
  exists_earlier := fun opcode position hFound => by
    rw [List.lookup_cons] at hFound
    split at hFound
    · next hSame =>
        cases hFound
        exact ⟨index, by omega, declared, hAt, (by simpa using hSame : opcode = _).symm, rfl⟩
    · obtain ⟨earlier, hEarlier, hOther⟩ := h.exists_earlier opcode position hFound
      exact ⟨earlier, by omega, hOther⟩
  newOpcode := fun opcode hNone earlier hEarlier other hOther => by
    rw [List.lookup_cons] at hNone
    split at hNone
    · cases hNone
    · next hDifferent =>
        rcases Nat.lt_or_eq_of_le (Nat.le_of_lt_succ hEarlier) with hLt | rfl
        · exact h.newOpcode opcode hNone earlier hLt other hOther
        · rw [hAt] at hOther
          cases hOther
          rintro rfl
          simp at hDifferent

private theorem FaultlessBefore.skip (h : FaultlessBefore declarations index)
    (hAt : ∀ declared, declarations[index]? ≠ some (.operation declared)) :
    FaultlessBefore declarations (index + 1) := by
  intro earlier hEarlier other hOther
  rcases Nat.lt_or_eq_of_le (Nat.le_of_lt_succ hEarlier) with hLt | rfl
  · exact h earlier hLt other hOther
  · exact absurd hOther (hAt other)

private theorem FaultlessBefore.record (h : FaultlessBefore declarations index)
    (hAt : declarations[index]? = some (.operation declared))
    (hFaultless : Faultless declarations index declared) :
    FaultlessBefore declarations (index + 1) := by
  intro earlier hEarlier other hOther
  rcases Nat.lt_or_eq_of_le (Nat.le_of_lt_succ hEarlier) with hLt | rfl
  · exact h earlier hLt other hOther
  · rw [hAt] at hOther
    cases hOther
    exact hFaultless

/--
Among faultless operations an opcode is that of one at most: the later one of two would
repeat it.
-/
private theorem onlyEarlier_of_lookup (h : Recorded declarations index seen)
    (hBefore : FaultlessBefore declarations index) {opcode : String} {position : Nat}
    (hFound : seen.lookup opcode = some position) :
    ∃ first, position = first + 1 ∧ OnlyEarlier declarations index first opcode := by
  obtain ⟨first, hFirst, operation, hAt, rfl, rfl⟩ := h.exists_earlier opcode position hFound
  refine ⟨first, rfl, hFirst, ⟨operation, hAt, rfl⟩, ?_⟩
  intro earlier hEarlier other hOther hSame
  have hNotBefore : ¬ earlier < first := fun hLt =>
    (hBefore first hFirst operation hAt).opcode_new earlier hLt other hOther hSame
  have hNotBehind : ¬ first < earlier := fun hLt =>
    (hBefore earlier hEarlier other hOther).opcode_new first hLt operation hAt hSame.symm
  omega

/-- The check of an opcode against the table. -/
private theorem checkOpcode_outcome (h : Recorded declarations index seen)
    (hBefore : FaultlessBefore declarations index) (declared : OperationDeclaration) :
    (checkOpcode seen declared.opcode (index + 1) = .ok () ∧
      Check.opcode.Passes declarations index declared) ∨
    ∃ fault, checkOpcode seen declared.opcode (index + 1) = .error fault ∧
      Complaint declarations index declared .opcode fault := by
  unfold checkOpcode
  cases hFound : seen.lookup declared.opcode with
  | none => exact .inl ⟨rfl, h.newOpcode declared.opcode hFound⟩
  | some position =>
      obtain ⟨first, rfl, hOnly⟩ := onlyEarlier_of_lookup h hBefore hFound
      exact .inr ⟨_, rfl, .opcode hOnly⟩

/-- What the outcome of a walk says about the whole palette. -/
def Settles (declarations : List Declaration) : Except Failure Resolution → Prop
  | .ok _ => Acceptable declarations
  | .error (.fault fault) => FirstFault declarations fault
  | .error .namesExhausted => False

private theorem Settles.map {outcome : Except Failure Resolution}
    (h : Settles declarations outcome) (f : Resolution → Resolution) :
    Settles declarations (outcome.map f) := by
  cases outcome with
  | ok resolution => exact h
  | error failure => exact h

/-- An operation at fault ends the walk; one that is faultless lets it go on. -/
private theorem settles_operation {rest : List Declaration}
    (hAt : declarations[index]? = some (.operation declared))
    (hRecorded : Recorded declarations index seen)
    (hBefore : FaultlessBefore declarations index)
    (hRest : Faultless declarations index declared →
      Settles declarations
        (resolveFrom (index + 2) ((declared.opcode, index + 1) :: seen) .ordinal rest)) :
    Settles declarations (resolveFrom (index + 1) seen .ordinal (.operation declared :: rest)) := by
  have hFault : ∀ fault, FirstComplaint declarations index declared fault →
      FirstFault declarations fault := fun fault hFirst => ⟨index, declared, hAt, hBefore, hFirst⟩
  rcases checkOpcode_outcome hRecorded hBefore declared with
    ⟨hOpcode, hOpcodePasses⟩ | ⟨fault, hOpcode, hComplaint⟩
  · have hBeforeNames : ∀ earlier : Check, earlier.rank < Check.argumentNames.rank →
        earlier.Passes declarations index declared := fun earlier hRank =>
      passes_of_rank_le (fun _ hLt => absurd hLt (Nat.not_lt_zero _)) hOpcodePasses earlier
        (Nat.le_of_lt_succ hRank)
    rcases checkArguments_outcome with ⟨hNames, hNamesPasses⟩ | ⟨fault, hNames, hComplaint⟩
    · have hBeforeText : ∀ earlier : Check, earlier.rank < Check.text.rank →
          earlier.Passes declarations index declared := fun earlier hRank =>
        passes_of_rank_le hBeforeNames hNamesPasses earlier (Nat.le_of_lt_succ hRank)
      have hTake := Naming.take_ordinal declared.opcode declared.arguments.length 1
      rcases resolveOperation_outcome (Naming.length_of_take hTake) hBeforeText with
        ⟨⟨⟨operation, warnings⟩, hResolve⟩, hFaultless⟩ | ⟨fault, hResolve, hFirst⟩
      · have hMore := (hRest hFaultless).map (cons (.operation operation) warnings)
        rw [show Except.map _ _ = _ <$> _ from rfl, ← bind_pure_comp] at hMore
        simp only [resolveFrom, hOpcode, hNames, hTake, hResolve]
        exact hMore
      · have hFirstFault := hFault fault hFirst
        simp only [resolveFrom, hOpcode, hNames, hTake, hResolve]
        exact hFirstFault
    · have hFirstFault := hFault fault (firstComplaint_of_passes hComplaint hBeforeNames)
      simp only [resolveFrom, hOpcode, hNames]
      exact hFirstFault
  · have hFirstFault := hFault fault (firstComplaint_of_passes hComplaint
      fun _ hLt => absurd hLt (Nat.not_lt_zero _))
    simp only [resolveFrom, hOpcode]
    exact hFirstFault

/-- From any entry on, the outcome of the walk settles the whole palette. -/
private theorem settles_resolveFrom {rest : List Declaration}
    (hDrop : declarations.drop index = rest) (hRecorded : Recorded declarations index seen)
    (hBefore : FaultlessBefore declarations index) :
    Settles declarations (resolveFrom (index + 1) seen .ordinal rest) := by
  induction rest generalizing index seen with
  | nil =>
      intro found declared hFound
      have hLength := List.drop_eq_nil_iff.1 hDrop
      obtain ⟨hLt, _⟩ := List.getElem?_eq_some_iff.1 hFound
      exact hBefore found (by omega) declared hFound
  | cons declaration rest ih =>
      have hAt : declarations[index]? = some declaration := by
        rw [← List.head?_drop, hDrop, List.head?_cons]
      have hNext : declarations.drop (index + 1) = rest := by
        rw [← List.tail_drop, hDrop, List.tail_cons]
      have hSkip (hNot : ∀ declared, declaration ≠ .operation declared) :
          Settles declarations (resolveFrom (index + 2) seen .ordinal rest) := by
        have hOther : ∀ declared, declarations[index]? ≠ some (.operation declared) := by
          intro declared hSame
          rw [hAt, Option.some.injEq] at hSame
          exact hNot declared hSame
        exact ih hNext (hRecorded.skip hOther) (hBefore.skip hOther)
      cases declaration with
      | separator => exact (hSkip fun _ hSame => by cases hSame).map _
      | label text => exact (hSkip fun _ hSame => by cases hSame).map _
      | operation declared =>
          refine settles_operation hAt hRecorded hBefore fun hFaultless => ?_
          exact ih hNext (hRecorded.record hAt) (hBefore.record hAt hFaultless)

end Walk

/-- The outcome of resolving under the ordinal policy settles the palette. -/
theorem settles_resolve (declarations : List Declaration) :
    Settles declarations (resolve .ordinal declarations) :=
  settles_resolveFrom rfl (recorded_nil declarations)
    fun earlier hEarlier => absurd hEarlier (Nat.not_lt_zero earlier)

end Resolution

open Resolution in
/--
A palette resolves under the ordinal policy exactly if every operation is
faultless, and it fails exactly with the first complaint about the first operation
that is not.
-/
theorem resolve_ordinal_exact (declarations : List Declaration) :
    ((∃ resolution, resolve .ordinal declarations = .ok resolution) ↔ Acceptable declarations) ∧
    ∀ failure, resolve .ordinal declarations = .error failure ↔
      ∃ fault, failure = .fault fault ∧ FirstFault declarations fault := by
  have hSettles := settles_resolve declarations
  cases hResolve : resolve .ordinal declarations with
  | ok resolution =>
      rw [hResolve] at hSettles
      have hAcceptable : Acceptable declarations := hSettles
      refine ⟨⟨fun _ => hAcceptable, fun _ => ⟨resolution, rfl⟩⟩, fun failure => ?_⟩
      constructor
      · intro hError
        cases hError
      · rintro ⟨fault, _, hFirst⟩
        exact absurd hAcceptable hFirst.not_acceptable
  | error failure =>
      rw [hResolve] at hSettles
      cases failure with
      | namesExhausted => exact hSettles.elim
      | fault fault =>
          have hFirst : FirstFault declarations fault := hSettles
          refine ⟨⟨?_, fun hAcceptable => absurd hAcceptable hFirst.not_acceptable⟩, ?_⟩
          · rintro ⟨resolution, hOk⟩
            cases hOk
          · intro failure
            constructor
            · intro hError
              cases hError
              exact ⟨fault, rfl, hFirst⟩
            · rintro ⟨other, rfl, hOther⟩
              rw [hFirst.unique hOther]

/-- A repeated opcode is found before anything else, and separators count as positions. -/
example :
    resolve .ordinal
      [.separator, .operation ⟨"say", .command, "say", none, none, false, none, []⟩,
        .operation ⟨"say", .command, "say [x]", none, none, false, some "y", []⟩] =
      .error (.fault (.duplicateOpcode "say" 2 3)) := by cbv

end BlockExtension
