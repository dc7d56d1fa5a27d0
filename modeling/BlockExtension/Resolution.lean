import BlockExtension.Block.Declaration
import BlockExtension.Block.Resolved
import BlockExtension.Fault
import BlockExtension.Naming
import BlockExtension.Placeholder

/-!
# Resolving declarations

Every argument gets an identifier, and every placeholder of a text or of code
is looked up among the arguments of its operation. Entries are resolved in
order, and the first thing wrong with the first entry at fault is reported:

1. the opcode is that of an earlier operation;
2. two arguments have one name;
3. a placeholder of the text names no argument;
4. a placeholder of the code names no argument;
5. the argument to report is not there.

An argument that the text does not show is no fault, but worth a warning.

## Main results

* `Resolution.placeholders_scan`: the names looked up are those of the scanned
  segments, in order.
-/

namespace BlockExtension

/-- Something a configuration may say but hardly means. -/
inductive Warning where
  /-- The palette has no input for an argument, since the text does not show it. -/
  | argumentNotShown (argument opcode : String)
  deriving DecidableEq, Repr

/-- The warning in one sentence. -/
def Warning.message : Warning → String
  | .argumentNotShown argument opcode =>
      s!"Argument '{argument}' of block '{opcode}' does not appear in its text; " ++
        "the palette will show no input for it."

/-- The resolved blocks of a configuration, and the warnings in the order of their blocks. -/
structure Resolution where
  blocks : List Block
  warnings : List Warning
  deriving Repr

namespace Resolution

/-- Why there is no resolution. -/
inductive Failure where
  | fault (cause : Fault)
  | namesExhausted
  deriving DecidableEq, Repr

/-! ## Placeholders -/

def placeholders (segments : List Segment) : List (String × Nat) :=
  segments.filterMap fun
    | .text _ => none
    | .placeholder name column => some (name, column)

def idOf? (arguments : List Argument) (name : String) : Option String :=
  (arguments.find? (·.name = name)).map (·.id)

/-- The first placeholder that names none of the arguments. -/
def unresolved? (arguments : List Argument) (segments : List Segment) : Option (String × Nat) :=
  (placeholders segments).find? fun placeholder => (idOf? arguments placeholder.1).isNone

def checkPlaceholders (opcode : String) (field : PlaceholderField) (arguments : List Argument)
    (segments : List Segment) : Except Fault Unit :=
  match unresolved? arguments segments with
  | some (name, column) =>
      .error (.unresolvedPlaceholder (.opcode opcode) field name column)
  | none => .ok ()

/-- A segment of code with its placeholder bound; a name without argument binds to nothing. -/
def bindSegment (arguments : List Argument) : Segment → CodeSegment
  | .text value => .literal value
  | .placeholder name _ => .argument ((idOf? arguments name).getD "")

/--
Code with its placeholders bound. The first of them that names no argument is a fault, at
its column.
-/
def resolveCode (opcode : String) (arguments : List Argument) (code : String) :
    Except Fault CodeTemplate :=
  let segments := Placeholder.scan code
  (checkPlaceholders opcode .code arguments segments).map fun _ =>
    ⟨segments.map (bindSegment arguments)⟩

/-! ## Operations -/

def firstRepeated? (earlier : List String) : List String → Option String
  | [] => none
  | name :: rest =>
      if name ∈ earlier then some name else firstRepeated? (name :: earlier) rest

/-- What a click on the block shows: the argument asked for, else the first one, else the code. -/
def reportOf (opcode : String) (arguments : List Argument) (reports : Option String) :
    Except Fault Report :=
  match reports with
  | some name =>
      match idOf? arguments name with
      | some id => .ok (.argument id)
      | none => .error (.unknownReportArgument (.opcode opcode) name)
  | none =>
      match arguments with
      | first :: _ => .ok (.argument first.id)
      | [] => .ok .expression

/--
The warnings about the arguments that the text of an operation does not show, in the order
of their declaration.
-/
def notShown (opcode : String) (arguments : List Argument) (segments : List Segment) :
    List Warning :=
  let shown := (placeholders segments).map Prod.fst
  (arguments.filter fun argument => !shown.contains argument.name).map fun argument =>
    .argumentNotShown argument.name opcode

def nameArguments (declared : List ArgumentDeclaration) (ids : List String) : List Argument :=
  List.zipWith (fun argument id =>
    { name := argument.name
      kind := argument.kind
      id := id
      defaultValue := argument.defaultValue }) declared ids

/--
An operation whose arguments have their identifiers. The text is checked before the code,
and the code before what is reported.
-/
def resolveOperation (declared : OperationDeclaration) (ids : List String) :
    Except Fault (Operation × List Warning) := do
  let arguments := nameArguments declared.arguments ids
  let segments := Placeholder.scan declared.text
  checkPlaceholders declared.opcode .text arguments segments
  let code ← match declared.code with
    | some code => (resolveCode declared.opcode arguments code).map some
    | none => .ok none
  let report ← reportOf declared.opcode arguments declared.reports
  let operation : Operation :=
    { opcode := declared.opcode
      shape := declared.shape
      text := declared.text
      code := code
      returns := declared.returns
      allowDropAnywhere := declared.allowDropAnywhere
      report := report
      arguments := arguments }
  return (operation, notShown declared.opcode arguments segments)

/-! ## Whole palettes -/

/-- Fails if an earlier operation has the opcode; positions are counted from one. -/
def checkOpcode (seen : List (String × Nat)) (opcode : String) (position : Nat) :
    Except Fault Unit :=
  match seen.lookup opcode with
  | some first => .error (.duplicateOpcode opcode first position)
  | none => .ok ()

def checkArguments (declared : OperationDeclaration) : Except Fault Unit :=
  match firstRepeated? [] (declared.arguments.map (·.name)) with
  | some name => .error (.duplicateArgument (.opcode declared.opcode) name)
  | none => .ok ()

/-- Puts an entry and its warnings in front of what follows it. -/
def cons (block : Block) (warnings : List Warning) (rest : Resolution) : Resolution :=
  ⟨block :: rest.blocks, warnings ++ rest.warnings⟩

/--
Resolves the entries from `position` on. `seen` holds the opcodes of the
operations before, with their positions.
-/
def resolveFrom (position : Nat) (seen : List (String × Nat)) (naming : Naming) :
    List Declaration → Except Failure Resolution
  | [] => .ok ⟨[], []⟩
  | .separator :: rest =>
      (resolveFrom (position + 1) seen naming rest).map (cons .separator [])
  | .label text :: rest =>
      (resolveFrom (position + 1) seen naming rest).map (cons (.label text) [])
  | .operation declared :: rest => do
      (checkOpcode seen declared.opcode position).mapError .fault
      (checkArguments declared).mapError .fault
      match naming.take declared.opcode 1 declared.arguments.length with
      | none => throw .namesExhausted
      | some (ids, naming) =>
          let (operation, warnings) ← (resolveOperation declared ids).mapError .fault
          let seen := (declared.opcode, position) :: seen
          let more ← resolveFrom (position + 1) seen naming rest
          return cons (.operation operation) warnings more

/-- The names looked up in a text are its placeholders, in order. -/
theorem placeholders_scan (name : String) (column : Nat) (segments : List Segment) :
    (name, column) ∈ placeholders segments ↔ .placeholder name column ∈ segments := by
  simp only [placeholders, List.mem_filterMap]
  constructor
  · rintro ⟨segment, hMem, hSome⟩
    cases segment with
    | text value => cases hSome
    | placeholder found at_ =>
        cases hSome
        exact hMem
  · intro hMem
    exact ⟨_, hMem, rfl⟩

end Resolution

/-- The palette of some declarations, resolved under a policy for identifiers. -/
def resolve (naming : Naming) (declarations : List Declaration) :
    Except Resolution.Failure Resolution :=
  Resolution.resolveFrom 1 [] naming declarations

end BlockExtension
