import BlockExtension.Shell.Utility.Scanning.Functions
import BlockExtension.Shell.Utility.Scanning.Grammar

/-!
# Running the pattern scanner

What programs of the scanner do, and how the scanner is called.
-/

/-!
## Running scanner programs

What expressions and statements do. The recursion is on their structure; the
rounds of a loop and the functions that call each other are bounded by numbers
that no program comes to that ends in time.
-/

namespace BlockExtension.Shell.Utility.Scanning

/-- What the running of a statement needs of its surroundings. -/
structure Surrounding where
  launch : Launch
  call : Octets → List Slot → Run Cell

/-- The regular expression that is written as one, perhaps in parentheses. -/
def Expr.pattern? : Expr → Option Regex
  | .pattern _ regex => some regex
  | .group (.pattern _ regex) => some regex
  | _ => none

def Expr.place? : Expr → Option Place
  | .name place => some place
  | _ => none

def Run.regexWritten (expr : Expr) (value : Run Cell) : Run Regex := do
  match expr.pattern? with
  | some regex => return regex
  | none => regexOf (← textOf (← value))

/-- Puts a record that was asked for in its place, and tells what came of it. -/
def Run.deliver (target : Option Location) (asked : Asked) : Run Cell := do
  match asked with
  | .failed => return .number (-1.0)
  | .ended => return .number 0.0
  | .record text =>
      match target with
      | some location => store location (.input text)
      | none => putRecord text
      return .number 1.0

open Run in
mutual

/-- The value of an expression. -/
def evaluate (around : Surrounding) : Expr → Run Cell
  | .number x => return .number x
  | .text octets => return .text octets
  | .pattern _ regex => do
      return .ofBool (regex.occursIn (subjectOf (← textOf (← field 0))))
  | .name place => Run.value place
  | .group body => evaluate around body
  | .element place subscripts => do
      let index ← tableAt place
      let key ← keyOf (← evaluateAll around subscripts)
      Run.read (← elementAt index key)
  | .field index => do field (← fieldNumber (← evaluate around index))
  | .assign operation target new => do
      let location ← locate around target
      let new ← evaluate around new
      let new ← match operation with
        | none => pure new
        | some operation => do
            pure (.number (operation.apply (← Run.read location).toNumber new.toNumber))
      store location new
      return new
  | .choice condition first second => do
      if (← evaluate around condition).isTrue then evaluate around first
      else evaluate around second
  | .both first second => do
      if (← evaluate around first).isTrue then
        return .ofBool (← evaluate around second).isTrue
      return .ofBool false
  | .either first second => do
      if (← evaluate around first).isTrue then return .ofBool true
      return .ofBool (← evaluate around second).isTrue
  | .negation body => do return .ofBool !(← evaluate around body).isTrue
  | .isIn subscripts place => do
      let key ← keyOf (← evaluateAll around subscripts)
      let index ← tableAt place
      let before ← table index
      putTable index (before.looked key)
      return .ofBool (before.cells.contains key.toText)
  | .matching wanted text pattern => do
      let text ← textOf (← evaluate around text)
      let regex ← regexWritten pattern (evaluate around pattern)
      return .ofBool (regex.occursIn (subjectOf text) == wanted)
  | .compared relation first second => do
      let first ← evaluate around first
      let second ← evaluate around second
      return .ofBool (relation.holds (← textFormat) first second)
  | .joined first second => do
      let first ← evaluate around first
      let second ← evaluate around second
      return .text ((← textOf first) ++ (← textOf second))
  | .binary operation first second => do
      let first ← evaluate around first
      let second ← evaluate around second
      return .number (operation.apply first.toNumber second.toNumber)
  | .sign minus body => do
      let x := (← evaluate around body).toNumber
      return .number (if minus then -x else x)
  | .step up before target => do
      let location ← locate around target
      let old := (← Run.read location).toNumber
      let new := if up then old + 1.0 else old - 1.0
      store location (.number new)
      return .number (if before then new else old)
  | .builtin name arguments => do builtin around.launch name (argumentsOf around arguments)
  | .call name arguments => do
      let slots ← (argumentsOf around arguments).mapM fun argument => do
        match argument.place with
        | some place => handed place
        | none => return .cell (← argument.value)
      around.call name slots
  | .input source target => do
      let asked ← ask around source (target.isNone)
      deliver (← locateOption around target) asked

/-- The values of expressions. -/
def evaluateAll (around : Surrounding) : List Expr → Run (List Cell)
  | [] => return []
  | first :: rest => do
      let value ← evaluate around first
      return value :: (← evaluateAll around rest)

/-- What a value can be assigned to. -/
def locate (around : Surrounding) : Expr → Run Location
  | .name place => return .place place
  | .element place subscripts => do
      let index ← tableAt place
      let key ← keyOf (← evaluateAll around subscripts)
      elementAt index key
  | .field index => do return .field (← fieldNumber (← evaluate around index))
  | _ => return .field 0

/-- What a value can be assigned to, if there is anything. -/
def locateOption (around : Surrounding) : Option Expr → Run (Option Location)
  | none => return none
  | some target => return some (← locate around target)

def argumentsOf (around : Surrounding) : List Expr → List Argument
  | [] => []
  | first :: rest =>
      let isTarget := match first with
        | .name _ => true
        | .element .. => true
        | .field _ => true
        | _ => false
      { value := evaluate around first
        regex := regexWritten first (evaluate around first)
        place := first.place?
        location := if isTarget then some (locate around first) else none
        isPattern := first.pattern?.isSome } :: argumentsOf around rest

/-- Asks for a record. One that goes to no target of its own is counted. -/
def ask (around : Surrounding) : Source → (isRecord : Bool) → Run Asked
  | .main, _ => do
      match ← takeMain? with
      | some record => return .record record
      | none => return .ended
  | .file name, _ => do recordFrom around.launch (← textOf (← evaluate around name)) false
  | .command text, _ => do recordFrom around.launch (← textOf (← evaluate around text)) true

end

namespace Run

/-! ### Statements -/

/-- Lets a step stop, and tells what came of it. -/
def attempt {α : Type} (step : Run α) : Run (Except Stop α) := fun scanner => do
  let (result, scanner) ← step.run scanner
  return (.ok result, scanner)

/-- One round of a loop; tells whether the loop goes on. -/
def round (body : Run Unit) : Run Bool := do
  match ← attempt body with
  | .ok () => return true
  | .error .resume => return true
  | .error .leave => return false
  | .error stop => throw stop

def rounds (test : Run Bool) (body step : Run Unit) : (fuel : Nat) → Run Unit
  | 0 => return ()
  | fuel + 1 => do
      if ← test then
        if ← round body then
          step
          rounds test body step fuel

def roundsFor (body : Octets → Run Unit) : List Octets → Run Unit
  | [] => return ()
  | item :: rest => do
      if ← round (body item) then roundsFor body rest

def mostRounds : Nat := 100000000

def written (cell : Cell) : Run Octets := do
  match cell with
  | .number _ => return cell.toText (← outputFormat)
  | cell => textOf cell

def writeTarget (around : Surrounding) (target : Target) (text : Octets) : Run Unit := do
  match target with
  | .output => write text
  | .file appends name => do writeTo (← textOf (← evaluate around name)) false appends text
  | .command command => do writeTo (← textOf (← evaluate around command)) true false text

end Run

open Run in
/-- Runs a statement. -/
def perform (around : Surrounding) : Statement → Run Unit
  | .nothing => return ()
  | .expression body => do
      let _ ← evaluate around body
  | .print values target => do
      let texts ← match values with
        | [] => do pure [← written (← field 0)]
        | values => do (← evaluateAll around values).mapM written
      let line := Octets.joined (← keptText "OFS") texts ++ (← keptText "ORS")
      writeTarget around target line
  | .format values target => do
      let cells ← evaluateAll around values
      let format ← textOf (cells.headD .unset)
      let (text, problem) := Directives.write "printf" (← textFormat) format (cells.drop 1)
      writeTarget around target text
      if let some problem := problem then failAt problem
  | .sequence first second => do
      perform around first
      perform around second
  | .branch condition consequence alternative => do
      if (← evaluate around condition).isTrue then perform around consequence
      else perform around alternative
  | .loop condition body step => do
      let test : Run Bool := match condition with
        | some condition => do return (← evaluate around condition).isTrue
        | none => return true
      rounds test (perform around body) (perform around step) mostRounds
  | .again body condition => do
      if ← round (perform around body) then
        rounds (do return (← evaluate around condition).isTrue) (perform around body)
          (return ()) mostRounds
  | .each target place body => do
      let index ← tableAt place
      let (keys, table) := (← table index).keys
      putTable index table
      let location ← locate around target
      roundsFor (fun key => do
        store location (.input key)
        perform around body) keys
  | .leave => throw .leave
  | .resume => throw .resume
  | .nextRecord => throw .nextRecord
  | .nextFile => throw .nextFile
  | .exit status => do
      if let some status := status then
        let n := wholeWithin (-2147483647) 2147483647 (← evaluate around status).toNumber
        modify fun scanner => { scanner with status := (n % 256).toNat }
      throw .exit
  | .back result => do
      match result with
      | some result => throw (.back (← evaluate around result))
      | none => throw (.back .unset)
  | .delete place subscripts => do
      let index ← tableAt place
      match subscripts with
      | none => putTable index .empty
      | some subscripts => do
          let key ← keyOf (← evaluateAll around subscripts)
          putTable index ((← table index).erase key)

namespace Run

/-! ### Functions -/

def mostParameters : Nat := 1020

/-- Calls a function of the program; functions call each other at most `fuel` deep. -/
def call (launch : Launch) (functions : List (Octets × Function)) :
    (fuel : Nat) → Octets → List Slot → Run Cell
  | 0, _, _ => fail "program limit exceeded: eval stack size=1024".toList
  | fuel + 1, name, slots => do
      let some function := functions.lookup name | return .unset
      let scanner ← get
      let depth := scanner.depth + function.parameters
      if mostParameters < depth then fail "program limit exceeded: eval stack size=1024".toList
      let missing := function.parameters - slots.length
      let frame := (slots ++ List.replicate missing (Slot.cell .unset)).toArray
      set { scanner with frame, depth }
      let result ← attempt (perform ⟨launch, call launch functions fuel⟩ function.body)
      modify fun after => { after with frame := scanner.frame, depth := scanner.depth }
      match result with
      | .ok () => return .unset
      | .error (.back found) => return found
      | .error stop => throw stop

def mostCalls : Nat := 10000

/-! ### Rules -/

/-- A rule applies to the record; ranges are remembered by the number of the rule. -/
def applies (around : Surrounding) (number : Nat) : Pattern → Run Bool
  | .start => return false
  | .finish => return false
  | .always => return true
  | .condition test => do return (← evaluate around test).isTrue
  | .range first last => do
      let isWithin := (← get).ranges.contains number
      let starts ← if isWithin then pure true
        else do pure (← evaluate around first).isTrue
      if !starts then return false
      let ends := (← evaluate around last).isTrue
      modify fun scanner =>
        let others := scanner.ranges.filter (· ≠ number)
        { scanner with ranges := if ends then others else number :: others }
      return true

def applyRules (around : Surrounding) : (number : Nat) → List Rule → Run Unit
  | _, [] => return ()
  | number, rule :: rest => do
      if ← applies around number rule.pattern then perform around rule.action
      applyRules around (number + 1) rest

def records (around : Surrounding) (rules : List Rule) : (fuel : Nat) → Run Unit
  | 0 => return ()
  | fuel + 1 => do
      match ← takeMain? with
      | none => return ()
      | some record => do
          putRecord record
          match ← attempt (applyRules around 0 rules) with
          | .ok () => records around rules fuel
          | .error .nextRecord => records around rules fuel
          | .error .nextFile => do
              modify fun scanner => { scanner with main := none }
              records around rules fuel
          | .error stop => throw stop

/-- Runs a program from its start to its end. -/
def script (launch : Launch) (program : Script) : Run Unit := do
  let around : Surrounding := ⟨launch, call launch program.functions mostCalls⟩
  let body : Run Unit := do
    program.starts.forM (perform around)
    unless program.recordRules.isEmpty && program.finishes.isEmpty do
      records around program.recordRules mostRounds
  match ← attempt body with
  | .ok () => program.finishes.forM (perform around)
  | .error .exit => program.finishes.forM (perform around)
  | .error stop => throw stop

end Run

/-!
## Calling the pattern scanner

The options of the scanner and its operands: the first operand is the program,
unless options name files that hold it; the others are inputs and assignments.
-/

open Act

/-- What the options of a call ask for. -/
structure Call where
  programs : List Octets
  /-- What is between fields, as it is written. -/
  separator : Option Octets
  assignments : List (Octets × Octets)
  operands : List Octets

/-- Reads options up to the first operand; what is wrong with them if they are not understood. -/
def readCall : (arguments : List Octets) → Call → Except Octets Call
  | ['-', '-'] :: rest, call => .ok { call with operands := rest }
  | ('-' :: '-' :: word) :: _, _ => .error ("not an option: --".toList ++ word)
  | ['-', letter] :: value :: rest, call =>
      if ['F', 'f', 'v'].contains letter then given letter value rest call
      else .error ("not an option: -".toList ++ [letter])
  | [['-', letter]], _ =>
      if ['F', 'f', 'v'].contains letter then
        .error ("option -".toList ++ [letter] ++ " lacks argument".toList)
      else .error ("not an option: -".toList ++ [letter])
  | ('-' :: letter :: value) :: rest, call => given letter value rest call
  | operands, call => .ok { call with operands }
where
  /-- Goes on behind an option with a value. -/
  given (letter : Char) (value : Octets) (rest : List Octets) (call : Call) :
      Except Octets Call :=
    match letter with
    | 'F' => readCall rest { call with separator := some value }
    | 'f' => readCall rest { call with programs := call.programs ++ [value] }
    | 'v' =>
        match Run.assignment? value with
        | some new => readCall rest { call with assignments := call.assignments ++ [new] }
        | none => .error ("improper assignment: -v ".toList ++ value)
    | letter => .error ("not an option: -".toList ++ letter :: value)

def startingValues : List (String × Cell) :=
  [("FS", .text [' ']), ("OFS", .text [' ']), ("ORS", .text ['\n']), ("RS", .text ['\n']),
    ("NF", .number 0.0), ("NR", .number 0.0), ("FNR", .number 0.0), ("RSTART", .number 0.0),
    ("RLENGTH", .number (-1.0)), ("SUBSEP", .text ['\x1c']), ("CONVFMT", .text usualFormat),
    ("OFMT", .text usualFormat), ("FILENAME", .text [])]

def startingState (self : Octets) : Scanner where
  self
  globals := startingValues.foldl
    (fun globals (name, cell) => globals.insert name.toList (.cell cell)) ∅
  tables := #[]
  frame := #[]
  depth := 0
  record := .text []
  fields := #[]
  isSplit := true
  main := none
  operand := 1
  hasRead := false
  isOver := false
  readers := []
  writers := []
  output := []
  ranges := []
  status := 0
  seed := .ofNat 0
  expressions := ∅

/-- Makes the tables that hold the environment and the operands, and assigns what is asked for. -/
def prepare (call : Call) (self : Octets) : Run Unit := do
  let operands := self :: call.operands
  let numbered := List.zip (List.range operands.length) operands
  let arguments ← Run.tableAt (.global "ARGV".toList)
  numbered.forM fun (i, operand) =>
    Run.store (.element arguments (.whole i)) (.input operand)
  Run.keep "ARGC" (.ofNat operands.length)
  let surrounding ← Run.tableAt (.global "ENVIRON".toList)
  (← Environment.assignments).forM fun (name, value) =>
    Run.store (.element surrounding (.text name)) (.input value)
  if let some separator := call.separator then
    Run.assign (.global "FS".toList) (.text (meant separator))
  call.assignments.forM fun (name, value) => Run.assign (.global name) (.input value)

def endingLine (text : Octets) : Octets :=
  if text.getLast? = some '\n' then text else text ++ ['\n']

/-- A complaint about a line of a program that is in files, with the file and the line there. -/
def inFile : List (Octets × Octets) → (message : Octets) → Octets
  | files, message =>
      match Octets.behind? "line ".toList message with
      | none => message
      | some rest =>
          let digits := rest.takeWhile Char.isDigit
          place files (Octets.valueOf digits) (rest.drop digits.length)
where
  /-- The complaint, once the line is known. -/
  place (files : List (Octets × Octets)) (line : Nat) (rest : Octets) : Octets :=
    match files with
    | [] => "line ".toList ++ Octets.ofNat line ++ rest
    | (name, text) :: more =>
        let lines := text.count '\n'
        if lines < line && !more.isEmpty then place more (line - lines) rest
        else name ++ ": line ".toList ++ Octets.ofNat line ++ rest

/-- The text of the program, and the files that hold it with their names, if it is in files. -/
def programText (self : Octets) (call : Call) :
    Act (Except Octets (Octets × List (Octets × Octets) × Call)) := do
  if call.programs.isEmpty then
    return .ok (call.operands.headD [], [], { call with operands := call.operands.drop 1 })
  let texts ← call.programs.mapM fun name => do
    let content ← if name = ['-'] then readAll 0
      else do
        match ← readPath name with
        | .ok content => pure (.ok (Octets.ofBytes content))
        | .error error => pure (.error error)
    match content with
    | .ok text => return (Except.ok text : Except Octets Octets)
    | .error error =>
        return .error (self ++ ": cannot open \"".toList ++ name ++ "\" (".toList ++
          error.wording.toList ++ ")\n".toList)
  return do
    let texts ← texts.mapM id
    let texts := texts.dropLast.map endingLine ++ texts.getLast?.toList
    return (texts.flatten, List.zip call.programs texts, call)

/-- What is wrong with what a call says is between fields, if anything is. -/
def separatorProblem? (call : Call) : Option Octets :=
  let given := call.separator.toList.map meant ++
    (call.assignments.filter (·.1 = "FS".toList)).map (·.2)
  given.findSome? fun text =>
    if text.length ≤ 1 then none
    else
      match Notation.regexOf text with
      | .ok _ => none
      | .error problem => some ("line 0: ".toList ++ Run.regexProblem problem text)

/-- Runs a program. -/
def runCall (launch : Launch) (self : Octets) (call : Call) : Act Nat := do
  let failure := 2
  let say (message : Octets) : Act Unit := report (self ++ ": ".toList ++ message ++ ['\n'])
  if let some problem := separatorProblem? call then
    say problem
    return failure
  match ← programText self call with
  | .error message =>
      report message
      return failure
  | .ok (text, files, call) =>
      match scriptOf text with
      | .error messages =>
          messages.forM fun message => say (inFile files message)
          return failure
      | .ok script =>
          let steps : Run Unit := do
            prepare call self
            Run.script launch script
          let (result, scanner) ← steps.run (startingState self)
          let (closing, scanner) ← (Run.closeAll launch).run scanner
          return match result, closing with
            | .error .fatal, _ => failure
            | _, .error .fatal => failure
            | _, _ => scanner.status

/-- The pattern scanner. -/
def awk (launch : Launch) : Program := fun self arguments => do
  let self := Entries.lastName self
  if arguments.isEmpty then
    report ("usage: ".toList ++ self ++ " [-F value] [-v var=value] program [file ...]\n".toList)
    return 2
  match readCall arguments ⟨[], none, [], []⟩ with
  | .error message =>
      report (self ++ ": ".toList ++ message ++ ['\n'])
      return 2
  | .ok call =>
      if call.programs.isEmpty && call.operands.isEmpty then return 0
      runCall launch self call

end BlockExtension.Shell.Utility.Scanning
