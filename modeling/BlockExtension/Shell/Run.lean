import BlockExtension.Shell.Assigning
import BlockExtension.Shell.Condition
import BlockExtension.Shell.Connection
import BlockExtension.Shell.Program
import BlockExtension.Shell.Utility.Control

/-!
# Running commands

What each kind of command does. The commands within a command are run by a
`Runner` that comes in from outside, and `run` ties the knot at the end, with a
depth that commands are nested at most.

A command that fails ends the script if the script has asked for that, unless
its failure is looked at: by a condition, a negation, or a connective.
-/

namespace BlockExtension.Shell.Run

open Act

/-- The words of a command that writes what it reads. -/
def copying : List Word := ["command", "-p", "cat"].map fun word => [.literal word.toList]

def firstLine? : Command → Option Nat
  | .simple line .. => some line
  | .subshell line .. => some line
  | .redirected line .. => some line
  | .each line .. => some line
  | .count line .. => some line
  | .menu line .. => some line
  | .choice line .. => some line
  | .condition line _ => some line
  | .calculation line _ => some line
  | .function _ line _ => some line
  | .pipe first _ => firstLine? first
  | .negation body => firstLine? body
  | .both first _ => firstLine? first
  | .either first _ => firstLine? first
  | .sequence first _ => firstLine? first
  | .background body => firstLine? body
  | .branch condition .. => firstLine? condition
  | .loop _ condition _ => firstLine? condition
  | .timed _ body => firstLine? body
  | .nothing => none

/-- Runs a command that stands in a word, whose lines go on from the line of the word. -/
def runWithin (runner : Runner) (body : Command) : Act Unit := do
  let before ← process
  modifyProcess fun process =>
    { process with
      lineOffset := match firstLine? body with
        | some line => (before.line : Int) - line
        | none => before.lineOffset
      nesting := before.nesting + 1 }
  runner body

/-- What a command writes that stands in a word; a lone input stands for what is in it. -/
def output (runner : Runner) : Expansion.Output := fun body => do
  match body, ← isExtended with
  | .nothing, _ => return []
  | .simple line [] [] [] [.file 0 .read name], true =>
      captured runner (runWithin runner (.simple line [] copying [] [.file 0 .read name]))
  | body, true => captured runner (runWithin runner body)
  | body, false => captured runner (runner body)

/--
Ends the script if it is to end at the first failure and the last command has
failed; before that comes what is to be done at a failure.
-/
def checkStatus (runner : Runner) : Act Unit := do
  let process ← process
  if process.status ≠ 0 && !process.isTested then
    atEvent runner "ERR" 'E'
    if process.settings.contains 'e' then throw .quit

/-! ## Utilities that run commands -/

/-- Runs words as a text of commands. -/
def evaluate (runner : Runner) (arguments : List Octets) : Act Nat := do
  let before ← process
  if before.dialect = .extended then
    modifyProcess fun process =>
      { process with
        lineOffset := (before.line : Int) - 1
        nesting := before.nesting + 1 }
  let text := Octets.joined [' '] arguments
  let run := protect (fun process =>
    { process with
      line := before.line
      lineOffset := before.lineOffset
      nesting := before.nesting })
    (runLabelled runner (if before.dialect = .extended then "eval: ".toList else []) text)
  if before.dialect ≠ .extended then
    run
    status
  else
    match ← attempt (speakingFor none run) with
    | .error .unreadable => return 2
    | .error jump => throw jump
    | .ok () => status

def textPath? (name : Octets) : Act (Option Octets) := do
  if name.contains '/' then return some name
  let tree ← tree
  let isFile (path : Octets) : Bool :=
    match tree.find (pathOf path) with
    | .ok (_, .file ..) => true
    | _ => false
  let found := (← Utility.candidates name).find? isFile
  if found.isNone && (← isExtended) && isFile name then return some name
  return found

/-- What has been read; the standard shell takes a directory for an empty file. -/
def orEmpty (extended : Bool) :
    Except Files.OsError ByteArray → Except Files.OsError ByteArray
  | .error .isDirectory => if extended then .error .isDirectory else .ok .empty
  | read => read

def evaluateFile (runner : Runner) (arguments : List Octets) : Act Nat := do
  match arguments with
  | [] =>
      if ← isExtended then
        complain "filename argument required".toList
        let self := (← process).utility.getD ['.']
        report (self ++ ": usage: ".toList ++ self ++ " filename [arguments]\n".toList)
        return 2
      return 0
  | name :: positional =>
      let before ← process
      let extended ← isExtended
      let missing (error : Files.OsError) : Act Nat := do
        if extended then
          if error = .isDirectory then complain (name ++ ": is a directory".toList)
          else speakingFor none (complain (name ++ (": " ++ error.wording).toList))
          return 1
        failWith (Connection.openingMessage false .read name error) 2
      match ← textPath? name with
      | none =>
          if extended then missing .notFound
          else failWith (name ++ ": not found".toList) 2
      | some path =>
          match orEmpty extended (← readPath path) with
          | .error error => missing error
          | .ok content =>
              if extended && !positional.isEmpty then
                modifyProcess fun process => { process with positional }
              let text := (Octets.ofBytes content).filter (· ≠ '\x00')
              modifyProcess fun process =>
                { process with
                  bodies := process.bodies + 1
                  file := if extended then name else process.file
                  callers := ⟨"source".toList, name, before.line⟩ :: before.callers
                  lineOffset := 0 }
              let result ← attempt (tested (extended && before.isTested)
                (speakingFor (if extended then none else some path) (runText runner text)))
              modifyProcess fun process =>
                { process with
                  line := before.line
                  lineOffset := before.lineOffset
                  bodies := before.bodies
                  file := before.file
                  callers := before.callers
                  positional := if extended then before.positional else process.positional }
              match result with
              | .error .back => status
              | .error .unreadable => return 1
              | .error jump => throw jump
              | .ok () => status

/-! ## Programs -/

def programPaths (name : Octets) : Act (List Octets) := do
  let candidates ← Utility.candidates name
  if name.contains '/' then return candidates
  let tree ← tree
  return candidates.filter fun path =>
    match tree.find (pathOf path) with
    | .ok (_, .file ..) => true
    | _ => false

/-- What is said of a program that cannot be started, and the status that stands for that. -/
def startFailure (extended : Bool) (error : Files.OsError) : String × Nat :=
  match error with
  | .notFound => (if extended then error.wording else "not found", 127)
  | .notDirectory => (if extended then error.wording else "not found",
      if extended then 126 else 127)
  | .nameTooLong => (error.wording, if extended then 126 else 127)
  | error => (error.wording, 126)

/--
The process goes on as a program. A file that could be run but says nothing of
how is taken for a script of the shell. If there is no way to go on, the reason
is told and the status is set.
-/
def become (runner : Runner) (name : Octets) (arguments : List Octets)
    (paths : List Octets) : Act Unit := do
  let extended ← isExtended
  let result ←
    if extended && name.contains '/' then becoming runner name name arguments
    else becomeFirst (becoming runner) name arguments .notFound paths
  match result with
  | none => return ()
  | some .badExecutable =>
      let path := paths.headD name
      let shell := (if extended then "/bin/bash" else "/bin/sh").toList
      let _ ← becoming runner shell shell (path :: arguments)
  | some error =>
      let isDirectory := (← tree).isDirectory (pathOf name)
      let (text, status) := startFailure extended error
      let isThere := (← tree).isThere (pathOf name)
      let text := if !extended then text
        else if isDirectory then "Is a directory"
        else if error = .notFound && isThere then "cannot execute: required file not found"
        else text
      complain (name ++ (": " ++ text).toList)
      setStatus status

/-- The paths of a program that is looked for among some; where it is found is kept in mind. -/
def foundBefore (name : Octets) (paths : List Octets) : Act (List Octets) := do
  if name.contains '/' then return paths
  let known ← Utility.located? name
  if let some path := (known.map (·.path)).orElse fun _ => paths.head? then
    Utility.Whereabouts.use name path
  return known.toList.map (·.path) ++ paths

/-- Runs a program in a process of its own, or in the one that is there if that gives way. -/
def runProgram (runner : Runner) (givesWay : Bool) (name : Octets) (arguments : List Octets) :
    Act Unit := do
  let extended ← isExtended
  match ← foundBefore name (← programPaths name) with
  | [] =>
      let tree ← tree
      let isThere := (← Utility.candidates name).any fun path => tree.isThere (pathOf path)
      let said := if extended then ": command not found"
        else if isThere then ": Permission denied" else ": not found"
      complain (name ++ said.toList)
      setStatus 127
  | paths =>
      pass runner loadTime
      if givesWay then
        become runner name arguments paths
        throw .quit
      let status ← waitedFor runner (become runner name arguments paths)
      setStatus status

/-- Puts a program in the place of the script. -/
def replace (runner : Runner) (arguments : List Octets) : Act Nat := do
  let arguments := if arguments.head? = some ['-', '-'] then arguments.drop 1 else arguments
  match arguments with
  | [] => return 0
  | name :: arguments =>
      match ← programPaths name with
      | [] =>
          complain (name ++ ": not found".toList)
          setStatus 127
      | paths => become runner name arguments paths
      throw .quit

/-! ## What a name stands for -/

def lookUp (arguments : List Octets) : Act Nat := do
  match arguments with
  | ['-', 'v'] :: names => Utility.resolve names
  | ['-', 'V'] :: names => Utility.describeAll names
  | _ => return 0

def ownUtility? (runner : Runner) (extended : Bool) (lists : Utility.Lists) (name : String) :
    Option (List Octets → Act Nat) :=
  match name with
  | "eval" => some (evaluate runner)
  | "." => some (evaluateFile runner)
  | "exec" => some (replace runner)
  | "command" => some lookUp
  | name =>
      match Utility.ownUtility? name runner lists with
      | some utility => some utility
      | none =>
          if !extended then none
          else if name = "source" then some (evaluateFile runner)
          else Utility.extendedUtility? name lists

/-- What a name at the start of a command stands for. -/
inductive Meaning where
  /-- There is no name. -/
  | nothing
  | function (name : Octets) (function : Function)
  | own (name : Octets) (special : Bool) (run : List Octets → Act Nat)
  | program (name : Octets)

namespace Meaning

/--
The variables that are assigned before a command with this meaning stay assigned.
A utility of the shell without any may also change the variables around it.
-/
def keepsAssignments (hasAny : Bool) : Meaning → Bool
  | .nothing => true
  | .own _ special _ => special || !hasAny
  | _ => false

/-- A failure of a redirection ends the script. -/
def isSpecial : Meaning → Bool
  | .own _ special _ => special
  | _ => false

def keepsRedirections : Meaning → Bool
  | .own name _ _ => name = "exec".toList
  | _ => false

end Meaning

/-- Words without what says that a name is not to stand for a function; true if they had it. -/
def withoutCommand (extended : Bool) : List Octets → Bool × List Octets
  | word :: rest =>
      if word = "command".toList then
        match rest with
        | ['-', 'p'] :: rest => (true, (withoutCommand extended rest).2)
        | ['-', '-'] :: rest => (true, rest)
        | [] => (false, [word])
        | ('-' :: _) :: _ => (false, word :: rest)
        | rest => (true, (withoutCommand extended rest).2)
      else if extended && word = "builtin".toList &&
          rest.head?.any fun name => Utility.isOwn true (String.ofList name) then
        (true, (withoutCommand extended rest).2)
      else (false, word :: rest)
  | [] => (false, [])

/-- What some words stand for; `plainly` says that functions do not count. -/
def meaningOf (runner : Runner) (plainly : Bool) (lists : Utility.Lists) :
    List Octets → Act Meaning
  | [] => return .nothing
  | name :: _ => do
      let process ← process
      let extended := process.dialect = .extended
      match if plainly then none else process.functions.lookup name with
      | some function => return .function name function
      | none =>
          let text := String.ofList name
          let isOwn := Utility.isOwn extended text
          match if isOwn then ownUtility? runner extended lists text else none with
          | some utility =>
              let special := !plainly && !extended && Utility.specials.contains text
              return .own name special utility
          | none => return .program name

/-! ## Simple commands -/

def assigningUtilities (extended : Bool) : List String :=
  ["export", "readonly", "local"] ++ if extended then ["declare", "typeset", "alias"] else []

def assignmentWord? : Word → Option (Octets × Word)
  | .literal text :: rest =>
      let (name, behind) := text.span (· ≠ '=')
      match behind with
      | '=' :: value =>
          if Octets.isName name then some (name ++ ['='], .literal value :: rest) else none
      | _ => none
  | _ => none

def assigningArgument (runner : Runner) (word : Word) : Act (List Octets) := do
  match assignmentWord? word with
  | some (start, value) => return [start ++ (← Expansion.assigned (output runner) value)]
  | none => Expansion.arguments (output runner) word

def expandWords (runner : Runner) : List Word → Act (List Octets)
  | [] => return []
  | word :: rest => do
      let texts ← Expansion.arguments (output runner) word
      match texts with
      | [] => expandWords runner rest
      | name :: more =>
          let text := String.ofList name
          if text = "command" && more.isEmpty then
            return texts ++ (← expandWords runner rest)
          else if (assigningUtilities (← isExtended)).contains text &&
              ((← process).functions.lookup name).isNone then
            return texts ++ (← rest.mapM (assigningArgument runner)).flatten
          else return texts ++ (← Expansion.allArguments (output runner) rest)

/-- A text as a trace shows it: quoted if the shell would not read it back as it is. -/
def traced (text : Octets) : Octets :=
  if text.isEmpty then ['\'', '\'']
  else if Quotation.isMeaningful text then Quotation.single text
  else Quotation.plainest text

def traceStart : Act Octets := do
  let process ← process
  let depth := if process.dialect = .extended then process.nesting else 0
  match (← textOf? "PS4".toList).getD "+ ".toList with
  | c :: rest => return List.replicate depth c ++ c :: rest
  | [] => return []

def tracedAssignment (text : Octets) : Octets :=
  let name := text.takeWhile (· ≠ '=')
  match text.drop name.length with
  | '=' :: '(' :: rest => name ++ '=' :: '(' :: rest
  | '=' :: value => name ++ '=' :: (if value.isEmpty then [] else traced value)
  | rest => name ++ rest

/-- Shows a command before it runs, on the standard error that was there before it. -/
def trace (before : Process) (assignments arguments : List Octets) : Act Unit := do
  if ← isSet 'x' then
    let start ← traceStart
    let lines ← if ← isExtended then
        let own := if arguments.isEmpty then [] else [arguments.map traced]
        pure (assignments.map (fun text => [tracedAssignment text]) ++ own)
      else pure [assignments ++ arguments]
    let current := (← process).descriptors
    modifyProcess fun process => { process with descriptors := before.descriptors }
    lines.forM fun words => report (start ++ Octets.joined [' '] words ++ ['\n'])
    modifyProcess fun process => { process with descriptors := current }

def callLimit : Nat := 1000

def call (runner : Runner) (name : Octets) (function : Function) (arguments : List Octets) :
    Act Unit := do
  let before ← process
  if before.dialect = .standard && callLimit ≤ before.calls then
    failWith s!"Maximum function recursion depth ({callLimit}) reached".toList 2
  modifyProcess fun process =>
    { process with
      positional := arguments
      loops := 0
      bodies := process.bodies + 1
      calls := process.calls + 1
      callers := ⟨name, before.file, before.line⟩ :: before.callers
      optionOffset := 0
      lineOffset := function.offset }
  let result ← attempt (runner function.body)
  if before.settings.contains 'T' then atEvent runner "RETURN" 'T'
  modifyProcess fun process =>
    { process with
      positional := before.positional
      loops := before.loops
      bodies := before.bodies
      calls := before.calls
      callers := before.callers
      optionOffset := before.optionOffset
      lineOffset := before.lineOffset }
  match result with
  | .ok () => return ()
  | .error .back => return ()
  | .error jump => throw jump

/-- Runs a utility of the shell. What is wrong with it ends the script only if it is special. -/
def runOwn (name : Octets) (special : Bool) (run : List Octets → Act Nat)
    (arguments : List Octets) : Act Unit := do
  modifyProcess fun process => { process with outputLoss := none }
  match ← attempt (speakingFor (some name) (run arguments)) with
  | .ok status =>
      if let some error := (← process).outputLoss then
        let text := if ← isExtended then ("write error: " ++ error.wording).toList
          else name ++ ": I/O error".toList
        speakingFor (some name) (complain text)
        modifyProcess fun process => { process with outputLoss := none }
        setStatus (status ||| 1)
      else setStatus status
  | .error jump =>
      let runsText := ["eval", ".", "source"].contains (String.ofList name)
      let isSmall : Bool := jump = .fail || jump = .discard
      if !isSmall || special || ((← isExtended) && runsText) then throw jump

/-- Does what a name stands for. -/
def perform (runner : Runner) (givesWay : Bool) (arguments : List Octets) : Meaning → Act Unit
  | .nothing => do setStatus (← process).outputStatus
  | .function name function => call runner name function arguments
  | .own name special run => runOwn name special run arguments
  | .program name => runProgram runner givesWay name arguments

def listsOf (runner : Runner) (declared : List Assignment) : Act Utility.Lists := do
  let found ← declared.mapM fun assignment => do
    match assignment with
    | .list name adds items =>
        return [(name, adds, ← Assigning.entriesOf (output runner) items)]
    | _ => return []
  return found.flatten

/-- Keeps how a command has ended, and its last word, for those behind it. -/
def remember (words : List Octets) : Act Unit :=
  modifyProcess fun process =>
    { process with
      stageStatuses := [process.status]
      lastWord := words.getLast?.getD process.lastWord }

/-- Runs a simple command; the process may give way to a program. -/
def simple (runner : Runner) (givesWay : Bool) (line : Nat) (assignments : List Assignment)
    (words : List Word) (declared : List Assignment) (redirections : List Redirection) :
    Act Unit := do
  atLine line
  modifyProcess fun process => { process with outputStatus := 0 }
  atEvent runner "DEBUG" 'T'
  let output := output runner
  let texts ← expandWords runner words
  let lists ← listsOf runner declared
  let (plainly, named) := withoutCommand (← isExtended) texts
  let meaning ← meaningOf runner plainly lists named
  let before ← process
  let arguments := named.drop 1
  let body : Act Unit :=
    if meaning.keepsAssignments !assignments.isEmpty then do
      let shown ← assignments.mapM (Assigning.assign output)
      if meaning.keepsRedirections && !arguments.isEmpty then
        assignments.forM fun assignment =>
          Assigning.markExported (Assigning.nameOf assignment)
      trace before shown texts
      perform runner givesWay arguments meaning
    else Assigning.inFrame do
      let shown ← assignments.mapM (Assigning.assignLocally output)
      trace before shown texts
      perform runner givesWay arguments meaning
  let done ← Connection.behind output redirections meaning.keepsRedirections body
  if !done && meaning.isSpecial then throw .fail
  remember texts
  checkStatus runner

/-! ## Commands within commands -/

/-- The commands of which each reads what the one before writes. -/
def stages : Command → List Command
  | .pipe first second => first :: stages second
  | body => [body]

/-- Keeps in mind where the program is that a command starts with, if it is clear which one. -/
def foresee : Command → Act Unit
  | .simple _ _ (word :: _) _ _ => do
      if let some name := Word.bare? word then
        if Octets.isName name then Utility.Whereabouts.note name
  | _ => return ()

/-- Runs two commands in processes of their own, the second on what the first writes. -/
def pipe (runner : Runner) (first second : Command) : Act Unit := do
  (stages (.pipe first second)).forM foresee
  let place ← newChannel .fresh
  let machine ← get
  let left ← inSubshell runner do
    connect 1 (some place)
    runner first
  finishFrom runner machine.nextId jobLimit
  let right ← beside (machine.elapsed + forkTime) do
    inSubshell runner do
      connect 0 (some place)
      runner second
  settle runner
  speakOf left
  speakOf right
  setStatus right.status

def lastStage (runner : Runner) (place : Nat) (body : Command) : Act Ending := do
  let before ← process
  connect 0 (some place)
  protect (Connection.restored [0] before) (runner body)
  return .exited (← status)

/-- Runs commands, each on what the one before it writes, and tells how they end. -/
def throughStages (runner : Runner) (lastStays : Bool) : (start : Nat) → (input : Option Nat) →
    List Command → Act (List Ending)
  | _, _, [] => return []
  | start, input, body :: rest => do
      let isLast := rest.isEmpty
      let place ← if isLast then pure 0 else newChannel .fresh
      let first := (← get).nextId
      let ending ← beside start do
        match isLast && lastStays, input with
        | true, some input => lastStage runner input body
        | _, input =>
            inSubshell runner do
              if let some input := input then connect 0 (some input)
              unless isLast do connect 1 (some place)
              runner body
      unless isLast do finishFrom runner first jobLimit
      return ending :: (← throughStages runner lastStays (start + forkTime) (some place) rest)

def pipeline (runner : Runner) (bodies : List Command) : Act Unit := do
  let start := (← get).elapsed
  let endings ← throughStages runner (← isChosen "lastpipe") start none bodies
  settle runner
  endings.forM speakOf
  let statuses := endings.map Ending.status
  let last := statuses.getLast?.getD 0
  let failed := (statuses.filter (· ≠ 0)).getLast?.getD 0
  setStatus (if ← isSet 'P' then failed else last)
  modifyProcess fun process => { process with stageStatuses := statuses }

/-- How a loop goes on behind a part of a round. -/
inductive Course where
  | onward
  | nextRound
  | out
  deriving DecidableEq, Repr

def inRound (act : Act Unit) : Act Course := do
  match ← attempt act with
  | .ok () => return .onward
  | .error (.leave levels) => if levels ≤ 1 then return .out else throw (.leave (levels - 1))
  | .error (.resume levels) =>
      if levels ≤ 1 then return .nextRound else throw (.resume (levels - 1))
  | .error jump => throw jump

def asLoop (act : Act Unit) : Act Unit := do
  let before := (← process).loops
  modifyProcess fun process => { process with loops := before + 1 }
  protect (fun process => { process with loops := before }) act

/-- Lets the time of a round pass, and with it what others do that concerns the loop. -/
def passRound (runner : Runner) : Act Unit := do
  let status ← status
  advance roundTime
  let machine ← get
  unless machine.jobs.isEmpty && machine.pending.isEmpty do
    settle runner
    setStatus status

/-- The rounds of a loop with a condition; `last` is how the last one ended. -/
def rounds (runner : Runner) (wanted : Bool) (condition body : Command) :
    (fuel : Nat) → (last : Nat) → Act Unit
  | 0, last => setStatus last
  | fuel + 1, last => do
      passRound runner
      match ← inRound (tested true (runner condition)) with
      | .out => setStatus last
      | .nextRound => rounds runner wanted condition body fuel last
      | .onward =>
          if ((← status) = 0) = wanted then
            match ← inRound (runner body) with
            | .out => return ()
            | _ => rounds runner wanted condition body fuel (← status)
          else setStatus last

def roundsOver (runner : Runner) (name : Octets) (body : Command) : List Octets → Act Unit
  | [] => return ()
  | text :: rest => do
      passRound runner
      Assigning.give false name text
      match ← inRound (runner body) with
      | .out => return ()
      | _ => roundsOver runner name body rest

/-- The value of an expression between double parentheses. -/
def calculated (runner : Runner) (expression : Word) : Act Int64 := do
  let written ← Expansion.text (output runner) expression
  speakingFor (some ['(', '(']) (Arithmetic.value written)

def roundsCounting (runner : Runner) (condition step : Word) (body : Command) :
    (fuel : Nat) → Act Unit
  | 0 => return ()
  | fuel + 1 => do
      passRound runner
      let written ← Expansion.text (output runner) condition
      let isOn ← if written.all Octets.isSpace then pure true
        else do pure ((← calculated runner condition) ≠ 0)
      if isOn then
        match ← inRound (runner body) with
        | .out => return ()
        | _ =>
            let _ ← calculated runner step
            roundsCounting runner condition step body fuel

def roundLimit : Nat := 10000000

def runOrSucceed (runner : Runner) : Command → Act Unit
  | .nothing => setStatus 0
  | command => runner command

/--
Runs the command behind the first pattern that a text matches, and goes on as the
case says; `falls` says that the next one runs whatever its patterns are.
-/
def choose (runner : Runner) (text : Octets) : (falls : Bool) →
    List (List Word × Command × Onward) → Act Unit
  | _, [] => return ()
  | falls, (patterns, body, onward) :: rest => do
      let hit ← if falls then pure true
        else patterns.anyM fun pattern =>
          return (← Expansion.pattern (output runner) false pattern).accepts text
      if !hit then choose runner text false rest
      else
        runOrSucceed runner body
        match onward with
        | .stop => return ()
        | .next => choose runner text true rest
        | .retry => choose runner text false rest

/-! ## Menus -/

/-- Blanks from one column to another, with tabs as far as they go. -/
def indented : (fuel : Nat) → (column goal : Nat) → Octets
  | 0, _, _ => []
  | fuel + 1, column, goal =>
      if goal ≤ column then []
      else if column / 8 < goal / 8 then
        '\t' :: indented fuel (column + 8 - column % 8) goal
      else ' ' :: indented fuel (column + 1) goal

def digitCount (n : Nat) : Nat := (Octets.ofNat n).length

def terminalWidth : Nat := 80

/-- A line of a menu, from one of its items on, which stand so many places apart. -/
def menuLine (items : List Octets) (rows width others : Nat) :
    (fuel : Nat) → (column digits place : Nat) → Octets
  | 0, _, _, _ => []
  | fuel + 1, column, digits, place =>
      match items[place]? with
      | none => []
      | some item =>
          let shown := Octets.padLeft digits (Octets.ofNat (place + 1)) ++ ')' :: ' ' :: item
          if items.length ≤ place + rows then shown
          else
            shown ++ indented width (column + shown.length) (column + width) ++
              menuLine items rows width others fuel (column + width) others (place + rows)

def menuText (items : List Octets) : Octets :=
  let count := items.length
  let others := digitCount count
  let longest := items.foldl (fun most item => max most item.length) 0
  let width := longest + others + 4
  let columns := max 1 (terminalWidth / width)
  let rows := (count + columns - 1) / columns
  let columns := (count + rows - 1) / (max 1 rows)
  let rows := if rows = 1 then columns else rows
  Octets.unlines ((List.range rows).map fun row =>
    menuLine items rows width others (count + 1) 0 (digitCount rows) row)

def roundsOfMenu (runner : Runner) (name : Octets) (items : List Octets) (body : Command) :
    (fuel : Nat) → (shows : Bool) → Act Unit
  | 0, _ => return ()
  | fuel + 1, shows => do
      if shows then report (menuText items)
      report ((← textOf? "PS3".toList).getD "#? ".toList)
      let reply := "REPLY".toList
      let found ← Utility.takeInput 0 ⟨false, some '\n', none⟩
      let text := found.marks.map (·.char)
      if !found.ended && text.isEmpty then
        put ['\n']
        setStatus 1
        return ()
      assignText reply text
      if text.isEmpty then roundsOfMenu runner name items body fuel true
      else
        let picked := ((Octets.number? text).filter (0 < ·)).bind fun n => items[n - 1]?
        Assigning.give false name (picked.getD [])
        match ← inRound (runner body) with
        | .out => return ()
        | _ =>
            let shows := ((← textOf? reply).getD []).isEmpty
            roundsOfMenu runner name items body fuel shows

/-! ## Times -/

def minutes (places nanos : Nat) : Octets :=
  let seconds := nanos / 1000000000
  let fraction := nanos % 1000000000 / (1000000000 / Decimal.tenPow places)
  Octets.ofNat (seconds / 60) ++ 'm' :: Octets.ofNat (seconds % 60) ++
    '.' :: Decimal.padded places fraction ++ ['s']

/-- Runs a command, and tells how long it takes. -/
def timed (runner : Runner) (plainly : Bool) (body : Command) : Act Unit := do
  let before := (← get).elapsed
  runOrSucceed runner body
  let taken := (← get).elapsed - before
  let seconds := Octets.ofNat (taken / 1000000000) ++
    '.' :: Decimal.padded 2 (taken % 1000000000 / 10000000)
  let lines := if plainly then
      [("real ", seconds), ("user ", "0.00".toList), ("sys ", "0.00".toList)]
    else
      [("", []), ("real\t", minutes 3 taken), ("user\t", minutes 3 0), ("sys\t", minutes 3 0)]
  report (Octets.unlines (lines.map fun (name, time) => name.toList ++ time))

/-! ## Files that stand for commands -/

/--
Takes away the files that have stood for commands since a moment, after the
commands that were to read from them have done so.
-/
def settlePassages (runner : Runner) (before : Process) : Act Unit := do
  let after ← process
  let passages := after.passages.take (after.passages.length - before.passages.length)
  let readers := after.readers.take (after.readers.length - before.readers.length)
  modifyProcess fun process =>
    { process with
      passages := before.passages
      readers := before.readers
      descriptors := process.descriptors.filter fun entry => !passages.contains entry.1 }
  readers.reverse.forM fun (place, body) => do
    let _ ← inSubshell runner do
      connect 0 (some place)
      runner body

/-- Does something in whose words files may stand for commands. -/
def withPassages (runner : Runner) (act : Act Unit) : Act Unit := do
  let before ← process
  act
  if (← process).passages.length ≠ before.passages.length then
    let status ← status
    settlePassages runner before
    setStatus status

/-! ## All commands -/

def orFailure (act : Act Bool) : Act Unit := do
  match ← attempt act with
  | .ok holds => setStatus (if holds then 0 else 1)
  | .error .discard => setStatus 1
  | .error .fail => unless (← status) = 2 do throw .fail
  | .error jump => throw jump

/--
Runs a command, given a way to run those within it. A process that is for this
command only may give way to a program, and needs no other one for a part of it.
-/
def command (runner : Runner) (givesWay : Bool) : Command → Act Unit
  | .nothing => return ()
  | .simple line assignments words declared redirections =>
      withPassages runner (simple runner givesWay line assignments words declared redirections)
  | .pipe first second => do
      if ← isExtended then pipeline runner (first :: stages second)
      else pipe runner first second
      checkStatus runner
  | .timed plainly body => timed runner plainly body
  | .negation body => do
      tested true (runner body)
      setStatus (if (← status) = 0 then 1 else 0)
  | .both first second => do
      tested true (runner first)
      if (← status) = 0 then runner second
  | .either first second => do
      tested true (runner first)
      if (← status) ≠ 0 then runner second
  | .sequence first second => do
      runner first
      runner second
  | .background body => do
      startBeside runner body
      settle runner
      setStatus 0
  | .subshell line body redirections => withPassages runner do
      atLine line
      let all ← Connection.allReady (output runner) redirections
      let inside : Act Unit := do
        match ← attempt (Connection.establishAll (output runner) all) with
        | .ok () => runOrSucceed runner body
        | .error .fail => throw .quit
        | .error jump => throw jump
      if givesWay then
        inside
        throw .quit
      let status ← waitedFor runner inside
      setStatus status
      remember []
      checkStatus runner
  | .redirected line body redirections => withPassages runner do
      atLine line
      let done ← Connection.behind (output runner) redirections false (runner body)
      unless done do checkStatus runner
  | .branch condition consequence alternative => do
      tested true (runner condition)
      runOrSucceed runner (if (← status) = 0 then consequence else alternative)
  | .loop wanted condition body => asLoop (rounds runner wanted condition body roundLimit 0)
  | .each line name items body => withPassages runner do
      atLine line
      let texts ← match items with
        | some words => Expansion.allArguments (output runner) words
        | none => do pure (← process).positional
      if texts.isEmpty then setStatus 0
      if Octets.isName name then asLoop (roundsOver runner name body texts)
      else
        complain ("\x60".toList ++ name ++ "': not a valid identifier".toList)
        setStatus 1
        checkStatus runner
  | .menu line name items body => withPassages runner do
      atLine line
      let texts ← match items with
        | some words => Expansion.allArguments (output runner) words
        | none => do pure (← process).positional
      setStatus 0
      unless texts.isEmpty do
        asLoop (roundsOfMenu runner name texts body roundLimit true)
  | .count line start condition step body => do
      atLine line
      let _ ← calculated runner start
      setStatus 0
      asLoop (roundsCounting runner condition step body roundLimit)
  | .choice line subject cases => withPassages runner do
      atLine line
      let text ← Expansion.text (output runner) subject
      setStatus 0
      choose runner text false cases
  | .function name line body => do
      let isExtended ← isExtended
      modifyProcess fun process =>
        let offset := if isExtended then process.lineOffset else 0
        let entry : Function := ⟨line, offset, body⟩
        { process with
          whereabouts := process.whereabouts.filter fun known => isExtended || known.name ≠ name
          functions := Association.put process.functions name entry }
      setStatus 0
  | .condition line terms => withPassages runner do
      atLine line
      match Condition.ofTerms? terms with
      | none => failWith "syntax error in conditional expression".toList 2
      | some condition =>
          orFailure (speakingFor (some ['[', '[']) (condition.holds (output runner)))
      remember []
      checkStatus runner
  | .calculation line expression => do
      atLine line
      orFailure do return (← calculated runner expression) ≠ 0
      remember []
      checkStatus runner

/-- Runs a command with others nested in it at most `fuel` deep, unless none are to be run. -/
def run : (fuel : Nat) → Runner
  | 0 => fun _ => throw .fail
  | fuel + 1 => fun body => do
      let process ← process
      if process.givesWay then modifyProcess fun process => { process with givesWay := false }
      unless process.settings.contains 'n' do command (run fuel) process.givesWay body

def depth : Nat := 20000

end BlockExtension.Shell.Run
