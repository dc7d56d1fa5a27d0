import BlockExtension.Shell.Jobs
import BlockExtension.Shell.Route
import BlockExtension.Shell.Utility.Names
import BlockExtension.Shell.Utility.Programs
import BlockExtension.Shell.Utility.Settings

/-!
# Starting programs

What becomes of a process when it goes on as another program. A file that can be
run is either machine code or names, in its first line, the interpreter that
reads it; a program that is named by a path and not found there, or that may not
be run, is not started, and the process stays what it was.
-/

namespace BlockExtension.Shell

open Act

/-! ## Files that can be run -/

/-- What a file is run as. -/
inductive Executable where
  | machineCode (program : String)
  | script (interpreter : Octets) (argument : Option Octets)
  deriving DecidableEq, Repr

namespace Executable

/-- How much of a file is looked at to find out what it is. -/
def window : Nat := 256

def endsPath (c : Char) : Bool := Octets.isBlank c || c = '\x00'

/--
The first line of a script behind its mark. A line that goes past what is looked
at must at least have the path of the interpreter in it.
-/
def firstLine? (isWhole : Bool) (start : Octets) : Option Octets :=
  if start.contains '\n' then some (start.takeWhile (· ≠ '\n'))
  else
    let path := start.dropWhile Octets.isBlank
    if isWhole || path.any endsPath then some start else none

def ofContent? (content : Octets) : Option Executable :=
  match Installation.programOf? content with
  | some program => some (.machineCode program)
  | none =>
      match content with
      | '#' :: '!' :: rest => do
          let line ← firstLine? (content.length < window) (rest.take (window - 2))
          let line := (line.reverse.dropWhile Octets.isBlank).reverse.dropWhile Octets.isBlank
          let path := line.takeWhile (!endsPath ·)
          if path.isEmpty then none
          else
            let argument := (line.drop path.length).dropWhile Octets.isBlank
            let argument := argument.takeWhile (· ≠ '\x00')
            return .script path (if argument.isEmpty then none else some argument)
      | _ => none

/-- What the file at a path is run as. -/
def at? (tree : Files.Tree) (path : Octets) : Except Files.OsError Executable :=
  match tree.find (Octets.toText path) with
  | .error error => .error error
  | .ok (_, entry) =>
      match entry with
      | .file content _ =>
          if !entry.isExecutable then .error .permissionDenied
          else
            match ofContent? (Octets.ofBytes content) with
            | some executable => .ok executable
            | none => .error .badExecutable
      | _ => .error .permissionDenied

end Executable

/-! ## Shells -/

def startingVariables (parent : Nat) (path : Octets) : List (String × Octets) :=
  [("IFS", " \t\n".toList), ("OPTIND", ['1']), ("PS1", "$ ".toList), ("PS2", "> ".toList),
    ("PS4", "+ ".toList), ("PPID", Octets.ofNat parent),
    ("PWD", path)]

def extendedVariables : List (String × String) :=
  [("BASH", "/bin/bash"), ("BASH_VERSION", "5.2.21(1)-release"), ("HOSTTYPE", "x86_64"),
    ("MACHTYPE", "x86_64-pc-linux-gnu"), ("OSTYPE", "linux-gnu"), ("TERM", "dumb")]

def variableRow (name : Octets) : Nat :=
  (name.foldl (fun sum c => sum + c.toNat) ((name.head?.map fun c => 16 * c.toNat).getD 0)) % 39

/-- The variables that a program gets; the standard shell hands them over row by row. -/
def handedOver (dialect : Dialect) (bindings : Variables) : Variables :=
  let exported := bindings.filter fun (_, entry) => entry.exported
  match dialect with
  | .standard => exported.mergeSort fun a b => variableRow a.1 ≤ variableRow b.1
  | .extended => exported

/-- What a process keeps of its own when it goes on as another program. -/
def Process.renewed (process : Process) (name : Octets) : Process :=
  { process with
    name
    file := name
    utility := none
    positional := []
    bindings := handedOver process.dialect process.bindings
    functions := []
    aliases := []
    whereabouts := []
    hidden := []
    settings := []
    traps := process.traps.filter (·.2.isEmpty)
    status := 0
    outputStatus := 0
    line := 0
    readerLine := 0
    lineOffset := 0
    loops := 0
    bodies := 0
    calls := 0
    isTested := false
    children := []
    reaped := []
    lastWait := 0
    givesWay := false
    optionOffset := 0
    outputLoss := none
    choices := []
    stageStatuses := []
    callers := []
    directories := []
    passages := []
    readers := []
    lastWord := name
    shownCommand := []
    nesting := 0 }

/-- What a shell is called with. -/
structure ShellCall where
  /-- The commands come from an argument. -/
  takesText : Bool
  readsInput : Bool
  operands : List Octets

def longOptions : List String :=
  ["debug", "debugger", "dump-po-strings", "dump-strings", "help", "init-file", "login",
    "noediting", "noprofile", "norc", "posix", "pretty-print", "rcfile", "restricted", "verbose",
    "version"]

/-- How the shell with extensions is to be called. -/
def usage : List String :=
  ["Usage:\tbash [GNU long option] [option] ...",
    "\tbash [GNU long option] [option] script-file ...",
    "GNU long options:"] ++
    longOptions.map ("\t--" ++ ·) ++
    ["Shell options:",
      "\t-ilrsD or -c command or -O shopt_option\t\t(invocation only)",
      "\t-abefhkmnptuvxBCEHPT or -o option"]

/-- Gives up a shell, since it has been called with an option that it does not know. -/
def refuseOption {α : Type} (option : Octets) (letter : Char) : Act α := do
  if ← isExtended then
    report ((← process).name ++ ": ".toList ++ option ++ ": invalid option\n".toList)
    report (Octets.unlines (usage.map String.toList))
    setStatus 2
    throw .fail
  failWith ("Illegal option -".toList ++ [letter]) 2

def readLetters (on : Bool) (call : ShellCall) : Octets → Act ShellCall
  | [] => return call
  | c :: rest => do
      if c = 'c' then readLetters on { call with takesText := true } rest
      else if c = 's' then readLetters on { call with readsInput := true } rest
      else if c = 'l' || c = 'i' then readLetters on call rest
      else
        let known := "aefnuvxbCmIEV".toList.contains c ||
          ((← isExtended) && "hkprtBDHOPT".toList.contains c)
        unless known do refuseOption [if on then '-' else '+', c] c
        Utility.turn (Utility.keptLetter (← isExtended) c) on
        readLetters on call rest

def readOptions : (fuel : Nat) → ShellCall → Act ShellCall
  | 0, call => return call
  | fuel + 1, call => do
      match call.operands with
      | ['-'] :: rest => return { call with operands := rest }
      | ['-', '-'] :: rest => return { call with operands := rest }
      | ('-' :: '-' :: word) :: rest =>
          if (← isExtended) && longOptions.contains (String.ofList word) then
            readOptions fuel { call with operands := rest }
          else refuseOption ('-' :: '-' :: word) '-'
      | [sign, 'O'] :: name :: rest =>
          unless ← isExtended do refuseOption [sign, 'O'] 'O'
          if (Ambient.choices.lookup (String.ofList name)).isNone then
            report ((← process).name ++ ": ".toList ++ name ++
              ": invalid shell option name\n".toList)
            setStatus 2
            throw .fail
          Utility.choose (String.ofList name) (sign = '-')
          readOptions fuel { call with operands := rest }
      | [sign, 'o'] :: name :: rest =>
          if sign = '-' || sign = '+' then
            Utility.turnNamed (sign = '-') name
            readOptions fuel { call with operands := rest }
          else return call
      | ('-' :: letters) :: rest =>
          let names := letters.filter (· = 'o')
          let call ← readLetters true { call with operands := rest } (letters.filter (· ≠ 'o'))
          match names, call.operands with
          | _ :: _, name :: rest =>
              Utility.turnNamed true name
              readOptions fuel { call with operands := rest }
          | _, _ => readOptions fuel call
      | ('+' :: letters) :: rest =>
          readOptions fuel (← readLetters false { call with operands := rest } letters)
      | _ => return call

def refuseScript {α : Type} (path : Octets) (error : Files.OsError) : Act α := do
  if ← isExtended then
    let status := if error = .notFound || error = .notDirectory then 127 else 126
    report ((← process).name ++ ": ".toList ++ path ++ (": " ++ error.wording ++ "\n").toList)
    setStatus status
    throw .fail
  let isMissing := error = .notFound || error = .notDirectory
  let cause := if isMissing then "No such file" else error.wording
  failWith ("cannot open ".toList ++ path ++ (": " ++ cause).toList) 2

def scriptText (path : Octets) : Act Octets := do
  let extended ← isExtended
  match ← readPath path with
  | .ok content => return Octets.ofBytes content
  | .error .isDirectory =>
      if extended then
        report (path ++ ": ".toList ++ path ++ ": Is a directory\n".toList)
        setStatus 126
        throw .fail
      return []
  | .error error => refuseScript path error

def beginExtended : Act Unit := do
  modifyProcess fun process =>
    { process with
      settings := Ambient.startingSettings
      choices := (Ambient.choices.filter (·.2)).map (·.1) }
  extendedVariables.forM fun (name, value) => do
    if (← variableOf? name.toList).isNone || name ≠ "TERM" then
      putVariable name.toList (some (.ofText value.toList false))
  ["PS1", "PS2"].forM fun name => putVariable name.toList none
  let depth := ((← textOf? "SHLVL".toList).bind Octets.number?).getD 0 + 1
  putVariable "SHLVL".toList (some (.ofText (Octets.ofNat depth) true))
  if let some parent ← variableOf? "PPID".toList then
    putVariable "PPID".toList (some { parent with isFixed := true, isNumber := true })
  if (← variableOf? "OLDPWD".toList).isNone then
    putVariable "OLDPWD".toList (some { Variable.blank with exported := true })

/--
The path of the working directory as the environment has it, if it leads there;
the shell with extensions takes detours out of it.
-/
def startingPath : Act Octets := do
  let tree ← tree
  let physical := pathTo tree.workingDirectory
  match ← textOf? "PWD".toList with
  | none => return physical
  | some path =>
      let leadsHere := match tree.find (pathOf path) with
        | .ok (location, _) => location = tree.workingDirectory
        | .error _ => false
      if path.head? ≠ some '/' || !leadsHere then return physical
      if ← isExtended then return (Route.checked? tree [] path).getD physical
      return path

def runShell (runner : Runner) (arguments : List Octets) : Act Unit := do
  let parent := (← process).ancestors.headD 0
  modifyProcess fun process => { process with scriptId := process.id }
  let path ← startingPath
  modifyProcess fun process => { process with directoryPath := path }
  (startingVariables parent path).forM fun (name, value) =>
    putVariable name.toList (some (.ofText value (name = "PWD")))
  if ← isExtended then beginExtended
  let call ← readOptions (arguments.length + 1) ⟨false, false, arguments⟩
  let named (name : Octets) (positional : List Octets) : Act Unit :=
    modifyProcess fun process => { process with name, file := name, positional }
  let text ← match call.takesText, call.readsInput, call.operands with
    | true, _, [] => do
        if ← isExtended then
          report ((← process).name ++ ": -c: option requires an argument\n".toList)
          setStatus 2
          throw .fail
        failWith "-c requires an argument".toList 2
    | true, _, text :: rest => do
        if let name :: positional := rest then named name positional
        pure text
    | false, false, path :: positional => do
        let text ← scriptText path
        named path positional
        pure text
    | false, _, positional => do
        modifyProcess fun process => { process with positional }
        match ← readAll 0 with
        | .ok text => pure text
        | .error _ => pure []
  runText runner (text.filter (· ≠ '\x00'))

/-! ## Programs -/

def dialectOf (program : String) : Dialect := if program = "bash" then .extended else .standard

/-- A way to go on as the program at a path, called with a name and arguments. -/
abbrev Become := (path name : Octets) → (arguments : List Octets) → Act (Option Files.OsError)

def becomeFirst (become : Become) (name : Octets) (arguments : List Octets)
    (failure : Files.OsError) : List Octets → Act (Option Files.OsError)
  | [] => return some failure
  | path :: rest => do
      match ← become path name arguments with
      | none => return none
      | some error =>
          let isMissing := error = .notFound || error = .notDirectory
          becomeFirst become name arguments (if isMissing then failure else error) rest

/-- Runs a program, found by the first of some words, in a process of its own. -/
def launch (become : Become) (words : List Octets) : Act (Except Files.OsError Ending) := do
  match words with
  | [] => return .ok (.exited 0)
  | name :: arguments =>
      let outer ← process
      let standing ← standing
      let candidates ← Utility.candidates name
      beginProcess
      let result ← attempt (
        if name.contains '/' then become name name arguments
        else becomeFirst become name arguments .notFound candidates)
      let status := (← status) % 256
      backTo outer standing
      match result with
      | .ok (some error) => return .error error
      | .error .overdue => throw .overdue
      | .error (.killed signal) => return .ok (.killed signal)
      | _ => return .ok (.exited status)

/--
The process goes on as the program at a path, called with a name and arguments.
It does not if the program cannot be started; then the reason is told. At most
`fuel` programs are started one by another.
-/
def execute (runner : Runner) : (fuel : Nat) → Become
  | 0, _, _, _ => return some .tooManyLinks
  | fuel + 1, path, name, arguments => do
      match Executable.at? (← tree) path with
      | .error error => return some error
      | .ok (.script interpreter argument) =>
          execute runner fuel interpreter interpreter (argument.toList ++ path :: arguments)
      | .ok (.machineCode program) =>
          modifyProcess fun process => process.renewed name
          if Installation.shells.contains program then
            modifyProcess fun process => { process with dialect := dialectOf program }
            match ← toEnd runner (runShell runner arguments) with
            | .killed signal => throw (.killed signal)
            | .exited status => setStatus status
          else
            let run := Utility.program (launch (execute runner fuel)) program
            match ← attempt (run name arguments) with
            | .ok status => setStatus status
            | .error (.killed signal) => throw (.killed signal)
            | .error .overdue => throw .overdue
            | .error _ => pure ()
          return none

/-- How many programs may be started one by another without a shell in between. -/
def executionDepth : Nat := 20

/-- Goes on as the program at a path. -/
def becoming (runner : Runner) : Become := execute runner executionDepth

end BlockExtension.Shell
