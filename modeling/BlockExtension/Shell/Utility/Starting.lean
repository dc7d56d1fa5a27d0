import BlockExtension.Shell.Jobs
import BlockExtension.Shell.Utility.Names
import BlockExtension.Shell.Utility.Wording

/-!
# Programs that start programs

The program that sets up an environment for another one, the one that makes
commands of what it reads, and those that say what is in the environment and
where programs are.
-/

namespace BlockExtension.Shell.Utility

open Act

/-- A way to run a program, found by the first of some words, on the others. -/
abbrev Launch := List Octets → Act (Except Files.OsError Ending)

/-- Does something while a descriptor leads to a channel. -/
def redirected {α : Type} (descriptor place : Nat) (act : Act α) : Act α := do
  let before := (← process).descriptors
  connect descriptor (some place)
  protect (fun process => { process with descriptors := before }) act

def collected (launch : Launch) (words : List Octets) :
    Act (Octets × Except Files.OsError Ending) := do
  let place ← newChannel .fresh
  let ending ← redirected 1 place (launch words)
  let machine ← get
  let content := ((machine.channels[place]?).map (Channel.pending machine.tree)).getD .empty
  return (Octets.ofBytes content, ending)

def isMissing (error : Files.OsError) : Bool := error = .notFound || error = .notDirectory

/-! ## Environment -/

namespace Environment

/-- The variables of the environment with their values. -/
def assignments : Act (List (Octets × Octets)) := do
  return (← process).bindings.filterMap fun (name, entry) =>
    match entry.exported, entry.value with
    | true, some (.single text) => some (name, text)
    | _, _ => none

def assign (name value : Octets) : Act Unit :=
  putVariable name (some (.ofText value true))

def display (lineEnd : Octets) : Act Unit := do
  put ((← assignments).flatMap fun (name, value) => name ++ '=' :: value ++ lineEnd)

/-- Writes the values of variables. -/
def printenv : Program := fun self arguments =>
  withOptions self [switch "null" '0'] false 2 arguments fun given => do
    let lineEnd := if given.has "null" then ['\x00'] else ['\n']
    if given.operands.isEmpty then
      display lineEnd
      return 0
    let known ← assignments
    let values := given.operands.map fun name => known.lookup name
    put ((values.filterMap id).flatMap (· ++ lineEnd))
    return if values.contains none then 1 else 0

/-! ## Arguments in one text -/

/-- How a text is split into arguments: what is read, and in which quotation marks. -/
structure Splitting where
  found : List Octets
  current : Option Octets
  quotation : Option Char

namespace Splitting

/-- Puts a text at the end of the current argument. -/
def add (splitting : Splitting) (text : Octets) : Splitting :=
  { splitting with current := some (splitting.current.getD [] ++ text) }

/-- Ends the current argument. -/
def close (splitting : Splitting) : Splitting :=
  { splitting with
    found := splitting.found ++ splitting.current.toList
    current := none }

end Splitting

/-- The character that a letter behind a backslash stands for. -/
def escape? : Char → Option Char
  | 'f' => some '\x0c'
  | 'n' => some '\n'
  | 'r' => some '\r'
  | 't' => some '\t'
  | 'v' => some '\x0b'
  | c => if ['"', '\'', '\\', '#', '$', ' '].contains c then some c else none

/-- The arguments that a text holds; quotation marks and backslashes are as in a shell. -/
def split (known : List (Octets × Octets)) :
    (fuel : Nat) → Octets → Splitting → Except String (List Octets)
  | 0, _, splitting => .ok splitting.close.found
  | _, [], splitting =>
      if splitting.quotation.isSome then .error "no terminating quote in -S string"
      else .ok splitting.close.found
  | fuel + 1, c :: rest, splitting =>
      let go (rest : Octets) (splitting : Splitting) : Except String (List Octets) :=
        split known fuel rest splitting
      match splitting.quotation, c, rest with
      | some '\'', '\\', '\\' :: rest => go rest (splitting.add ['\\'])
      | some '\'', '\\', '\'' :: rest => go rest (splitting.add ['\''])
      | some '\'', '\'', rest => go rest { splitting with quotation := none }
      | some '\'', c, rest => go rest (splitting.add [c])
      | some _, '"', rest => go rest { splitting with quotation := none }
      | none, '"', rest => go rest { splitting.add [] with quotation := some '"' }
      | none, '\'', rest => go rest { splitting.add [] with quotation := some '\'' }
      | _, '\\', 'c' :: rest =>
          if splitting.quotation.isSome then
            .error "'\\c' must not appear in double-quoted -S string"
          else go [] { splitting with current := splitting.current.map (· ++ rest.take 0) }
      | some _, '\\', '_' :: rest => go rest (splitting.add [' '])
      | none, '\\', '_' :: rest => go rest splitting.close
      | _, '\\', letter :: rest =>
          match escape? letter with
          | some c => go rest (splitting.add [c])
          | none => .error s!"invalid sequence '\\{letter}' in -S"
      | _, '\\', [] => .error "invalid backslash at end of string in -S"
      | _, '$', rest =>
          match rest with
          | '\x7b' :: behind =>
              let name := behind.takeWhile (· ≠ '\x7d')
              if Octets.isName name && name.length < behind.length then
                let behind := behind.drop (name.length + 1)
                match known.lookup name with
                | some value => go behind (splitting.add value)
                | none => go behind splitting
              else refuseVariable (c :: rest)
          | rest => refuseVariable (c :: rest)
      | none, c, rest =>
          if Octets.isSpace c then go rest splitting.close
          else if c = '#' && splitting.current.isNone then .ok splitting.close.found
          else go rest (splitting.add [c])
      | some _, c, rest => go rest (splitting.add [c])
where
  /-- What is said of a variable that is not written in the only way that is known. -/
  refuseVariable (text : Octets) : Except String (List Octets) :=
    .error ("only $\x7bVARNAME\x7d expansion is supported, error at: " ++ String.ofList text)

def splitText? : List Octets → Option (Octets × List Octets)
  | ('-' :: 'S' :: text) :: rest =>
      match text, rest with
      | [], text :: rest => some (text, rest)
      | [], [] => none
      | text, rest => some (text, rest)
  | argument :: rest =>
      match Octets.behind? "--split-string=".toList argument with
      | some text => some (text, rest)
      | none =>
          match argument, rest with
          | '-' :: 'v' :: 'S' :: text, rest => if text.isEmpty then none else some (text, rest)
          | _, _ => none
  | [] => none

/-- The letters of options without a value. -/
def isSwitches (argument : Octets) : Bool :=
  match argument with
  | '-' :: letters => letters.all ['i', '0', 'v'].contains
  | _ => false

/-- Arguments in which each option that holds arguments is replaced by them. -/
def withSplits (known : List (Octets × Octets)) :
    (fuel : Nat) → List Octets → Except String (List Octets)
  | 0, arguments => .ok arguments
  | fuel + 1, arguments => do
      match splitText? arguments with
      | some (text, rest) =>
          let found ← split known (text.length + 1) text ⟨[], none, none⟩
          withSplits known fuel (found ++ rest)
      | none =>
          match arguments with
          | argument :: rest =>
              if isSwitches argument then return argument :: (← withSplits known fuel rest)
              return arguments
          | [] => return []

def leadingAssignments : List Octets → List (Octets × Octets) × List Octets
  | [] => ([], [])
  | word :: rest =>
      if word.contains '=' then
        let name := word.takeWhile (· ≠ '=')
        let (more, command) := leadingAssignments rest
        ((name, word.drop (name.length + 1)) :: more, command)
      else ([], word :: rest)

/-- The options. -/
def rules : List OptionRule :=
  [switch "ignore-environment" 'i', switch "null" '0', setting "unset" 'u', setting "chdir" 'C',
    switch "debug" 'v', setting "split-string" 'S']

/-- A hint for those who have put options where only the name of a program can be. -/
def hintAtSplitting (self : Octets) : Act Unit :=
  complainAs self "use -[v]S to pass options in shebang lines".toList

/-- Takes variables out of the environment; complains about a name that none can have. -/
def forget (self : Octets) : List Octets → Act Bool
  | [] => return true
  | name :: rest => do
      if name.isEmpty || name.contains '=' then
        complainAs self ("cannot unset ".toList ++ quoted name ++ ": Invalid argument".toList)
        return false
      putVariable name none
      forget self rest

def startWith (self : Octets) (launch : Launch) (command : List Octets) : Act Nat := do
  let name := command.headD []
  match ← launch command with
  | .ok (.exited status) => return status
  | .ok (.killed signal) => throw (.killed signal)
  | .error error =>
      complainAs self (quoted name ++ (": " ++ error.wording).toList)
      if isMissing error then
        if name.contains ' ' then hintAtSplitting self
        return 127
      return 126

/-- Starts a program in a changed environment. -/
def env (launch : Launch) : Program := fun self arguments => do
  let failure := 125
  match withSplits (← assignments) (arguments.length + 20) arguments with
  | .error text =>
      complainAs self text.toList
      return failure
  | .ok arguments =>
      let refuseUse (text : Octets) : Act Nat := do
        complainAs self text
        pointToHelp self
        return failure
      match takeApart rules false (arguments.length + 1) arguments with
      | .error text =>
          complainAs self text
          let isBlank := text.reverse.drop 1 |>.head?.any Octets.isSpace
          if isBlank then hintAtSplitting self
          pointToHelp self
          return failure
      | .ok given =>
          let hyphen := given.operands.head? = some ['-']
          let operands := if hyphen then given.operands.drop 1 else given.operands
          if given.has "ignore-environment" || hyphen then
            modifyProcess fun process => { process with bindings := [] }
          unless ← forget self (given.values "unset") do return failure
          let (new, command) := leadingAssignments operands
          new.forM fun (name, value) => assign name value
          if given.has "null" && !command.isEmpty then
            return ← refuseUse "cannot specify --null (-0) with command".toList
          if let some path := given.value? "chdir" then
            if command.isEmpty then
              return ← refuseUse "must specify command with --chdir (-C)".toList
            match (← tree).find (pathOf path) with
            | .ok (location, .directory mode) =>
                if (Files.Entry.directory mode).isExecutable then
                  modify fun machine =>
                    { machine with tree := { machine.tree with workingDirectory := location } }
                else
                  complainAs self ("cannot change directory to ".toList ++ quoted path ++
                    ": Permission denied".toList)
                  return failure
            | found =>
                let error := match found with
                  | .error error => error
                  | .ok _ => .notDirectory
                complainAs self ("cannot change directory to ".toList ++ quoted path ++
                  (": " ++ error.wording).toList)
                return failure
          if command.isEmpty then
            display (if given.has "null" then ['\x00'] else ['\n'])
            return 0
          startWith self launch command

end Environment

/-! ## Commands from an input -/

namespace Commands

abbrev Items := List (Octets × Bool)

def items : (fuel : Nat) → Octets → Option Octets → Except Octets Items
  | 0, _, _ => .ok []
  | _, [], current => .ok (current.toList.map (·, true))
  | fuel + 1, c :: rest, current =>
      let finished (ends : Bool) : Except Octets Items := do
        return current.toList.map (·, ends) ++ (← items fuel rest none)
      if c = '\n' then finished true
      else if c = ' ' || c = '\t' then finished false
      else if c = '\'' || c = '"' then
        let inside := rest.takeWhile (fun x => x ≠ c && x ≠ '\n')
        if (rest.drop inside.length).head? = some c then
          items fuel (rest.drop (inside.length + 1)) (some (current.getD [] ++ inside))
        else
          let kind := if c = '"' then "double" else "single"
          .error (s!"unmatched {kind} quote; by default quotes are special to xargs unless you " ++
            "use the -0 option").toList
      else
        match c, rest with
        | '\\', x :: rest => items fuel rest (some (current.getD [] ++ [x]))
        | c, rest => items fuel rest (some (current.getD [] ++ [c]))

/-- The lines of an input as items: without the blanks in front, and not the empty ones. -/
def lineItems (text : Octets) : Except Octets Items := do
  let lines := (Octets.lines text).map (·.dropWhile Octets.isBlank)
  let found ← (lines.filter (!·.isEmpty)).mapM fun line => do
    let guarded := line.flatMap fun c => if Octets.isBlank c then ['\\', c] else [c]
    items (guarded.length + 1) guarded none
  return found.flatten

def markedItems (mark : Char) (text : Octets) : Items :=
  let parts := Octets.cutAt mark text
  let parts := if parts.getLast? = some [] then parts.dropLast else parts
  parts.map (·, true)

/-- Items cut into groups of at most some number. -/
def chunks (size : Nat) : (fuel : Nat) → List Octets → List (List Octets)
  | 0, rest => if rest.isEmpty then [] else [rest]
  | fuel + 1, all =>
      if all.isEmpty then [] else all.take size :: chunks size fuel (all.drop size)

def perLine : Items → List Octets → List (List Octets)
  | [], current => if current.isEmpty then [] else [current]
  | (item, ends) :: rest, current =>
      if ends then (current ++ [item]) :: perLine rest [] else perLine rest (current ++ [item])

/-- A text with another one in place of each occurrence of a mark. -/
def filled (mark new : Octets) : (fuel : Nat) → Octets → Octets
  | 0, text => text
  | _, [] => []
  | fuel + 1, c :: rest =>
      if mark.isEmpty then c :: rest
      else
        match Octets.behind? mark (c :: rest) with
        | some behind => new ++ filled mark new fuel behind
        | none => c :: filled mark new fuel rest

/-- Runs commands one after the other, until one says that it was the last. -/
def runAll (self : Octets) (launch : Launch) (shows : Bool) :
    List (List Octets) → (status : Nat) → Act Nat
  | [], status => return status
  | command :: rest, status => do
      if shows then report (Octets.joined [' '] (command.map named) ++ ['\n'])
      let name := command.headD []
      match ← launch command with
      | .error error =>
          complainAs self (name ++ (": " ++ error.wording).toList)
          return if isMissing error then 127 else 126
      | .ok (.exited 255) =>
          complainAs self (name ++ ": exited with status 255; aborting".toList)
          return 124
      | .ok (.killed signal) =>
          complainAs self (name ++ (s!": terminated by signal {signal}").toList)
          return 125
      | .ok (.exited result) => runAll self launch shows rest (if result = 0 then status else 123)

/-- The options. -/
def rules : List OptionRule :=
  [switch "null" '0', setting "arg-file" 'a', setting "delimiter" 'd', setting "-E" 'E',
    setting "-I" 'I', ⟨"replace", some 'i', .perhaps⟩, setting "-L" 'L',
    ⟨"max-lines", some 'l', .perhaps⟩, setting "max-args" 'n', setting "max-procs" 'P',
    switch "no-run-if-empty" 'r', setting "max-chars" 's', switch "verbose" 't',
    switch "interactive" 'p', switch "exit" 'x', switch "open-tty" 'o']

def atLeastOne (self : Octets) (given : Invocation) (word : String) (letter : Char) :
    Act (Option (Option Nat)) := do
  match given.value? word with
  | none => return some none
  | some text =>
      match Octets.number? text with
      | some 0 =>
          complainAs self (s!"value 0 for -{letter} option should be >= 1").toList
          pointToHelp self
          return none
      | some n => return some (some n)
      | none =>
          complainAs self ("invalid number \"".toList ++ text ++
            (s!"\" for -{letter} option").toList)
          pointToHelp self
          return none

/-- How items are put into commands; of three ways the one that is asked for last counts. -/
structure Grouping where
  /-- What stands for an item in the command. -/
  mark : Option Octets
  lines : Option Nat
  /-- How many items are for one command. -/
  most : Option Nat
  /-- What is said of ways that do not count. -/
  warnings : List String

namespace Grouping

def unasked : Grouping := ⟨none, none, none, []⟩

/-- Says that a way no longer counts if it has been asked for. -/
def against (grouping : Grouping) (isAsked : Bool) (former latter : String) : Grouping :=
  if isAsked then
    { grouping with
      warnings := grouping.warnings ++
        [s!"warning: options {former} and {latter} are mutually exclusive, ignoring " ++
          s!"previous {former} value"] }
  else grouping

/-- The way that is meant once an option has been given. -/
def refined (grouping : Grouping) (option : GivenOption) : Grouping :=
  let number := option.value.bind Octets.number?
  let marked (mark : Octets) : Grouping :=
    let latter := "--replace/-I/-i"
    { (grouping.against grouping.most.isSome "--max-args" latter).against
        grouping.lines.isSome "--max-lines" latter with
      mark := some mark, lines := none, most := none }
  let lined (latter : String) : Grouping :=
    { (grouping.against grouping.most.isSome "--max-args" latter).against
        grouping.mark.isSome "--replace" latter with
      mark := none, lines := some (number.getD 1), most := none }
  match option.word with
  | "-I" => marked (option.value.getD [])
  | "replace" => marked (option.value.getD "\x7b\x7d".toList)
  | "-L" => lined "-L"
  | "max-lines" => lined "--max-lines/-l"
  | "max-args" =>
      if grouping.mark.isSome && number = some 1 then grouping
      else
        let latter := "--max-args/-n"
        { (grouping.against grouping.lines.isSome "--max-lines" latter).against
            grouping.mark.isSome "--replace" latter with
          mark := none, lines := none, most := number }
  | _ => grouping

end Grouping

/-- Runs a command on what is read. -/
def xargs (launch : Launch) : Program := fun self arguments =>
  withOptions self rules false 1 arguments fun given => do
    let some _ ← atLeastOne self given "max-args" 'n' | return 1
    let some _ ← atLeastOne self given "-L" 'L' | return 1
    let grouping := given.options.foldl Grouping.refined Grouping.unasked
    grouping.warnings.forM fun text => complainAs self text.toList
    let text ← match given.value? "arg-file" with
      | some path => do
          match ← inputOf path with
          | .content text => pure (some text)
          | .unopened error => do
              complainAs self ("Cannot open input file ".toList ++ quoted path ++
                (": " ++ error.wording).toList)
              pure none
          | .unread _ => pure (some [])
      | none => do
          match ← readAll 0 with
          | .ok text => pure (some text)
          | .error _ => pure (some [])
    let some text := text | return 1
    let delimiter := if given.has "null" then some '\x00'
      else (given.value? "delimiter").map fun text =>
        match text with
        | '\\' :: 'n' :: _ => '\n'
        | '\\' :: 't' :: _ => '\t'
        | '\\' :: '0' :: _ => '\x00'
        | text => text.headD '\n'
    let read : Except Octets Items := match delimiter, grouping.mark with
      | some delimiter, _ => .ok (markedItems delimiter text)
      | none, some _ => lineItems text
      | none, none => items (text.length + 1) text none
    let command := if given.operands.isEmpty then ["echo".toList] else given.operands
    let shows := given.has "verbose"
    match read with
    | .error problem =>
        complainAs self problem
        return 1
    | .ok found =>
        let words := found.map (·.1)
        let commands := match grouping.mark, grouping.lines, grouping.most with
          | some mark, _, _ => words.map fun word => command.map fun part =>
              filled mark word (part.length + 1) part
          | none, some _, _ => (perLine found []).map (command ++ ·)
          | none, none, some most => (chunks most words.length words).map (command ++ ·)
          | none, none, none => [command ++ words]
        let isEmpty := words.isEmpty && (given.has "no-run-if-empty" || grouping.mark.isSome)
        let commands := if isEmpty then []
          else if commands.isEmpty then [command] else commands
        runAll self launch shows commands 0

end Commands

/-! ## Where programs are -/

/-- Writes where programs are. -/
def which : Program := fun self arguments => do
  let options := arguments.takeWhile (·.head? = some '-')
  let names := arguments.drop options.length
  let letters := options.flatMap (·.drop 1)
  if let some letter := letters.find? fun c => c ≠ 'a' && c ≠ 's' then
    report ("Illegal option -".toList ++ [letter, '\n'])
    let self := (← programPath? self).getD self
    put ("Usage: ".toList ++ self ++ " [-as] args\n".toList)
    return 2
  let found ← names.mapM fun name => do
    if letters.contains 'a' && !name.contains '/' then
      let tree ← tree
      return (← candidates name).filter fun path =>
        match tree.find (Octets.toText path) with
        | .ok (_, .file content mode) => (Files.Entry.file content mode).isExecutable
        | _ => false
    else return (← programPath? name).toList
  unless letters.contains 's' do put (Octets.unlines found.flatten)
  return if found.any (·.isEmpty) || names.isEmpty then 1 else 0

end BlockExtension.Shell.Utility
