import BlockExtension.Shell.Arithmetic
import BlockExtension.Shell.Signals
import BlockExtension.Shell.Jobs
import BlockExtension.Shell.Utility.Directories
import BlockExtension.Shell.Utility.Declaring
import BlockExtension.Shell.Utility.Permission
import BlockExtension.Shell.Utility.Print
import BlockExtension.Shell.Utility.Reading
import BlockExtension.Shell.Utility.Test
import BlockExtension.Shell.Utility.Waiting
import BlockExtension.Shell.Utility.Names

/-!
# Utilities for the run itself

The utilities that are part of the shell because they change the process that
runs the script: where it is in the file system, what modes its files get, where
the script goes on, and what becomes of signals. The ones that run further
commands are not here.
-/

namespace BlockExtension.Shell.Utility

open Act

/-! ## Permission bits -/

def octal? (text : Octets) : Option Nat :=
  if text.isEmpty then none
  else text.foldlM (fun total c => (Reader.digit? 8 c).map (total * 8 + ·)) 0

def permissionLetters (bits : Nat) : Octets :=
  (if bits &&& 4 ≠ 0 then ['r'] else []) ++ (if bits &&& 2 ≠ 0 then ['w'] else []) ++
    (if bits &&& 1 ≠ 0 then ['x'] else [])

/-- Shows or sets the permission bits that new files do not get. -/
def setMask (arguments : List Octets) : Act Nat := do
  let mask := (← process).mask
  match arguments with
  | [] =>
      putLines ['0' :: Octets.ofNat (mask / 64) ++ Octets.ofNat (mask / 8 % 8) ++
        Octets.ofNat (mask % 8)]
      return 0
  | ['-', 'S'] :: _ =>
      let kept := 0o777 ^^^ mask
      putLines ["u=".toList ++ permissionLetters (kept / 64) ++ ",g=".toList ++
        permissionLetters (kept / 8 % 8) ++ ",o=".toList ++ permissionLetters (kept % 8)]
      return 0
  | text :: _ =>
      match octal? text with
      | some mask =>
          modifyProcess fun process => { process with mask := mask &&& 0o777 }
          return 0
      | none =>
          if (← isExtended) && text.head?.any Char.isDigit then
            failWith (text ++ ": octal number out of range".toList) 1
          if text.head?.any Char.isDigit then failWith ("Illegal number: ".toList ++ text) 2
          match Permission.Mode.ofText? text with
          | none => failWith ("Illegal mode: ".toList ++ text) 2
          | some mode =>
              let kept := mode.changed false 0 (0o777 ^^^ mask)
              modifyProcess fun process => { process with mask := (0o777 ^^^ kept) &&& 0o777 }
              return 0

/-! ## Where the script goes on -/

def loopCount (arguments : List Octets) : Act Nat := do
  let count ← match arguments with
    | [] => pure 1
    | text :: _ => do
        let n ← requiredNumber text
        if n = 0 then failWith ("Illegal number: ".toList ++ text) 2
        pure n
  let loops := (← process).loops
  if loops = 0 && (← isExtended) then
    complain "only meaningful in a \x60for', \x60while', or \x60until' loop".toList
  return min count loops

def leave (arguments : List Octets) : Act Nat := do
  let count ← loopCount arguments
  setStatus 0
  if 0 < count then throw (.leave count)
  return 0

/-- Goes on with the next round of a loop. -/
def resume (arguments : List Octets) : Act Nat := do
  let count ← loopCount arguments
  setStatus 0
  if 0 < count then throw (.resume count)
  return 0

def statusFrom (arguments : List Octets) : Act Nat := do
  match arguments with
  | [] => status
  | text :: _ =>
      match text with
      | '-' :: digits =>
          if ← isExtended then
            let n ← requiredNumber digits
            return (256 - n % 256) % 256
          requiredNumber text
      | text => requiredNumber text

/-- Ends the script. -/
def quit (arguments : List Octets) : Act Nat := do
  if 1 < arguments.length && (← isExtended) then
    complain "too many arguments".toList
    setStatus 1
    throw .quit
  setStatus (← statusFrom arguments)
  throw .quit

/-- Leaves a function, or a file with commands. -/
def back (arguments : List Octets) : Act Nat := do
  let status ← statusFrom arguments
  if ← isExtended then
    if (← process).bodies = 0 then
      complain "can only \x60return' from a function or sourced script".toList
      return 2
    setStatus (status % 256)
  else setStatus status
  throw .back

/-! ## Signals -/

def events : List String := ["DEBUG", "ERR", "RETURN"]

/-- The signal or the event that a word names. -/
def trapped? (extended : Bool) (word : Octets) : Option String :=
  match if extended then signal? word else bareSignal? word with
  | some (_, name) => some name
  | none =>
      let name := (String.ofList word).toUpper
      if extended && events.contains name then some name else none

/-- Where a signal or an event stands among all of them. -/
def trapPlace (name : String) : Nat :=
  ((signals.find? (·.2 = name)).map (·.1)).getD
    (signals.length + (events.idxOf? name).getD events.length)

def showTraps (names : Option (List String)) : Act Unit := do
  let extended ← isExtended
  let traps := (← process).traps.filter fun (name, _) => names.all (·.contains name)
  let traps := if extended then traps.mergeSort fun a b => trapPlace a.1 ≤ trapPlace b.1 else traps
  putLines (traps.map fun (name, action) =>
    let isSignal := extended && name ≠ "EXIT" && !events.contains name
    let action := if extended then Quotation.single action else singleQuoted action
    "trap -- ".toList ++ action ++ ' ' :: ((if isSignal then "SIG" else "") ++ name).toList)

/-- Sets or clears what is done for signals; `action` is none to clear it. -/
def setTraps (action : Option Octets) (names : List Octets) : Act Nat := do
  let extended ← isExtended
  let known ← names.mapM fun name => do
    match trapped? extended name with
    | none =>
        if extended then complain (name ++ ": invalid signal specification".toList)
        else report ("trap: ".toList ++ name ++ ": bad trap\n".toList)
        return false
    | some signal =>
        modifyProcess fun process =>
          { process with
            traps := match action with
              | some action => Association.put process.traps signal action
              | none => Association.erase process.traps signal }
        return true
  return if known.all id then 0 else 1

/-- Sets, clears or shows what is done for signals. -/
def trap (arguments : List Octets) : Act Nat := do
  let extended ← isExtended
  let arguments := if arguments.head? = some ['-', '-'] then arguments.drop 1 else arguments
  match arguments with
  | [] =>
      showTraps none
      return 0
  | ['-', 'p'] :: names =>
      if !extended then failWith "Illegal option -p".toList 2
      showTraps (if names.isEmpty then none else some (names.filterMap (trapped? true)))
      return 0
  | first :: rest =>
      if let '-' :: letter :: _ := first then
        unless extended do failWith ("Illegal option -".toList ++ [letter]) 2
      if rest.isEmpty then
        if extended && (trapped? true first).isNone then
          report "trap: usage: trap [-lp] [[arg] signal_spec ...]\n".toList
          return 2
        return ← setTraps none [first]
      if first = ['-'] then return ← setTraps none rest
      if (Octets.number? first).isSome then return ← setTraps none arguments
      setTraps (some first) rest

/-! ## Names -/

/-- Says what names stand for. -/
def describeAll : List Octets → Act Nat
  | [] => return 0
  | name :: rest => do
      let found ← description? name
      if ← isExtended then Whereabouts.count name else Whereabouts.note name
      match found with
      | some text => putLines [text]
      | none =>
          if ← isExtended then complain (name ++ ": not found".toList)
          else putLines [name ++ ": not found".toList]
      let status ← describeAll rest
      let extended ← isExtended
      return if found.isSome then status else if extended then 1 else 127

def kind? (name : Octets) : Act (Option String) := do
  let text := String.ofList name
  if (Reader.keywords true).contains text then return some "keyword"
  if ((← process).functions.lookup name).isSome then return some "function"
  if isOwn true text then return some "builtin"
  return (← programPath? name).map fun _ => "file"

/-- All that a name stands for, in words. -/
def descriptions (name : Octets) : Act (List Octets) := do
  let text := String.ofList name
  let said (what : String) : Octets := name ++ (" is " ++ what).toList
  let isFunction := ((← process).functions.lookup name).isSome
  let own := (if (Reader.keywords true).contains text then [said "a shell keyword"] else []) ++
    (if isFunction then [said "a function"] else []) ++
    (if isOwn true text then [said "a shell builtin"] else [])
  return own ++ (← programPaths name).map fun path => name ++ " is ".toList ++ path

/-- Says what names stand for, as options ask for. -/
def describe (arguments : List Octets) : Act Nat := do
  unless ← isExtended do return ← describeAll arguments
  let options := arguments.takeWhile fun word => word.head? = some '-' && word ≠ ['-', '-']
  let names := arguments.drop options.length
  let names := if names.head? = some ['-', '-'] then names.drop 1 else names
  let letters := options.flatMap (·.drop 1)
  let has (letter : Char) : Bool := letters.contains letter
  if let some c := letters.find? fun c => !"afptP".toList.contains c then
    complain (['-', c] ++ ": invalid option".toList)
    report "type: usage: type [-afptP] name [name ...]\n".toList
    return 2
  if letters.isEmpty then return ← describeAll names
  let found ← names.mapM fun name => do
    let paths ← programPaths name
    let paths := if has 'a' then paths else paths.take 1
    let paths ← if has 'a' then pure paths else pure (← programPath? name).toList
    if has 'P' then
      putLines paths
      return !paths.isEmpty
    match has 't' || has 'p', ← kind? name with
    | true, none => return false
    | true, some kind =>
        if has 't' then putLines [kind.toList]
        else if kind = "file" || has 'a' then putLines paths
        return true
    | false, kind =>
        let lines ← descriptions name
        if lines.isEmpty then complain (name ++ ": not found".toList)
        putLines (if has 'a' then lines else lines.take 1)
        return kind.isSome
  return if found.all id then 0 else 1

/-- Writes how a name is to be written so that it stands for the same. -/
def resolve (names : List Octets) : Act Nat := do
  let extended ← isExtended
  let found ← (if extended then names else names.take 1).mapM fun name => do
    let found ← resolution? name
    if extended then Whereabouts.count name
    return found
  putLines (found.filterMap fun found => found)
  return if found.contains none then (if extended then 1 else 127) else 0

/-! ## The rest -/

def printFormatted (arguments : List Octets) : Act Nat := do
  let extended ← isExtended
  let now := (← Ambient.now) / 1000000000
  let voice := if extended then Print.extendedVoice now else Print.shellVoice
  let (goal, arguments) := match arguments with
    | ['-', 'v'] :: name :: rest => if extended then (some name, rest) else (none, arguments)
    | ('-' :: 'v' :: c :: name) :: rest =>
        if extended then (some (c :: name), rest) else (none, arguments)
    | arguments => (none, arguments)
  let arguments ← match arguments with
    | ['-', '-'] :: rest => pure rest
    | ('-' :: c :: rest) :: more => do
        if extended then failWith (['-', c] ++ ": invalid option".toList) 2
        if goal.isNone then failWith ("Illegal option -".toList ++ [c]) 2
        pure (('-' :: c :: rest) :: more)
    | arguments => pure arguments
  if let some name := goal then
    unless Octets.isName (elementOf name).1 do
      complain ("\x60".toList ++ name ++ "': not a valid identifier".toList)
      return 2
  match arguments with
  | [] =>
      if extended then
        report "printf: usage: printf [-v var] format [arguments]\n".toList
        return 2
      failWith "usage: printf format [arg ...]".toList 2
  | format :: rest =>
      let (result, meaningless) := Print.format voice format rest
      result.complaints.forM complain
      match goal with
      | some name => Assigning.giveWord name result.written
      | none => put result.written
      return if meaningless then (if extended then 1 else 2) else if result.failed then 1 else 0

def echo (arguments : List Octets) : Act Nat := do
  put (if ← isExtended then Print.plainEcho .extended arguments else Print.echo arguments)
  return 0

/-- Says of a name that it stands for no other text. -/
def missAlias (utility : String) (name : Octets) : Act Unit := do
  if ← isExtended then complain (name ++ ": not found".toList)
  else report (utility.toList ++ ": ".toList ++ name ++ " not found\n".toList)

/-- Shows how much there may be of something, of which there is no end, or sets it. -/
def limits (arguments : List Octets) : Act Nat := do
  let extended ← isExtended
  let options := arguments.takeWhile fun word => word.head? = some '-'
  let known := if extended then "SHabcdefiklmnpqrstuvxPRT" else "HSatfdscmlpnvwr"
  if let some letter := (options.flatMap (·.drop 1)).find? (!known.toList.contains ·) then
    if extended then
      complain (['-', letter] ++ ": invalid option".toList)
      report "ulimit: usage: ulimit [-SHabcdefiklmnpqrstuvxPRT] [limit]\n".toList
      return 2
    failWith ("Illegal option -".toList ++ [letter]) 2
  if arguments.length = options.length then putLines ["unlimited".toList]
  return 0

/-- Lets names stand for other texts, or says for which ones they stand. -/
def aliases (arguments : List Octets) : Act Nat := do
  let start := if ← isExtended then "alias ".toList else []
  let line (entry : Octets × Octets) : Octets :=
    start ++ entry.1 ++ '=' :: singleQuoted entry.2
  if arguments.isEmpty then
    putLines (((← process).aliases.mergeSort fun a b => Octets.le a.1 b.1).map line)
    return 0
  let statuses ← arguments.mapM fun argument => do
    let name := argument.takeWhile (· ≠ '=')
    if name.length < argument.length && !name.isEmpty then
      modifyProcess fun process =>
        { process with
          aliases := Association.put process.aliases name (argument.drop (name.length + 1)) }
      return 0
    match (← process).aliases.lookup argument with
    | some text =>
        putLines [line (argument, text)]
        return 0
    | none =>
        missAlias "alias" argument
        return 1
  return statuses.foldl max 0

/-- Lets names stand for no other texts any more. -/
def dropAliases (arguments : List Octets) : Act Nat := do
  if arguments.head? = some ['-', 'a'] then
    modifyProcess fun process => { process with aliases := [] }
    return 0
  let statuses ← arguments.mapM fun name => do
    if ((← process).aliases.lookup name).isNone then
      missAlias "unalias" name
      return 1
    modifyProcess fun process => { process with aliases := Association.erase process.aliases name }
    return 0
  return statuses.foldl max 0

def showCaller (arguments : List Octets) : Act Nat := do
  let process ← process
  let callers := process.callers
  match arguments with
  | [] =>
      match callers with
      | [] => putLines ["0 NULL".toList]
      | caller :: _ => putLines [Octets.ofNat caller.line ++ ' ' :: caller.file]
      return 0
  | word :: _ =>
      let some n := Octets.number? word | failWith (word ++ ": invalid number".toList) 2
      match callers[n]? with
      | none => return 1
      | some caller =>
          let around := (callers[n + 1]?.map (·.name)).getD "main".toList
          putLines [Octets.joined [' '] [Octets.ofNat caller.line, around, caller.file]]
          return 0

/-- Turns utilities of the shell on or off, which changes nothing. -/
def enable (arguments : List Octets) : Act Nat := do
  let names := arguments.filter (·.head? ≠ some '-')
  let unknown := names.filter fun name => !isOwn true (String.ofList name)
  unknown.forM fun name => complain (name ++ ": not a shell builtin".toList)
  return if unknown.isEmpty then 0 else 1

/-- Says of a name that it is no utility of the shell. -/
def refuseOwn (arguments : List Octets) : Act Nat := do
  match arguments with
  | [] => return 0
  | name :: _ => failWith (name ++ ": not a shell builtin".toList) 1

/-- Evaluates expressions; a last one that is zero counts as a failure. -/
def evaluateAll (arguments : List Octets) : Act Nat := do
  if arguments.isEmpty then failWith "expression expected".toList 1
  let values ← arguments.mapM Arithmetic.value
  return if values.getLast? = some 0 then 1 else 0

def declaring (name : String) (lists : Lists) (arguments : List Octets) : Act Nat := do
  if ← isExtended then return ← declareFully name lists arguments
  match name with
  | "export" =>
      declarePlainly name (fun entry => { entry with exported := true }) (·.exported) arguments
  | "readonly" =>
      declarePlainly name (fun entry => { entry with isFixed := true }) (·.isFixed) arguments
  | _ => makeLocal arguments

def ownUtility? (name : String) (runner : Runner) (lists : Lists) :
    Option (List Octets → Act Nat) :=
  match name with
  | ":" => some fun _ => return 0
  | "true" => some fun _ => return 0
  | "false" => some fun _ => return 1
  | "cd" => some changeDirectory
  | "chdir" => some changeDirectory
  | "pwd" => some writeDirectory
  | "echo" => some echo
  | "printf" => some printFormatted
  | "test" => some (Test.run name.toList)
  | "[" => some (Test.run name.toList)
  | "umask" => some setMask
  | "break" => some leave
  | "continue" => some resume
  | "exit" => some quit
  | "return" => some back
  | "set" => some setParameters
  | "shift" => some shift
  | "unset" => some unset
  | "export" => some (declaring name lists)
  | "readonly" => some (declaring name lists)
  | "local" => some (declaring name lists)
  | "read" => some read
  | "getopts" => some getOption
  | "kill" => some (Waiting.kill runner)
  | "trap" => some trap
  | "type" => some describe
  | "hash" => some Whereabouts.hash
  | "wait" => some (Waiting.wait runner)
  | "jobs" => some (Waiting.jobs runner)
  | "alias" => some aliases
  | "unalias" => some dropAliases
  | "times" => some fun _ => do
      putLines ["0m0.000000s 0m0.000000s".toList, "0m0.000000s 0m0.000000s".toList]
      return 0
  | "ulimit" => some limits
  | "fg" => some Waiting.refuseJob
  | "bg" => some Waiting.refuseJob
  | _ => none

def extendedUtility? (name : String) (lists : Lists) : Option (List Octets → Act Nat) :=
  match name with
  | "declare" => some (declaring name lists)
  | "typeset" => some (declaring name lists)
  | "mapfile" => some readLines
  | "readarray" => some readLines
  | "let" => some evaluateAll
  | "shopt" => some chooseAll
  | "enable" => some enable
  | "builtin" => some refuseOwn
  | "pushd" => some pushDirectory
  | "popd" => some popDirectory
  | "dirs" => some showDirectories
  | "caller" => some showCaller
  | "history" => some fun _ => return 0
  | "disown" => some fun _ => return 0
  | "complete" => some fun _ => return 0
  | "compgen" => some fun _ => return 1
  | "logout" => some fun _ =>
      failWith "not login shell: use \x60exit'".toList 1
  | _ => none

end BlockExtension.Shell.Utility
