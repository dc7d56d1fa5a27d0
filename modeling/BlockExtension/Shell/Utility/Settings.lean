import BlockExtension.Shell.Ambient
import BlockExtension.Shell.Variable
import BlockExtension.Shell.Utility.Names

/-!
# Settings

What a script says of how it is to run: settings, which have letters, and
choices, which have names only. The same utility sets the positional parameters,
and shows all variables if it is asked for nothing.
-/

namespace BlockExtension.Shell.Utility

open Act

def putLines (lines : List Octets) : Act Unit := put (Octets.unlines lines)

/-! ## Settings -/

def settingNames : List (String × Char) :=
  [("errexit", 'e'), ("noglob", 'f'), ("ignoreeof", 'I'), ("interactive", 'i'),
    ("monitor", 'm'), ("noexec", 'n'), ("stdin", 's'), ("xtrace", 'x'), ("verbose", 'v'),
    ("vi", 'V'), ("emacs", 'E'), ("noclobber", 'C'), ("allexport", 'a'), ("notify", 'b'),
    ("nounset", 'u')]

def silentSettings : List String := ["privileged", "nolog", "debug"]

def extendedLetters : List Char := "abefhkmnptuvxBCEHPT".toList

def keptLetter (extended : Bool) (letter : Char) : Char :=
  if extended && letter = 'P' then 'D' else letter

def turn (letter : Char) (on : Bool) : Act Unit :=
  modifyProcess fun process =>
    let others := process.settings.filter (· ≠ letter)
    { process with settings := if on then letter :: others else others }

def settingUsage : String :=
  "set: usage: set [-abefhkmnptuvxBCEHPT] [-o option-name] [--] [-] [arg ...]"

def turnAll (on : Bool) : Octets → Act Unit
  | [] => return ()
  | c :: rest => do
      let extended ← isExtended
      let known := if extended then extendedLetters.contains c else settingNames.any (·.2 = c)
      unless known do
        let sign := if on then '-' else '+'
        if extended then
          complain ([sign, c] ++ ": invalid option".toList)
          report (settingUsage.toList ++ ['\n'])
          setStatus 2
          throw .fail
        failWith ("Illegal option ".toList ++ [sign, c]) 2
      turn (keptLetter extended c) on
      turnAll on rest

def turnNamed (on : Bool) (name : Octets) : Act Unit := do
  let extended ← isExtended
  let names := if extended then Ambient.settings else settingNames
  match names.lookup (String.ofList name) with
  | some letter => turn letter on
  | none =>
      if !extended && silentSettings.contains (String.ofList name) then return ()
      if extended then failWith (name ++ ": invalid option name".toList) 2
      let sign := if on then '-' else '+'
      failWith ("Illegal option ".toList ++ [sign, 'o', ' '] ++ name) 2

/-- A name and whether what it names is on, as a list shows them. -/
def stateLine (width : Nat) (gap : Octets) (entry : String × Bool) : Octets :=
  entry.1.toList ++ List.replicate (width - entry.1.length) ' ' ++ gap ++
    (if entry.2 then "on" else "off").toList

def settingCommand (entry : String × Bool) : Octets :=
  (if entry.2 then "set -o " else "set +o ").toList ++ entry.1.toList

def listSettings (asCommands : Bool) : Act Unit := do
  let extended ← isExtended
  let names := if extended then Ambient.settings else settingNames
  let states ← names.mapM fun (name, letter) => do return (name, ← isSet letter)
  let states := if extended then states else states ++ silentSettings.map (·, false)
  if asCommands then putLines (states.map settingCommand)
  else if extended then putLines (states.map (stateLine 15 ['\t']))
  else putLines ("Current option settings".toList :: states.map (stateLine 16 []))

/-- Takes the names that letters ask for from some words; answers with the words behind them. -/
def turnMore (on : Bool) : (count : Nat) → List Octets → Act (List Octets)
  | 0, rest => return rest
  | count + 1, name :: rest => do
      turnNamed on name
      turnMore on count rest
  | _ + 1, [] => do
      listSettings !on
      return []

/-- The options of a command that sets settings; the words behind them, if there are any. -/
def settingOptions : (fuel : Nat) → List Octets → Act (Option (List Octets))
  | 0, _ => return none
  | _, [] => return none
  | fuel + 1, word :: rest => do
      match word with
      | ['-', '-'] => return some rest
      | ['-'] =>
          turn 'x' false
          turn 'v' false
          return if rest.isEmpty then none else some rest
      | sign :: letter :: letters =>
          if sign ≠ '-' && sign ≠ '+' then return some (word :: rest)
          let on : Bool := sign = '-'
          let letters := letter :: letters
          turnAll on (letters.filter (· ≠ 'o'))
          settingOptions fuel (← turnMore on (letters.count 'o') rest)
      | word => return some (word :: rest)

/-! ## All variables -/

/-- The rest of a text in quotation marks, of which the single ones are in double ones. -/
def quotedRest : (isDouble : Bool) → Octets → Octets
  | false, [] => ['\'']
  | true, [] => ['"']
  | false, c :: rest =>
      if c = '\'' then '\'' :: '"' :: c :: quotedRest true rest else c :: quotedRest false rest
  | true, c :: rest =>
      if c = '\'' then c :: quotedRest true rest else '"' :: '\'' :: c :: quotedRest false rest

def singleQuoted (text : Octets) : Octets := '\'' :: quotedRest false text

def sortedVariables (shown : Variable → Bool) : Act (List (Octets × Variable)) := do
  let bindings := (← process).bindings.filter fun (_, entry) => shown entry
  return bindings.mergeSort fun a b => Octets.le a.1 b.1

def shownVariables (start : Octets) (shown : Variable → Bool) : Act (List Octets) := do
  return (← sortedVariables shown).map fun (name, entry) =>
    start ++ name ++ match entry.value with
      | some value => '=' :: singleQuoted (value.text?.getD [])
      | none => []

def showVariables : Act Unit := do
  let hasValue (entry : Variable) : Bool := entry.value.isSome
  if ← isExtended then
    putLines ((← sortedVariables hasValue).map fun (name, entry) => entry.shownPlainly name)
  else putLines (← shownVariables [] hasValue)

def setParameters (arguments : List Octets) : Act Nat := do
  if arguments.isEmpty then
    showVariables
    return 0
  match ← settingOptions (arguments.length + 1) arguments with
  | some positional => modifyProcess fun process => { process with positional }
  | none => pure ()
  return 0

/-! ## Choices -/

def choiceUsage : String := "shopt: usage: shopt [-pqsu] [-o] [optname ...]"

/-- Whether choices, or settings by their names, are on; none for a name that there is not. -/
def states (asSettings : Bool) (names : List Octets) : Act (List (Octets × Option Bool)) := do
  let process ← process
  return names.map fun name =>
    let text := String.ofList name
    if asSettings then
      (name, (Ambient.settings.lookup text).map process.settings.contains)
    else
      (name, (Ambient.choices.lookup text).map fun _ => process.choices.contains text)

/-- Turns a choice on or off. -/
def choose (name : String) (on : Bool) : Act Unit :=
  modifyProcess fun process =>
    let others := process.choices.filter (· ≠ name)
    { process with choices := if on then name :: others else others }

def choiceLine (asSettings asCommand : Bool) (name : Octets) (isOn : Bool) : Octets :=
  let name := String.ofList name
  if !asCommand then stateLine 15 ['\t'] (name, isOn)
  else if asSettings then settingCommand (name, isOn)
  else (if isOn then "shopt -s " else "shopt -u ").toList ++ name.toList

/-- Makes choices, or shows them. -/
def chooseAll (arguments : List Octets) : Act Nat := do
  let options := arguments.takeWhile fun word => word.head? = some '-' && word ≠ ['-', '-']
  let names := arguments.drop options.length
  let names := if names.head? = some ['-', '-'] then names.drop 1 else names
  let letters := options.flatMap (·.drop 1)
  if let some c := letters.find? fun c => !"pqsuo".toList.contains c then
    complain (['-', c] ++ ": invalid option".toList)
    report (choiceUsage.toList ++ ['\n'])
    return 2
  let asSettings := letters.contains 'o'
  let turnsOn := letters.contains 's'
  let turnsOff := letters.contains 'u'
  if turnsOn && turnsOff then
    complain "cannot set and unset shell options simultaneously".toList
    return 1
  let all := if asSettings then Ambient.settings.map (·.1) else Ambient.choices.map (·.1)
  let found ← states asSettings (if names.isEmpty then all.map String.toList else names)
  let missing := found.filter (·.2.isNone)
  missing.forM fun (name, _) =>
    complain (name ++ (if asSettings then ": invalid option name"
      else ": invalid shell option name").toList)
  let known := found.filterMap fun (name, state) => state.map (name, ·)
  if !names.isEmpty && (turnsOn || turnsOff) then
    known.forM fun (name, _) =>
      if asSettings then turnNamed turnsOn name else choose (String.ofList name) turnsOn
    return if missing.isEmpty then 0 else 1
  let shown := known.filter fun (_, isOn) =>
    !names.isEmpty || (!turnsOn && !turnsOff) || isOn = turnsOn
  unless letters.contains 'q' do
    putLines (shown.map fun (name, isOn) =>
      choiceLine asSettings (letters.contains 'p') name isOn)
  return if names.isEmpty || (missing.isEmpty && known.all (·.2)) then 0 else 1

end BlockExtension.Shell.Utility
