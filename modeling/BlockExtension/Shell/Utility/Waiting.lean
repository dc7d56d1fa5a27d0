import BlockExtension.Shell.Jobs
import BlockExtension.Shell.Utility.Settings

/-!
# Waiting for processes

The utilities of the shell that are about the processes that a script has
started beside it: they wait for them, list them and send them signals.

A process is named by its number, or by a percent sign and the place that it has
among those that have been started. One that has ended is known until the shell
has come to know of it, which it does when it waits for anything.
-/

namespace BlockExtension.Shell.Utility.Waiting

open Act hiding pass

/-! ## Which process -/

/-- How a process beside this one has ended by now, and when. -/
def endingOf? (id : Nat) : Act (Option (Ending × Nat)) := do
  let machine ← get
  return (machine.endings.lookup id).filter fun ending => ending.2 ≤ machine.elapsed

/-- A process has ended, and that is known already: the standard shell must have waited. -/
def isGone (id : Nat) : Act Bool := do
  let machine ← get
  let known := if ← isExtended then machine.elapsed else machine.process.lastWait
  return (machine.endings.lookup id).all fun ending => ending.2 ≤ known

/-- The processes that have been started and not been waited for, the last one first. -/
def current : Act (List Nat) := do
  let process ← process
  return process.children.filter (!process.reaped.contains ·)

/-- The process that a word behind a percent sign stands for. -/
def jobNamed? (word : Octets) : Act (Option Nat) := do
  let children := (← process).children
  let here ← current
  match word with
  | [] => return here[0]?
  | ['%'] => return here[0]?
  | ['+'] => return here[0]?
  | ['-'] => return here[1]?
  | word =>
      match Octets.number? word with
      | some n => return if n = 0 then none else (children.reverse[n - 1]?).filter here.contains
      | none => return none

/-! ## Signals -/

def signalOptions (arguments : List Octets) : Act (Option ((Nat × String) × List Octets)) := do
  let extended ← isExtended
  let usual := (15, "TERM")
  let named (name : Octets) : Option (Nat × String) :=
    if extended then signal? name else bareSignal? name
  match arguments with
  | ['-', 's'] :: [] =>
      if extended then
        complain "-s: option requires an argument".toList
        return none
      failWith "No arg for -s option".toList 2
  | ['-', letter] :: name :: rest =>
      if letter = 's' || (letter = 'n' && extended) then
        match named name with
        | some signal => return some (signal, rest)
        | none =>
            if extended then failWith (name ++ ": invalid signal specification".toList) 1
            failWith ("invalid signal number or name: ".toList ++ name) 2
      match named [letter] with
      | some signal => return some (signal, name :: rest)
      | none =>
          if letter = '-' then return some (usual, name :: rest)
          if extended then failWith ([letter] ++ ": invalid signal specification".toList) 1
          failWith ("Illegal option -".toList ++ [letter]) 2
  | ('-' :: c :: name) :: rest =>
      match named (c :: name) with
      | some signal => return some (signal, rest)
      | none =>
          if c :: name = ['-'] then return some (usual, rest)
          if extended then
            failWith (c :: name ++ ": invalid signal specification".toList) 1
          if c = 's' then
            failWith ("invalid signal number or name: ".toList ++ name) 2
          failWith ("Illegal option -".toList ++ [c]) 2
  | rest => return some (usual, rest)

/-- Sends a signal to a process that is not the one that runs; false if there is none. -/
def sendAway (id : Nat) (signal : Nat × String) : Act Bool := do
  let machine ← get
  let sent : Machine :=
    { machine with pending := machine.pending ++ [⟨id, machine.elapsed, signal⟩] }
  if machine.process.ancestors.contains id then
    set sent
    return true
  if isNoted machine id then
    let hurried (job : Job) : Job :=
      if job.process.id = id then { job with due := min job.due machine.elapsed } else job
    set { sent with jobs := machine.jobs.map hurried }
    return true
  return !(← isGone id)

def sendTo (runner : Runner) (signal : Nat × String) : List Octets → Act Nat
  | [] => return 0
  | target :: rest => do
      let extended ← isExtended
      let missing (text : Octets) : Act Nat := do
        complain text
        let _ ← sendTo runner signal rest
        return 1
      let reach (id : Nat) : Act Nat := do
        if id = (← process).id || id = 0 then
          deliver runner signal
          sendTo runner signal rest
        else if ← sendAway id signal then
          settle runner
          sendTo runner signal rest
        else if extended then
          missing ("(".toList ++ Octets.ofNat id ++ ") - No such process".toList)
        else missing "No such process\n".toList
      match target with
      | '%' :: word =>
          match ← jobNamed? word with
          | none =>
              if extended then missing (target ++ ": no such job".toList)
              else failWith ("No such job: ".toList ++ target) 2
          | some id =>
              if extended then reach id else missing "No such process\n".toList
      | target =>
          let digits := if target.head? = some '-' then target.drop 1 else target
          match Octets.number? digits with
          | some id => reach id
          | none =>
              if !extended then failWith ("Illegal number: ".toList ++ digits) 2
              if target.isEmpty then missing "\x60': not a pid or valid job spec".toList
              else missing (target ++ ": arguments must be process or job IDs".toList)

def tableCell (signal : Nat × String) : Octets :=
  Octets.padLeft 2 (Octets.ofNat signal.1) ++ ") SIG".toList ++ signal.2.toList

def tableLines (cells : List Octets) : (fuel : Nat) → List Octets
  | 0 => []
  | fuel + 1 =>
      if cells.isEmpty then []
      else
        let line := Octets.joined ['\t'] (cells.take 5)
        (if cells.length < 5 then line ++ ['\t'] else line) :: tableLines (cells.drop 5) fuel

def showSignals : Act Nat := do
  if ← isExtended then
    let cells := (signals.drop 1).map tableCell
    putLines (tableLines cells cells.length)
  else
    let name (n : Nat) : Octets :=
      ((bareSignals.lookup n).map String.toList).getD (Octets.ofNat n)
    putLines (['0'] :: (List.range 64).map fun n => name (n + 1))
  return 0

def nameSignals : List Octets → Act Nat
  | [] => return 0
  | word :: rest => do
      let extended ← isExtended
      let number := Octets.number? word
      let found := number.bind fun n => signals.lookup (if 128 < n then n - 128 else n)
      let shown : Option Octets := match found, number with
        | some name, some n => if n = 0 && !extended then none else some name.toList
        | _, some _ => none
        | _, none =>
            if extended then (signal? word).map fun signal => Octets.ofNat signal.1 else none
      match shown with
      | some text =>
          putLines [text]
          if extended then nameSignals rest else return 0
      | none =>
          if extended then
            complain (word ++ ": invalid signal specification".toList)
            let _ ← nameSignals rest
            return 1
          if number.isNone then failWith ("Illegal number: ".toList ++ word) 2
          failWith ("invalid signal number or exit status: ".toList ++ word) 2

def sendTime : Nat := 1000

/-- Sends signals, or shows which ones there are. -/
def kill (runner : Runner) (arguments : List Octets) : Act Nat := do
  Act.pass runner sendTime
  let refuse : Act Nat := do
    if ← isExtended then
      report ("kill: usage: kill [-s sigspec | -n signum | -sigspec] pid | jobspec ... " ++
        "or kill -l [sigspec]\n").toList
      return 2
    failWith ("Usage: kill [-s sigspec | -signum | -sigspec] [pid | job]... or\n" ++
      "kill -l [exitstatus]").toList 2
  let isList (word : Octets) : Bool := word = ['-', 'l'] || word = ['-', 'L']
  match arguments with
  | first :: words =>
      if isList first && (first = ['-', 'l'] || (← isExtended)) then
        return ← if words.isEmpty then showSignals else nameSignals words
      let some (signal, targets) ← signalOptions arguments | return 1
      if targets.isEmpty then return ← refuse
      sendTo runner signal targets
  | [] => refuse

/-! ## Waiting -/

def reap (id : Nat) : Act Unit :=
  modifyProcess fun process => { process with reaped := id :: process.reaped }

/--
Waits for processes to end. A signal that something is to be done for ends that
early; then its number is told.
-/
def awaitAll (runner : Runner) (ids : List Nat) : Act (Option Nat) := do
  ids.forM fun id => do
    if let some job := (← get).jobs.find? fun job => job.process.id = id then
      runJob runner job
  let machine ← get
  let stops := ids.filterMap fun id => (machine.endings.lookup id).map (·.2)
  let stop := stops.foldl max machine.elapsed
  let extended ← isExtended
  let interrupting := machine.pending.find? fun sent =>
    sent.goal = machine.process.id && (if extended then sent.time ≤ stop else sent.time < stop) &&
      ((machine.process.traps.lookup sent.signal.2).any fun action => !action.isEmpty)
  match interrupting with
  | some sent =>
      advance (sent.time - machine.elapsed)
      settle runner
      return some sent.signal.1
  | none =>
      advance (stop - machine.elapsed)
      settle runner
      return none

/-- Waits for a process, and tells how it has ended. -/
def awaitOne (runner : Runner) (id : Nat) : Act Nat := do
  match ← awaitAll runner [id] with
  | some signal => return 128 + signal
  | none =>
      if ← isExtended then reap id
      match ← endingOf? id with
      | some (ending, stop) =>
          if (← process).lastWait < stop then speakOf ending
          modifyProcess fun process => { process with lastWait := max process.lastWait stop }
          return ending.status
      | none => return 127

/-- Waits for the first of some processes to end; tells its number and how that was. -/
def awaitFirst (runner : Runner) (ids : List Nat) : Act (Option Nat × Nat) := do
  let known ← current
  let ids := (if ids.isEmpty then known.reverse else ids).filter known.contains
  ids.forM fun id => do
    if let some job := (← get).jobs.find? fun job => job.process.id = id then
      runJob runner job
  let machine ← get
  let found := ids.filterMap fun id => (machine.endings.lookup id).map fun ending => (id, ending)
  match found.mergeSort fun a b => a.2.2 ≤ b.2.2 with
  | [] => return (none, 127)
  | (id, _) :: _ => return (some id, ← awaitOne runner id)

/-- The options of waiting: for the first to end, and the variable for its number. -/
structure Options where
  first : Bool
  variableName : Option Octets
  operands : List Octets

/-- The options among words; none if there is one that there is not. -/
def optionsOf? : (fuel : Nat) → Options → Act (Option Options)
  | 0, options => return some options
  | fuel + 1, options => do
      match options.operands with
      | ['-', '-'] :: rest => return some { options with operands := rest }
      | ('-' :: c :: more) :: rest =>
          let onward := if more.isEmpty then rest else ('-' :: more) :: rest
          if !(← isExtended) then failWith ("Illegal option -".toList ++ [c]) 2
          match c with
          | 'n' => optionsOf? fuel { options with first := true, operands := onward }
          | 'f' => optionsOf? fuel { options with operands := onward }
          | 'p' =>
              match if more.isEmpty then rest else more :: rest with
              | name :: rest =>
                  optionsOf? fuel { options with variableName := some name, operands := rest }
              | [] =>
                  complain "-p: option requires an argument".toList
                  return none
          | c =>
              complain (['-', c] ++ ": invalid option".toList)
              report "wait: usage: wait [-fn] [-p var] [id ...]\n".toList
              return none
      | _ => return some options

def awaitNamed (runner : Runner) : (last : Nat) → List Octets → Act (Option Nat × Nat)
  | last, [] => return (none, last)
  | _, word :: rest => do
      let extended ← isExtended
      let found (id : Nat) : Act (Option Nat × Nat) := do
        let status ← awaitOne runner id
        if rest.isEmpty then return (some id, status)
        awaitNamed runner status rest
      match word with
      | '%' :: name =>
          match ← jobNamed? name with
          | some id => found id
          | none =>
              if !extended then
                failWith ((if name = ['-'] then "No previous job" else
                  "No such job: " ++ String.ofList word).toList) 2
              complain (word ++ ": no such job".toList)
              awaitNamed runner 127 rest
      | word =>
          match Octets.number? word with
          | none =>
              if !extended then failWith ("Illegal number: ".toList ++ word) 2
              complain ("\x60".toList ++ word ++ "': not a pid or valid job spec".toList)
              awaitNamed runner 1 rest
          | some id =>
              if (← process).children.contains id then return ← found id
              if extended then
                complain ("pid ".toList ++ word ++ " is not a child of this shell".toList)
              awaitNamed runner 127 rest

def wait (runner : Runner) (arguments : List Octets) : Act Nat := do
  let some options ← optionsOf? (arguments.length + 1) ⟨false, none, arguments⟩ | return 2
  let (id, status) ←
    if options.first then
      let ids ← options.operands.filterMapM fun word => do
        match word with
        | '%' :: name => jobNamed? name
        | word => pure (Octets.number? word)
      awaitFirst runner ids
    else if options.operands.isEmpty then
      let ids := (← process).children.reverse
      let interrupting ← awaitAll runner ids
      let machine ← get
      let endings := ids.filterMap fun id => (machine.endings.lookup id).map (·.2)
      if interrupting.isNone then
        modifyProcess fun process =>
          { process with
            lastWait := max process.lastWait (endings.foldl max 0)
            children := if process.dialect = .extended then [] else process.children }
      pure (none, (interrupting.map (128 + ·)).getD 0)
    else awaitNamed runner 0 options.operands
  if let some name := options.variableName then
    if let some id := id then assignText name (Octets.ofNat id)
  return status

/-! ## Listing -/

/-- How a process is, in a word. -/
def condition (id : Nat) : Act Octets := do
  match ← endingOf? id with
  | none => return "Running".toList
  | some (.exited 0, _) => return "Done".toList
  | some (.exited n, _) => return "Done(".toList ++ Octets.ofNat n ++ [')']
  | some (.killed signal, _) =>
      return ((signalWords.lookup signal).getD "Interrupt").toList

/-- Shows the processes that have been started. -/
def jobs (runner : Runner) (arguments : List Octets) : Act Nat := do
  settle runner
  let extended ← isExtended
  let letters := (arguments.filter (·.head? = some '-')).flatMap (·.drop 1)
  let children := (← process).children
  let known ← current
  if letters.contains 'p' then
    putLines (known.map Octets.ofNat)
    return 0
  unless extended do putLines (← shownFrom children 0 known)
  let ended ← known.filterM fun id => return (← endingOf? id).isSome
  ended.forM reap
  return 0
where
  /-- The lines for processes; `place` tells how many before them are still there. -/
  shownFrom (children : List Nat) : (place : Nat) → List Nat → Act (List Octets)
    | _, [] => return []
    | place, id :: rest => do
        let state ← condition id
        let number := Octets.ofNat (children.length - (children.idxOf? id).getD 0)
        let mark := match place with
          | 0 => '+'
          | 1 => '-'
          | _ => ' '
        let shown := '[' :: number ++ [']', ' ', mark, ' '] ++ state
        let place := if (← endingOf? id).isSome then place else place + 1
        return (shown ++ List.replicate (33 - shown.length) ' ') ::
          (← shownFrom children place rest)

/-- Complains that there is nothing to go on with. -/
def refuseJob (arguments : List Octets) : Act Nat := do
  if ← isExtended then failWith "no job control".toList 1
  if (← current).isEmpty then failWith "No current job".toList 2
  let name := (arguments.head?).getD "(null)".toList
  failWith ("job ".toList ++ name ++ " not created under job control".toList) 2

end BlockExtension.Shell.Utility.Waiting
