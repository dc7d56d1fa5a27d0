import BlockExtension.Shell.Machine

/-!
# Processes

How processes are started from others, and how they run beside each other.
-/

/-!
## Running texts and processes of their own

How the text of a script is run, one line after the other, and how a part of a
script runs in a process of its own. What a single command does is not known
here; it comes in as a `Runner`.
-/

namespace BlockExtension.Shell

/-- A way to run a command. -/
abbrev Runner := Command → Act Unit

namespace Act

/-! ### Changes that are taken back -/

/-- Does something, and takes back what it has changed of the process, also after a jump. -/
def protect {α : Type} (restore : Process → Process) (act : Act α) : Act α := do
  let result ← attempt act
  modifyProcess restore
  match result with
  | .ok value => return value
  | .error jump => throw jump

/-- Does something whose failure is looked at, or is not, as the flag says. -/
def tested {α : Type} (flag : Bool) (act : Act α) : Act α := do
  let before := (← process).isTested
  modifyProcess fun process => { process with isTested := flag }
  protect (fun process => { process with isTested := before }) act

/-- Does something that complaints name a utility for. -/
def speakingFor {α : Type} (utility : Option Octets) (act : Act α) : Act α := do
  let before := (← process).utility
  modifyProcess fun process => { process with utility }
  protect (fun process => { process with utility := before }) act

def atLine (line : Nat) : Act Unit :=
  modifyProcess fun process => { process with line := process.lineAt line }

/-! ### Texts -/

def extendedMessage (text : Octets) (error : SyntaxError) : List Octets :=
  match error.problem with
  | .unexpected .endOfInput _ => ["syntax error: unexpected end of file".toList]
  | .unexpected found _ =>
      let line := ((Octets.cutAt '\n' text)[error.line - 1]?).getD []
      ["syntax error near unexpected token \x60".toList ++ Octets.ofText found.text ++ ['\''],
        '\x60' :: line ++ ['\'']]
  | .unterminatedQuotation mark =>
      ["unexpected EOF while looking for matching \x60".toList ++ [mark, '\'']]
  | .unclosedOutput => ["unexpected EOF while looking for matching \x60)'".toList]
  | .unclosedBackquote => ["unexpected EOF while looking for matching \x60\x60'".toList]
  | .unclosedBrace => ["unexpected EOF while looking for matching \x60\x7d'".toList]
  | .unclosedArithmetic => ["unexpected EOF while looking for matching \x60)'".toList]
  | problem => [Octets.ofText problem.message]

/-- The line that the shell with extensions finds an error in: a line end is part of its line. -/
def extendedLine (error : SyntaxError) : Nat :=
  match error.problem with
  | .unexpected .newline _ => error.line - 1
  | _ => error.line

/-- Gives up a text that cannot be read; a label says where it comes from. -/
def refuseText (label text : Octets) (error : SyntaxError) : Act Unit := do
  setStatus 2
  if ← isExtended then
    let error := { error with line := extendedLine error }
    modifyProcess fun process => { process with line := process.lineAt error.line }
    let process ← process
    let start := process.file ++ ": ".toList ++ label ++ "line ".toList ++
      Octets.ofNat process.line ++ ": ".toList
    (extendedMessage text error).forM fun message => report (start ++ message ++ ['\n'])
    throw .unreadable
  modifyProcess fun process => { process with line := error.line }
  complain ("Syntax error: ".toList ++ Octets.ofText error.problem.message)
  throw .fail

/--
Runs the commands of a line. One that is given up does not keep the next line
from running, except in a process that only runs a part of the script.
-/
def runLine (runner : Runner) (command : Command) : Act Unit := do
  match ← attempt (runner command) with
  | .error .discard =>
      let process ← process
      if process.status = 0 then setStatus 1
      if process.id ≠ process.scriptId then throw .discard
  | .error jump => throw jump
  | .ok () => return ()

def warnOfDocuments (unended : List (Nat × Awaited)) : Act Unit := do
  if ← isExtended then
    unended.forM fun (line, awaited) => do
      let process ← process
      report (process.file ++ ": line ".toList ++ Octets.ofNat (process.lineAt line) ++
        ": warning: here-document at line ".toList ++
        Octets.ofNat (process.lineAt awaited.line) ++
        " delimited by end-of-file (wanted \x60".toList ++ awaited.delimiter ++ "')\n".toList)

/--
Runs the commands of a text from where reading has come to. If there are none at
all, that is a success.
-/
def runFrom (runner : Runner) (label text : Octets) :
    (fuel : Nat) → (hasRun : Bool) → Source → Act Unit
  | 0, _, _ => return ()
  | fuel + 1, hasRun, source => do
      let process ← process
      let source := { source with
        documents := (← get).documents
        aliases := if process.dialect = .extended then [] else process.aliases
        groups := process.choices.contains "extglob"
        dialect := process.dialect
        unended := [] }
      match Reader.nextLine.run source with
      | .error error =>
          if ← isSet 'v' then
            let lines := (Octets.lines source.rest).take (error.line + 1 - source.line)
            report (Octets.unlines lines)
          refuseText label text error
      | .ok (found, after) =>
          modify fun machine => { machine with documents := after.documents }
          modifyProcess fun process => { process with readerLine := after.line }
          warnOfDocuments after.unended
          if ← isSet 'v' then
            report (source.rest.take (source.rest.length - after.rest.length))
          match found with
          | none => unless hasRun do setStatus 0
          | some .nothing => runFrom runner label text fuel hasRun after
          | some command =>
              unless ← isSet 'n' do runLine runner command
              runFrom runner label text fuel true after

/-- Runs the commands of a text; a label says where it comes from if it cannot be read. -/
def runLabelled (runner : Runner) (label text : Octets) : Act Unit := do
  let before ← process
  let source : Source :=
    ⟨before.dialect, text, 1, none, [], #[], [], [], false, false, false, false, []⟩
  protect (fun process => { process with readerLine := before.readerLine })
    (runFrom runner label text (text.length + 2) false source)

def runText (runner : Runner) (text : Octets) : Act Unit := runLabelled runner [] text

/-! ### Signals -/

def handleSignal (runner : Runner) (signal : String) : Act Bool := do
  match (← process).traps.lookup signal with
  | none => return false
  | some action =>
      let status ← status
      unless action.isEmpty do runText runner action
      setStatus status
      return true

/-- Lets a signal do what it does to the process. -/
def deliver (runner : Runner) (signal : Nat × String) : Act Unit := do
  if isHarmless signal.1 then return ()
  if signal.1 ≠ 9 && (← handleSignal runner signal.2) then return ()
  throw (.killed signal.1)

/-- The signals that a shell speaks of when a process that it has waited for ends by them. -/
def signalWords : List (Nat × String) :=
  [(1, "Hangup"), (3, "Quit"), (4, "Illegal instruction"), (5, "Trace/breakpoint trap"),
    (6, "Aborted"), (7, "Bus error"), (8, "Floating point exception"), (9, "Killed"),
    (10, "User defined signal 1"), (11, "Segmentation fault"), (12, "User defined signal 2"),
    (14, "Alarm clock"), (15, "Terminated"), (16, "Stack fault"), (24, "CPU time limit exceeded"),
    (25, "File size limit exceeded"), (26, "Virtual timer expired"),
    (27, "Profiling timer expired"), (29, "I/O possible"), (30, "Power failure"),
    (31, "Bad system call")]

/-- Says by which signal a process has ended, if that is worth a word. -/
def speakOf (ending : Ending) : Act Unit := do
  if let .killed signal := ending then
    if let some words := signalWords.lookup signal then
      unless ← isExtended do report (words.toList ++ ['\n'])

/-! ### Processes -/

/-- Does something to its end, and then what a process is to do at its end. -/
def toEnd (runner : Runner) (act : Act Unit) : Act Ending := do
  match ← attempt act with
  | .error (.killed signal) => return .killed signal
  | .error .overdue => throw .overdue
  | _ =>
      match (← process).traps.lookup "EXIT" with
      | none => return .exited ((← status) % 256)
      | some action =>
          let status ← status
          modifyProcess fun process =>
            { process with traps := Association.erase process.traps "EXIT" }
          match ← attempt (runText runner action) with
          | .error (.killed signal) => return .killed signal
          | .error .overdue => throw .overdue
          | .error .quit => return .exited ((← Act.status) % 256)
          | _ => return .exited (status % 256)

/-- What is done for a signal or an event is also done in a process of its own. -/
def staysBehind (settings : List Char) (entry : String × Octets) : Bool :=
  entry.2.isEmpty || (entry.1 = "ERR" && settings.contains 'E') ||
    ((entry.1 = "DEBUG" || entry.1 = "RETURN") && settings.contains 'T')

/-! ### Events -/

/-- Does for an event what the script has asked for; in functions only if a setting is on. -/
def atEvent (runner : Runner) (event : String) (letter : Char) : Act Unit := do
  let before ← process
  match before.traps.lookup event with
  | none => return ()
  | some action =>
      if action.isEmpty || (0 < before.calls && !before.settings.contains letter) then return ()
      modifyProcess fun process =>
        { process with
          traps := Association.erase process.traps event
          lineOffset := (before.line : Int) - 1 }
      let result ← attempt (runText runner action)
      modifyProcess fun process =>
        { process with
          traps := if (process.traps.lookup event).isSome then process.traps
            else Association.put process.traps event action
          lineOffset := before.lineOffset
          line := before.line
          status := before.status }
      match result with
      | .ok () => return ()
      | .error jump => throw jump

/-!
## Processes beside each other

How processes run beside the one that has started them, though they are gone
through one after the other. Each has a time of its own, and what they write on
channels is put in the order of these times.

A process that nobody waits for yet is only noted down. It is gone through when
the time has come at which it has ended, when somebody waits for it, or when all
others have ended. To find out whether it has ended by now it is gone through up
to that time, and all of that is taken back if it has not.
-/

/-! ### Costs -/

def forkTime : Nat := 100000

def wakeTime : Nat := 300000

def loadTime : Nat := 500000

def roundTime : Nat := 10000

/-! ### Jobs -/

/-- Goes through a process that has been noted down, from its start to its end. -/
def runJob (runner : Runner) (job : Job) : Act Unit := do
  let outer ← process
  let standing ← standing
  let clock := (← get).elapsed
  modify fun machine =>
    { machine with
      jobs := machine.jobs.filter fun other => other.process.id ≠ job.process.id
      elapsed := job.start }
  backTo job.process job.standing
  let ending ← toEnd runner do
    advance 0
    tested false (runner job.body)
  let stop := (← get).elapsed
  backTo outer standing
  modify fun machine =>
    { machine with
      elapsed := clock
      endings := (job.process.id, ending, stop) :: machine.endings }

def noted (machine : Machine) (job : Job) (due : Nat) : Machine :=
  { machine with
    jobs := machine.jobs.map fun other =>
      if other.process.id = job.process.id then { other with due } else other }

def isNoted (machine : Machine) (id : Nat) : Bool :=
  machine.jobs.any fun job => job.process.id = id

/-- Goes through a process if it has ended by now. -/
def trial (run : Job → Act Unit) (job : Job) : Act Unit := fun before =>
  match run job { before with limit := some before.elapsed } with
  | (.ok (), after) => (.ok (), { after with limit := before.limit })
  | (.error .overdue, after) => (.ok (), noted before job after.elapsed)
  | (.error jump, after) => (.error jump, { after with limit := before.limit })

/-- Goes through the processes that have ended by now. -/
def catchUp (runner : Runner) : Act Unit := do
  let machine ← get
  (machine.jobs.filter (·.due ≤ machine.elapsed)).forM fun job => do
    if isNoted (← get) job.process.id then trial (runJob runner) job

def pass (runner : Runner) (nanos : Nat) : Act Unit := do
  advance nanos
  catchUp runner

/-- How many processes one can wait for in a row. -/
def jobLimit : Nat := 100000

/-- Goes through the processes from a number on, and those that they start. -/
def finishFrom (runner : Runner) (first : Nat) : (fuel : Nat) → Act Unit
  | 0 => return ()
  | fuel + 1 => do
      match (← get).jobs.find? fun job => first ≤ job.process.id with
      | none => return ()
      | some job =>
          runJob runner job
          finishFrom runner first fuel

/-! ### Signals -/

/-- Lets the signals do what they do that the process has been sent up to now. -/
def settle (runner : Runner) : Act Unit := do
  catchUp runner
  let machine ← get
  let id := machine.process.id
  let (own, others) := machine.pending.partition fun sent =>
    sent.goal = id && sent.time ≤ machine.elapsed
  set { machine with pending := others }
  own.forM fun sent => do
    let isTrapped := ((← process).traps.lookup sent.signal.2).isSome
    unless isTrapped || isHarmless sent.signal.1 do
      modify fun machine => { machine with elapsed := min machine.elapsed sent.time }
    deliver runner sent.signal

/-! ### Processes -/

/--
Goes on as a process of its own. Signals that are ignored stay so; nothing else
of what is to be done for signals is kept.
-/
def beginSubshell : Act Unit := do
  beginProcess
  modifyProcess fun process =>
    { process with
      traps := process.traps.filter (staysBehind process.settings)
      loops := if process.dialect = .extended then 0 else process.loops }

/-- Does something in a process of its own, and tells how that ends. -/
def inSubshell (runner : Runner) (act : Act Unit) : Act Ending := do
  pass runner wakeTime
  let outer ← process
  let standing ← standing
  beginSubshell
  let ending ← toEnd runner act
  backTo outer standing
  return ending

/-- Does something in a process of its own, and waits for it; tells its status. -/
def waitedFor (runner : Runner) (act : Act Unit) : Act Nat := do
  let ending ← inSubshell runner act
  let machine ← get
  modifyProcess fun process => { process with lastWait := machine.elapsed }
  settle runner
  speakOf ending
  return ending.status

/-- Does something from an earlier time on; the time then is that of what has taken longest. -/
def beside {α : Type} (start : Nat) (act : Act α) : Act α := do
  let clock := (← get).elapsed
  modify fun machine => { machine with elapsed := start }
  let value ← act
  modify fun machine => { machine with elapsed := max clock machine.elapsed }
  return value

def startBeside (runner : Runner) (body : Command) : Act Unit := do
  let start := (← get).elapsed + wakeTime
  let outer ← process
  let standing ← standing
  beginSubshell
  connect 0 (some (← newChannel (.device .null)))
  modifyProcess fun process => { process with givesWay := true }
  let job : Job := ⟨← process, standing, body, start, start⟩
  backTo outer standing
  modify fun machine => { machine with jobs := machine.jobs ++ [job] }
  modifyProcess fun process => { process with children := job.process.id :: process.children }
  pass runner forkTime

/-- What something writes in a process of its own. -/
def captured (runner : Runner) (act : Act Unit) : Act Octets := do
  let place ← newChannel .fresh
  let first := (← get).nextId
  let status ← waitedFor runner do
    connect 1 (some place)
    tested false act
  finishFrom runner first jobLimit
  modifyProcess fun process => { process with outputStatus := status }
  let machine ← get
  let content := (machine.channels[place]?.map fun channel => channel.pending machine.tree)
  return Octets.ofBytes (content.getD .empty)

end Act

end BlockExtension.Shell
