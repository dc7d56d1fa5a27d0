import BlockExtension.Shell.Channel
import BlockExtension.Shell.Reader.Grammar
import BlockExtension.Shell.Signals
import BlockExtension.Shell.Variable

/-!
# The state of a run

A run of a script changes two things: what all processes share, that is files
and channels, and what each process has of its own, that is descriptors,
variables, and the place in the script. A part of a script that runs in a
process of its own starts with a copy of the second and hands nothing of it
back.

A run is a state monad with jumps: a command may leave a loop, a function or the
script, and whatever is around it says where the jump ends.
-/

namespace BlockExtension.Shell

/-! ## State -/

/-- A function of the script: its body, and the line that it starts in. -/
structure Function where
  line : Nat
  /-- The lines before the text that it stands in. -/
  offset : Int
  body : Command

/-- A function that is running: its name, and the file and the line that it was called from. -/
structure Caller where
  name : Octets
  file : Octets
  line : Nat
  deriving DecidableEq, Repr

/-- How a process ends. -/
inductive Ending where
  | exited (status : Nat)
  | killed (signal : Nat)
  deriving DecidableEq, Repr

def Ending.status : Ending → Nat
  | .exited status => status
  | .killed signal => 128 + signal

/-- Where a program has been found that was looked for. -/
structure Located where
  name : Octets
  path : Octets
  /-- How often it has been run. -/
  uses : Nat
  /-- The working directory has changed since. -/
  isStale : Bool
  deriving DecidableEq, Repr

/-- What a process has of its own. -/
structure Process where
  /-- The number of the process. -/
  id : Nat
  scriptId : Nat
  /-- The numbers of the processes that wait for this one. -/
  ancestors : List Nat
  dialect : Dialect
  name : Octets
  file : Octets
  utility : Option Octets
  positional : List Octets
  bindings : Variables
  functions : List (Octets × Function)
  /-- The names that stand for other texts at the start of a command. -/
  aliases : List (Octets × Octets)
  /-- Where programs have been found. -/
  whereabouts : List Located
  /-- For each function that is running, the variables that it hides. -/
  hidden : List (List (Octets × Option Variable))
  settings : List Char
  traps : List (String × Octets)
  descriptors : List (Nat × Nat)
  mask : Nat
  status : Nat
  outputStatus : Nat
  line : Nat
  readerLine : Nat
  lineOffset : Int
  loops : Nat
  /-- How many functions, and files with commands, are running. -/
  bodies : Nat
  /-- How many functions are running. -/
  calls : Nat
  /-- A failure of the command is looked at, so it does not end the script. -/
  isTested : Bool
  /-- The processes started beside this one, the last one first. -/
  children : List Nat
  /-- Those that are no longer kept in mind. -/
  reaped : List Nat
  /-- The time up to which the process knows which others have ended. -/
  lastWait : Nat
  /-- The command is all that the process is for, so that a program may take its place. -/
  givesWay : Bool
  optionOffset : Nat
  outputLoss : Option Files.OsError
  /-- How readily the process lets others go first. -/
  niceness : Int
  choices : List String
  /-- How the commands of the last pipeline ended. -/
  stageStatuses : List Nat
  /-- The functions that are running, the innermost first. -/
  callers : List Caller
  directoryPath : Octets
  directories : List Octets
  /-- The descriptors that commands in words are read from or written to. -/
  passages : List Nat
  readers : List (Nat × Command)
  lastWord : Octets
  /-- The number that the next random number is made of. -/
  seed : Nat
  shownCommand : Octets
  /-- How deep the command is in commands in words and in texts that are run. -/
  nesting : Nat

def Process.lineAt (process : Process) (line : Nat) : Nat := (process.lineOffset + line).toNat

/-- Where a process stands: in a directory that is found again after others were moved. -/
structure Standing where
  place : Files.Location
  moves : Nat
  deriving DecidableEq, Repr

/-- A signal on its way. -/
structure Sent where
  /-- The process that it is for. -/
  goal : Nat
  time : Nat
  signal : Nat × String
  deriving DecidableEq, Repr

/-- A process beside others that has been started but not been gone through. -/
structure Job where
  process : Process
  standing : Standing
  body : Command
  start : Nat
  /-- The time before which it does not end. -/
  due : Nat

/-- What all processes share, and the process that is running. -/
structure Machine where
  tree : Files.Tree
  channels : Array Channel
  documents : Array Word
  nextId : Nat
  pending : List Sent
  /-- The processes that are still to be gone through, in the order of their start. -/
  jobs : List Job
  /-- How processes beside others have ended, and when. -/
  endings : List (Nat × Ending × Nat)
  /-- The time of the running process since everything started, in units of a nanosecond. -/
  elapsed : Nat
  /-- The time beyond which nothing is to be done yet. -/
  limit : Option Nat
  moves : List (Files.Location × Files.Location)
  /-- When files were written last that were written since then, or are said to have been. -/
  times : List (Files.Location × Int)
  process : Process

/-- Why a command did not run to its end. -/
inductive Jump where
  /-- Out of this many loops. -/
  | leave (levels : Nat)
  /-- To the next round of the loop this many levels up. -/
  | resume (levels : Nat)
  /-- Out of the function. -/
  | back
  /-- Out of the script. -/
  | quit
  /-- Out of the script, since something in it is wrong. -/
  | fail
  /-- Out of the line of the script, since something in it is wrong. -/
  | discard
  /-- Out of a text that cannot be read. -/
  | unreadable
  /-- Out of the process, by a signal. -/
  | killed (signal : Nat)
  /-- Out of everything that is done up to a limit of time. -/
  | overdue
  deriving DecidableEq, Repr

/-- A step of a run. -/
abbrev Act := ExceptT Jump (StateM Machine)

namespace Machine

def startingTime : Nat := 1700000000

/-- The time that it is, in units of a nanosecond from the start of 1970. -/
def now (machine : Machine) : Nat := startingTime * 1000000000 + machine.elapsed

/-- When the file at a location was written last. -/
def timeOf (machine : Machine) (location : Files.Location) : Int :=
  (machine.times.lookup location).getD (startingTime * 1000000000 : Nat)

/-- The machine after the files at some locations were last written at a time. -/
def dated (machine : Machine) (time : Int) (locations : List Files.Location) : Machine :=
  let names := locations.flatMap machine.tree.namesOf
  { machine with
    times := names.foldl (fun times name => Association.put times name time) machine.times }

/-- The machine after the files at some locations have been written. -/
def touched (machine : Machine) (locations : List Files.Location) : Machine :=
  machine.dated machine.now locations

/-- The directory that a process stands in. -/
def placeOf (machine : Machine) (standing : Standing) : Files.Location :=
  (machine.moves.take (machine.moves.length - standing.moves)).foldr
    (fun (source, goal) place =>
      match Files.Tree.behind? source place with
      | some rest => goal ++ rest
      | none => place) standing.place

/-- The entries of a list behind those that it has in common with the start of another one. -/
def entriesBehind : (before after : List (Files.Location × Files.Entry)) →
    List (Files.Location × Files.Entry)
  | (a, entry) :: before, (b, other) :: after =>
      if a = b ∧ entry = other then entriesBehind before after else (b, other) :: after
  | _, after => after

/-- The machine with other files, of which those are new that were not there before. -/
def withTree (machine : Machine) (tree : Files.Tree) : Machine :=
  let changed := (entriesBehind machine.tree.entries tree.entries).filter fun (place, entry) =>
    match entry, machine.tree.get? place with
    | .file content _, some (.file before _) => content.data ≠ before.data
    | _, some _ => false
    | _, none => true
  let machine := { machine with tree }
  if changed.isEmpty then machine else machine.touched (changed.map (·.1))

end Machine

namespace Act

def process : Act Process := return (← get).process

def modifyProcess (change : Process → Process) : Act Unit :=
  modify fun machine => { machine with process := change machine.process }

def tree : Act Files.Tree := return (← get).tree

def setStatus (status : Nat) : Act Unit :=
  modifyProcess fun process => { process with status }

def status : Act Nat := return (← process).status

def isSet (letter : Char) : Act Bool := return (← process).settings.contains letter

def isExtended : Act Bool := return (← process).dialect = .extended

/-- Lets a step jump, and tells what came of it. -/
def attempt {α : Type} (act : Act α) : Act (Except Jump α) := fun machine =>
  let (result, machine) := act machine
  (.ok result, machine)

/-! ## Processes -/

def beginProcess : Act Unit := do
  let id := (← get).nextId
  modify fun machine => { machine with nextId := id + 1 }
  modifyProcess fun process =>
    { process with
      id
      ancestors := process.id :: process.ancestors
      givesWay := false
      children := []
      reaped := [] }

def standing : Act Standing := do
  let machine ← get
  return ⟨machine.tree.workingDirectory, machine.moves.length⟩

/-- Makes a process the one that is running. -/
def backTo (outer : Process) (standing : Standing) : Act Unit :=
  modify fun machine =>
    { machine with
      process := outer
      tree := { machine.tree with workingDirectory := machine.placeOf standing } }

/-! ## Time -/

def deadlySignal? (time : Nat) : Act (Option Sent) := do
  let machine ← get
  let traps := machine.process.traps
  return (machine.pending.filter fun sent =>
    sent.goal = machine.process.id && sent.time ≤ time && !isHarmless sent.signal.1 &&
      (sent.signal.1 = 9 || (traps.lookup sent.signal.2).isNone)).head?

/--
Lets time pass. A process that a signal is on its way to ends at the time of the
signal, unless there is something to be done for it.
-/
def advance (nanos : Nat) : Act Unit := do
  let machine ← get
  let later := machine.elapsed + nanos
  let deadly ← deadlySignal? later
  let stop := (deadly.map fun sent => max machine.elapsed sent.time).getD later
  set { machine with elapsed := stop }
  if machine.limit.any (· < stop) then throw .overdue
  if let some sent := deadly then
    modify fun machine => { machine with pending := machine.pending.erase sent }
    throw (.killed sent.signal.1)

/--
Does something for at most so long; none if it takes longer, which it does not do
to its end then.
-/
def within {α : Type} (nanos : Nat) (act : Act α) : Act (Option α) := do
  let before ← get
  let standing ← standing
  let own := before.elapsed + nanos
  if before.limit.any (· ≤ own) then return some (← act)
  set { before with limit := some own }
  let result ← attempt act
  modify fun machine => { machine with limit := before.limit }
  match result with
  | .ok value => return some value
  | .error .overdue =>
      backTo before.process standing
      modify fun machine => { machine with elapsed := own }
      return none
  | .error jump => throw jump

/-! ## Channels -/

def newChannel (channel : Channel) : Act Nat := do
  let machine ← get
  set { machine with channels := machine.channels.push channel }
  return machine.channels.size

def channelOf? (descriptor : Nat) : Act (Option (Nat × Channel)) := do
  let machine ← get
  return do
    let place ← machine.process.descriptors.lookup descriptor
    return (place, ← machine.channels[place]?)

/-- Writes octets to a channel; tells why they cannot be written there. -/
def writeAt (place : Nat) (octets : Octets) : Act (Option Files.OsError) := do
  let machine ← get
  match machine.channels[place]? with
  | none => return some .badDescriptor
  | some channel =>
      match channel.write machine.tree machine.elapsed (Octets.toBytes octets) with
      | .error error => return some error
      | .ok (tree, after) =>
          let written := match channel with
            | .file location .. => [location]
            | _ => []
          set { machine.touched written with
            tree, channels := machine.channels.setIfInBounds place after }
          return none

/-- Writes octets to a descriptor; tells why they cannot be written there if there are any. -/
def write (descriptor : Nat) (octets : Octets) : Act (Option Files.OsError) := do
  if octets.isEmpty then return none
  match ← channelOf? descriptor with
  | none => return some .badDescriptor
  | some (place, _) => writeAt place octets

/-- Writes octets to the standard output. -/
def put (octets : Octets) : Act Unit := do
  if let some error := ← write 1 octets then
    modifyProcess fun process => { process with outputLoss := some error }

def report (octets : Octets) : Act Unit := do
  let _ ← write 2 octets

def readBy (descriptor : Nat) (count : ByteArray → Nat) : Act (Except Files.OsError Octets) := do
  match ← channelOf? descriptor with
  | none => return .error .badDescriptor
  | some (place, channel) =>
      let machine ← get
      match channel.readError? machine.tree with
      | some error => return .error error
      | none =>
          let pending := channel.pending machine.tree
          let taken := min (count pending) pending.size
          set { machine with
            elapsed := max machine.elapsed (channel.readyTime taken)
            channels := machine.channels.setIfInBounds place (channel.advanced taken) }
          return .ok (Octets.ofBytes (pending.extract 0 taken))

def readAll (descriptor : Nat) : Act (Except Files.OsError Octets) :=
  readBy descriptor ByteArray.size

def readLine (descriptor : Nat) : Act (Except Files.OsError Octets) :=
  readBy descriptor fun pending =>
    match pending.data.idxOf? 10 with
    | some place => place + 1
    | none => pending.size

def pathOf (octets : Octets) : String := Octets.toText octets

def newMode : Act Nat := return 0o666 &&& (0o777 ^^^ (← process).mask)

def descriptorAt? (path : Octets) : Option Nat :=
  match String.ofList path with
  | "/dev/stdin" => some 0
  | "/dev/stdout" => some 1
  | "/dev/stderr" => some 2
  | _ =>
      ((Octets.behind? "/dev/fd/".toList path).orElse fun _ =>
        Octets.behind? "/proc/self/fd/".toList path).bind Octets.number?

def pathTo (location : Files.Location) : Octets :=
  Octets.ofText ("/" ++ "/".intercalate location)

/-- The content of what a path names, read from its start, or what is left on a channel. -/
def readPath (path : Octets) : Act (Except Files.OsError ByteArray) := do
  let tree ← tree
  match descriptorAt? path with
  | none => return tree.readFile (pathOf path)
  | some descriptor =>
      match ← channelOf? descriptor with
      | none => return .error .notFound
      | some (_, .file location ..) => return tree.readFile (pathOf (pathTo location))
      | some _ => do
          match ← readAll descriptor with
          | .ok octets => return .ok (Octets.toBytes octets)
          | .error error => return .error error

def openFile (path : Octets) (access : Access) : Act (Except Files.OsError Nat) := do
  let tree ← tree
  let path := pathOf path
  let mode ← newMode
  let opened (empties reads appends : Bool) : Act (Except Files.OsError Nat) := do
    match tree.openToWrite path mode empties with
    | .error error => return .error error
    | .ok (_, .device device) => return .ok (← newChannel (.device device))
    | .ok (tree, .file location) =>
        modify (·.withTree tree)
        if empties then modify (·.touched [location])
        return .ok (← newChannel (.file location 0 reads true appends))
  match access with
  | .read =>
      match tree.find path with
      | .error error => return .error error
      | .ok (location, entry) =>
          if !entry.isReadable then return .error .permissionDenied
          match entry with
          | .device .terminal => return .error .noDevice
          | .device device =>
              let channel := if device.isEndless then .ofContent device.content
                else .device device
              return .ok (← newChannel channel)
          | _ => return .ok (← newChannel (.file location 0 true false false))
  | .write => opened true false false
  | .overwrite => opened true false false
  | .append => opened false false true
  | .both => opened false true false

/-- Opens a path; one that names a descriptor leads to what the descriptor leads to. -/
def openPath (path : Octets) (access : Access) : Act (Except Files.OsError Nat) := do
  match descriptorAt? path with
  | none => openFile path access
  | some descriptor =>
      match ← channelOf? descriptor with
      | none => return .error .notFound
      | some (_, .file location ..) => openFile (pathTo location) access
      | some (place, _) => return .ok place

/-- Makes a descriptor lead to a channel, or nowhere. -/
def connect (descriptor : Nat) (place : Option Nat) : Act Unit :=
  modifyProcess fun process =>
    let others := process.descriptors.filter (·.1 ≠ descriptor)
    { process with
      descriptors := match place with
        | some place => (descriptor, place) :: others
        | none => others }

/-! ## Files -/

/-- Changes the files there are; what a channel leads to stays the same. -/
def changeTree (change : Files.Tree → Except Files.OsError Files.Tree) :
    Act (Option Files.OsError) := do
  let machine ← get
  match change machine.tree with
  | .error error => return some error
  | .ok tree =>
      let lost := machine.tree.entries.filterMap fun (location, _) =>
        if (tree.get? location).isNone then some location else none
      let channels := machine.channels.map fun channel =>
        lost.foldl (fun channel location => channel.detached machine.tree tree location) channel
      let times := machine.times.filter fun entry => !lost.contains entry.1
      set ({ machine with channels, times }.withTree tree)
      return none

/-- Moves what one path names to another path; what a channel leads to stays the same. -/
def moveEntry (source target : String) : Act (Option Files.OsError) := do
  let machine ← get
  match machine.tree.rename source target, machine.tree.findToMove source,
      machine.tree.target target with
  | .ok tree, .ok (place, _), .ok (.name directory name _) =>
      let goal := directory ++ [name]
      if (machine.tree.namesOf place).contains goal then return none
      let channels := machine.channels.map fun channel =>
        (channel.detached machine.tree (machine.tree.erase goal) goal).relocated place goal
      let kept := machine.times.filter fun entry => !Files.Tree.isWithin entry.1 goal
      let times := kept.map fun (location, time) =>
        (match Files.Tree.behind? place location with
          | some rest => goal ++ rest
          | none => location, time)
      set { machine with tree, channels, times, moves := (place, goal) :: machine.moves }
      return none
  | .error error, _, _ => return some error
  | _, _, _ => return some .busy

/-! ## Variables -/

def variableOf? (name : Octets) : Act (Option Variable) :=
  return (← process).bindings.lookup name

def pathName : Octets := "PATH".toList

def putVariable (name : Octets) (new : Option Variable) : Act Unit :=
  modifyProcess fun process =>
    let isMoved := name = pathName &&
      (process.bindings.lookup name).bind (·.value) ≠ new.bind (·.value)
    { process with
      whereabouts := if isMoved then [] else process.whereabouts
      bindings := match new with
        | some new => Association.put process.bindings name new
        | none => Association.erase process.bindings name }

def referenceLimit : Nat := 8

/-- What a name stands for behind the variables that refer to others: a name, or an element. -/
def referent : (fuel : Nat) → Octets → Act Octets
  | 0, name => return name
  | fuel + 1, name => do
      match ← variableOf? name with
      | some entry =>
          match entry.refers, entry.value with
          | true, some (.single target) =>
              if target.isEmpty then return name else referent fuel target
          | _, _ => return name
      | none => return name

def elementOf (name : Octets) : Octets × Option Octets :=
  match name.span (· ≠ '[') with
  | (base, '[' :: index) => (base, some index.dropLast)
  | (base, _) => (base, none)

/-- The variable that a name stands for, and the place in it, if there is one. -/
def target (name : Octets) : Act (Octets × Option Octets) :=
  return elementOf (← referent referenceLimit name)

def value? (name : Octets) : Act (Option Value) := do
  let (name, index) ← target name
  let value := (← variableOf? name).bind (·.value)
  match value, index with
  | some (.row row), some index =>
      return ((Octets.number? index).bind fun n => row.lookup n).map .single
  | some (.table table), some index => return (table.lookup index).map .single
  | value, _ => return value

/-- The kind of value that a variable holds or will hold. -/
def shapeOf (name : Octets) : Act Shape := do
  let (name, _) ← target name
  return ((← variableOf? name).map (·.shape)).getD .single

def textOf? (name : Octets) : Act (Option Octets) := return (← value? name).bind Value.text?

def isChosen (name : String) : Act Bool := return (← process).choices.contains name

def separators : Act Octets := return (← textOf? "IFS".toList).getD [' ', '\t', '\n']

/-! ## Complaints -/

def complaintStart : Act Octets := do
  let process ← process
  let line := Octets.ofNat process.line
  let place := if process.dialect = .extended then "line ".toList ++ line else line
  let utility := match process.utility with
    | some utility => utility ++ [':', ' ']
    | none => []
  let name := if process.dialect = .extended then process.file else process.name
  return name ++ [':', ' '] ++ place ++ [':', ' '] ++ utility

def complain (text : Octets) : Act Unit := do
  report ((← complaintStart) ++ text ++ ['\n'])

/-- Says that something is wrong, and gives up the script or, with extensions, the line. -/
def discardWith {α : Type} (text : Octets) (status : Nat) : Act α := do
  complain text
  setStatus status
  throw (if ← isExtended then .discard else .fail)

/-- Says that something is wrong, and gives up the script. -/
def failWith {α : Type} (text : Octets) (status : Nat) : Act α := do
  complain text
  setStatus status
  throw .fail

/-- Gives up, since a variable keeps its value. -/
def refuseFixed {α : Type} (name : Octets) : Act α := do
  if ← isExtended then discardWith (name ++ ": readonly variable".toList) 1
  failWith (name ++ ": is read only".toList) 2

/-- Gives a variable a value, whatever it holds so far. -/
def store (name : Octets) (known : Option Variable) (value : Value) : Act Unit := do
  let entry := known.getD .blank
  let exported := entry.exported || (← isSet 'a')
  putVariable name (some { entry with
    value := some (if entry.recasing.isNone then value else value.map entry.cased)
    exported
    shape := value.shape })

/-- Gives a variable a value, unless its value is fixed. -/
def assign (name : Octets) (value : Value) : Act Unit := do
  let (name, _) ← target name
  let known ← variableOf? name
  if known.any (·.isFixed) then refuseFixed name
  store name known value

def placed (shape : Shape) (value : Option Value) (index text : Octets) : Value :=
  match shape, value with
  | .table, some (.table entries) => .table (entries.keyed index text)
  | .table, _ => .table (Table.keyed index text [])
  | _, value =>
      let row := (value.map Value.toRow).getD []
      .row (row.numbered ((Octets.number? index).getD 0) text)

def assignText (name text : Octets) : Act Unit := do
  let (name, index) ← target name
  let known ← variableOf? name
  if known.any (·.isFixed) then refuseFixed name
  let shape := (known.map (·.shape)).getD .single
  match index, known.bind (·.value), shape with
  | some index, value, shape => store name known (placed shape value index text)
  | none, some value, _ => store name known (value.withText text)
  | none, none, .single => store name known (.single text)
  | none, none, .row => store name known (.row [(0, text)])
  | none, none, .table => store name known (.table [(['0'], text)])

end Act

end BlockExtension.Shell
