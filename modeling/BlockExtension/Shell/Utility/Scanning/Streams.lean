import BlockExtension.Shell.Utility.Scanning.Store
import BlockExtension.Shell.Utility.Scanning.Tokens
import BlockExtension.Shell.Utility.Starting

/-!
# What a scanner program reads and writes

A program keeps what it reads from and writes to under the names that it uses for
them. What it writes waits until a command is started, or until the end. Commands
that it writes to run once they have been closed.
-/

namespace BlockExtension.Shell.Utility.Scanning.Run

/-! ## Writing -/

def flushOutput : Run Unit := do
  let output := (← get).output
  unless output.isEmpty do
    modify fun scanner => { scanner with output := [] }
    Act.put output.reverse.flatten

def flushWriter (writer : Writer) : Run Writer := do
  match writer.goal with
  | .file place =>
      if let some error := ← Act.writeAt place writer.waiting.reverse.flatten then
        fail ("close failed on file \"".toList ++ writer.name ++ "\" (".toList ++
          error.wording.toList ++ [')'])
      return { writer with waiting := [] }
  | _ => return writer

/-- Writes all that waits, but for what goes to commands. -/
def flush : Run Unit := do
  let writers ← (← get).writers.mapM flushWriter
  modify fun scanner => { scanner with writers }
  flushOutput

def addWaiting (name text : Octets) : List Writer → List Writer
  | [] => []
  | writer :: rest =>
      if writer.name = name then { writer with waiting := text :: writer.waiting } :: rest
      else writer :: addWaiting name text rest

def openWriter (name : Octets) (isCommand appends : Bool) : Run Goal := do
  if isCommand then
    flush
    return .command
  if name = ['-'] || name = "/dev/stdout".toList then return .output
  if name = "/dev/stderr".toList then return .errors
  match ← Act.openPath name (if appends then .append else .write) with
  | .ok place => return .file place
  | .error error =>
      fail ("cannot open \"".toList ++ name ++ "\" for output (".toList ++
        error.wording.toList ++ [')'])

def writeTo (name : Octets) (isCommand appends : Bool) (text : Octets) : Run Unit := do
  let known := (← get).writers.find? fun writer =>
    writer.name = name && (writer.goal = .command) = isCommand
  let goal ← match known with
    | some writer => pure writer.goal
    | none => do
        let goal ← openWriter name isCommand appends
        modify fun scanner => { scanner with writers := ⟨name, goal, []⟩ :: scanner.writers }
        pure goal
  match goal with
  | .output => modify fun scanner => { scanner with output := text :: scanner.output }
  | .errors => Act.report text
  | _ =>
      modify fun scanner => { scanner with writers := addWaiting name text scanner.writers }

def write (text : Octets) : Run Unit :=
  modify fun scanner => { scanner with output := text :: scanner.output }

/-! ## Commands -/

def numberOf : Except Files.OsError Ending → Nat
  | .ok (.exited status) => status
  | .ok (.killed signal) => 256 + signal
  | .error _ => 127

/-- Runs a command and collects what it writes. -/
def outputOf (launch : Launch) (command : Octets) : Run (Octets × Nat) := do
  flush
  let (text, ending) ← collected launch ["/bin/sh".toList, "-c".toList, command]
  return (text, numberOf ending)

/-- Runs a command that reads a text. -/
def feed (launch : Launch) (command text : Octets) : Run Nat := do
  let place ← Act.newChannel (.ofContent (Octets.toBytes text))
  return numberOf
    (← redirected 0 place (launch ["/bin/sh".toList, "-c".toList, command]))

/-- Runs a command with what the program itself reads and writes. -/
def system (launch : Launch) (command : Octets) : Run Nat := do
  flush
  return numberOf (← (launch ["sh".toList, "-c".toList, command] : Act _))

/-! ## Closing -/

def closeWriter (launch : Launch) (writer : Writer) : Run Nat := do
  match writer.goal with
  | .command => feed launch writer.name writer.waiting.reverse.flatten
  | .output => do
      flushOutput
      return 0
  | _ => do
      let _ ← flushWriter writer
      return 0

/-- Ends all reading and writing under a name, and tells what came of it, if there was any. -/
def close (launch : Launch) (name : Octets) : Run (Option Nat) := do
  let (closing, writers) := (← get).writers.partition (·.name = name)
  modify fun scanner => { scanner with writers }
  let results ← closing.mapM (closeWriter launch)
  let (reading, readers) := (← get).readers.partition (·.name = name)
  modify fun scanner => { scanner with readers }
  return (results ++ reading.map (·.status)).getLast?

/-- Ends all writing. -/
def closeAll (launch : Launch) : Run Unit := do
  let writers := (← get).writers
  modify fun scanner => { scanner with writers := [] }
  let (commands, files) := writers.partition (·.goal = .command)
  files.forM fun writer => do
    let _ ← flushWriter writer
  commands.forM fun writer => do
    let _ ← closeWriter launch writer
  flushOutput

/-! ## Reading -/

def contentOf (name : Octets) : Run (Except Files.OsError Octets) := do
  let content ← if name = ['-'] || name = "/dev/stdin".toList then Act.readAll 0
    else do
      match ← Act.readPath name with
      | .ok content => pure (.ok (Octets.ofBytes content))
      | .error error => pure (.error error)
  if let .error .isDirectory := content then fail "read error (Is a directory)".toList
  return content

/-- What is read from under a name; nothing if it cannot be opened. -/
def reader? (launch : Launch) (name : Octets) (isCommand : Bool) : Run (Option Reader) := do
  let known := (← get).readers.find? fun reader =>
    reader.name = name && reader.isCommand = isCommand
  if let some reader := known then return some reader
  let opened ← if isCommand then do
      let (content, status) ← outputOf launch name
      pure (some (Reader.mk name true content status))
    else do
      match ← contentOf name with
      | .ok content => pure (some (Reader.mk name false content 0))
      | .error _ => pure none
  if let some reader := opened then
    modify fun scanner => { scanner with readers := reader :: scanner.readers }
  return opened

/-- What comes of asking for a record. -/
inductive Asked where
  | record (text : Octets)
  | ended
  | failed

def recordFrom (launch : Launch) (name : Octets) (isCommand : Bool) : Run Asked := do
  match ← reader? launch name isCommand with
  | none => return .failed
  | some reader =>
      let (asked, rest) := match (← recordEnd).first? reader.rest with
        | some (record, rest) => (Asked.record record, rest)
        | none => (.ended, [])
      modify fun scanner =>
        { scanner with
          readers := scanner.readers.map fun other =>
            if other.name = name && other.isCommand = isCommand then { other with rest }
            else other }
      return asked

/-! ## Inputs that records come from -/

def assignment? (operand : Octets) : Option (Octets × Octets) :=
  let name := operand.takeWhile (· ≠ '=')
  if name.length < operand.length && Octets.isName name then
    some (name, meant (operand.drop (name.length + 1)))
  else none

def openNext : (fuel : Nat) → Run Bool
  | 0 => return false
  | fuel + 1 => do
      let scanner ← get
      let count := wholeWithin 0 1000000 (← kept "ARGC").toNumber
      if count.toNat ≤ scanner.operand then
        if scanner.hasRead then return false
        modify fun scanner => { scanner with hasRead := true }
        takeFrom ['-']
      else
        modify fun scanner => { scanner with operand := scanner.operand + 1 }
        let arguments ← table (← tableAt (.global "ARGV".toList))
        let key := Key.whole scanner.operand
        let operand ← textOf (arguments.value key)
        if operand.isEmpty then openNext fuel
        else
          match assignment? operand with
          | some (name, value) =>
              assign (.global name) (.input value)
              openNext fuel
          | none =>
              modify fun scanner => { scanner with hasRead := true }
              takeFrom operand
where
  takeFrom (name : Octets) : Run Bool := do
    match ← contentOf name with
    | .ok content =>
        modify fun scanner => { scanner with main := some content }
        keep "FILENAME" (.text name)
        keep "FNR" (.number 0.0)
        return true
    | .error error =>
        fail ("cannot open \"".toList ++ name ++ "\" (".toList ++ error.wording.toList ++ [')'])

def nextMain? : (fuel : Nat) → Run (Option Octets)
  | 0 => return none
  | fuel + 1 => do
      let scanner ← get
      if scanner.isOver then return none
      match scanner.main with
      | none =>
          if ← openNext 100000 then nextMain? fuel
          else
            modify fun scanner => { scanner with isOver := true }
            return none
      | some input =>
          match (← recordEnd).first? input with
          | some (record, rest) =>
              modify fun scanner => { scanner with main := some rest }
              return some record
          | none =>
              modify fun scanner => { scanner with main := none }
              nextMain? fuel

def count (name : String) : Run Unit := do
  keep name (.number ((← kept name).toNumber + 1.0))

/-- The next record of the inputs, which is counted. -/
def takeMain? : Run (Option Octets) := do
  match ← nextMain? 1000000 with
  | none => return none
  | some record => do
      count "NR"
      count "FNR"
      return some record

end BlockExtension.Shell.Utility.Scanning.Run
