import BlockExtension.Shell.Ambient
import BlockExtension.Shell.Signals
import BlockExtension.Shell.Utility.Starting
import BlockExtension.Shell.Utility.Wording

/-!
# What programs run in

The programs that tell of their surroundings, and those that run others in their own.
-/

/-!
## What a program runs in

The programs that say who runs them, on what system, where and when, and one that
waits. The machine and its name are always the same ones.
-/

namespace BlockExtension.Shell.Utility.Surroundings

open Act

def userName : String := "nobody"

def groupName : String := "nogroup"

/-- Says who runs it. -/
def id : Program := fun self arguments =>
  withOptions self
      [switch "user" 'u', switch "group" 'g', switch "groups" 'G', switch "name" 'n',
        switch "real" 'r', switch "zero" 'z', switch "-a" 'a', switch "context" 'Z'] true 1
      arguments fun given => do
    if let name :: _ := given.operands then
      complainAs self (quoted name ++ ": no such user".toList)
      return 1
    let text :=
      if given.has "user" then if given.has "name" then userName else s!"{Ambient.userId}"
      else if given.has "group" || given.has "groups" then
        if given.has "name" then groupName else s!"{Ambient.userId}"
      else s!"uid={Ambient.userId}({userName}) gid={Ambient.userId}({groupName}) " ++
        s!"groups={Ambient.userId}({groupName})"
    finish (text ++ "\n").toList true

/-- Says what the user is called. -/
def whoami : Program := fun self arguments =>
  withOptions self [] true 1 arguments fun given => do
    if let extra :: _ := given.operands then return ← refuseExtra self extra
    finish (userName ++ "\n").toList true

def system : List (String × Char × String) :=
  [("kernel-name", 's', "Linux"), ("nodename", 'n', Ambient.machineName),
    ("kernel-release", 'r', "6.1.0"), ("kernel-version", 'v', "#1 SMP"),
    ("machine", 'm', "x86_64"), ("processor", 'p', "unknown"),
    ("hardware-platform", 'i', "unknown"), ("operating-system", 'o', "GNU/Linux")]

/-- Says what the system is. -/
def uname : Program := fun self arguments =>
  withOptions self
      (switch "all" 'a' :: system.map fun (word, letter, _) => switch word letter) true 1
      arguments fun given => do
    if let extra :: _ := given.operands then return ← refuseExtra self extra
    let all := given.has "all"
    let chosen := system.filter fun (word, _, text) =>
      if all then text ≠ "unknown" else given.has word
    let chosen := if chosen.isEmpty then system.take 1 else chosen
    finish (" ".intercalate (chosen.map (·.2.2)) ++ "\n").toList true

/-- Writes the moment that it is, by a format that may be given behind a plus sign. -/
def date : Program := fun self arguments =>
  withOptions self [switch "universal" 'u', ⟨"utc", none, .nothing⟩] true 1 arguments
      fun given => do
    let moment := Calendar.Moment.ofNanos (← get).now
    match given.operands with
    | [] => finish (moment.written true "%a %b %e %H:%M:%S %Z %Y".toList ++ ['\n']) true
    | ['+' :: format] => finish (moment.written true format ++ ['\n']) true
    | _ :: extra :: _ => refuseExtra self extra
    | [text] =>
        complainAs self ("invalid date ".toList ++ quoted text)
        return 1

def straightPath? : Act (Option Octets) := do
  let tree ← tree
  match ← textOf? "PWD".toList with
  | none => return none
  | some path =>
      let isStraight := path.head? = some '/' &&
        !(Octets.cutAt '/' path).any fun name => name = ['.'] || name = ['.', '.']
      let leadsHere := match tree.find (pathOf path) with
        | .ok (location, _) => location = tree.workingDirectory
        | .error _ => false
      return if isStraight && leadsHere then some path else none

/-- Writes the path of the working directory. -/
def pwd : Program := fun self arguments =>
  withOptions self [switch "logical" 'L', switch "physical" 'P'] true 1 arguments fun given => do
    unless given.operands.isEmpty do complainAs self "ignoring non-option arguments".toList
    let last := (given.options.getLast?).map (·.word)
    let logical ← if last = some "logical" then straightPath? else pure none
    finish (logical.getD (pathTo (← tree).workingDirectory) ++ ['\n']) true

/-- A time to wait in units of a nanosecond, in the notation that is understood. -/
def interval? (text : Octets) : Option Nat := do
  let last ← text.getLast?
  let scale? : Option Nat := match last with
    | 's' => some 1
    | 'm' => some 60
    | 'h' => some 3600
    | 'd' => some 86400
    | _ => none
  let number := if scale?.isSome then text.dropLast else text
  if ["infinity".toList, "inf".toList].contains number then
    return 1000000000000000000000
  let (value, rest) ← Print.realNumber? number
  unless rest.isEmpty && !value.negative do none
  return value.units * 1000000000 * scale?.getD 1 / Decimal.twoPow 1074

/-- Waits; the time that it takes is only counted. -/
def sleep : Program := fun self arguments =>
  withOptions self [] true 1 arguments fun given => do
    if given.operands.isEmpty then return ← lackOperand self "operand" none
    let bad := given.operands.filter fun text => (interval? text).isNone
    bad.forM fun text => complainAs self ("invalid time interval ".toList ++ quoted text)
    if bad.isEmpty then
      let times := given.operands.filterMap interval?
      advance (times.foldl (· + ·) 0)
      return 0
    pointToHelp self
    return 1

end BlockExtension.Shell.Utility.Surroundings

/-!
## Programs run in some other way

The programs that run another one with less time, with another rank, or without some
signals. What the other program does is mostly the same as without them.
-/

namespace BlockExtension.Shell.Utility.Running

open Act hiding pass

/-! ### Starting -/

def start (self : Octets) (launch : Launch) (words : Octets → Octets) (command : List Octets) :
    Act Ending := do
  match ← launch command with
  | .ok ending => return ending
  | .error error =>
      complainAs self (words (command.headD []) ++ (": " ++ error.wording).toList)
      return .exited (if isMissing error then 127 else 126)

/-- Ends as a command has ended. -/
def pass : Ending → Act Nat
  | .exited status => return status
  | .killed signal => throw (.killed signal)

/-- The words for a command that cannot be started. -/
def failedToRun (name : Octets) : Octets := "failed to run command ".toList ++ quoted name

/-! ### Less time -/

def signalOf (given : Invocation) : Except Octets (Nat × String) :=
  match given.value? "signal" with
  | none => .ok (15, "TERM")
  | some text =>
      match signal? text with
      | some signal => .ok signal
      | none => .error text

/-- Runs a command that is ended if it takes too long. -/
def timeout (launch : Launch) : Program := fun self arguments =>
  withOptions self
      [setting "kill-after" 'k', setting "signal" 's', ⟨"foreground", none, .nothing⟩,
        ⟨"preserve-status", none, .nothing⟩, switch "verbose" 'v'] false 125 arguments
      fun given => do
    let refuse (text : Octets) : Act Nat := do
      complainAs self text
      pointToHelp self
      return 125
    let badInterval (text : Octets) : Octets := "invalid time interval ".toList ++ quoted text
    if let some text := (given.values "kill-after").find? fun text =>
        (Surroundings.interval? text).isNone then
      return ← refuse (badInterval text)
    match signalOf given, given.operands with
    | .error text, _ => refuse (quoted text ++ ": invalid signal".toList)
    | .ok signal, limit :: name :: rest =>
        let some limit := Surroundings.interval? limit | refuse (badInterval limit)
        let run : Act Ending := start self launch failedToRun (name :: rest)
        if limit = 0 then return ← pass (← run)
        if let some ending := ← within limit run then return ← pass ending
        if given.has "verbose" then
          complainAs self (("sending signal " ++ signal.2 ++ " to command ").toList ++ quoted name)
        if signal.1 = 9 then throw (.killed 9)
        return if given.has "preserve-status" then 128 + signal.1 else 124
    | _, _ =>
        pointToHelp self
        return 125

/-! ### Another rank -/

/-- Arguments in which a bare number is the value of an option. -/
def withAdjustment : List Octets → List Octets
  | ('-' :: c :: rest) :: more =>
      let isNumber (text : Octets) : Bool := (Octets.number? text).isSome
      if isNumber (c :: rest) || ((c = '-' || c = '+') && isNumber rest) then
        ['-', 'n'] :: (c :: rest) :: withAdjustment more
      else if c :: rest = ['n'] then
        match more with
        | value :: more => ['-', 'n'] :: value :: withAdjustment more
        | [] => [['-', 'n']]
      else ('-' :: c :: rest) :: more
  | words => words

def whole? (text : Octets) : Option Int :=
  match text with
  | '-' :: digits => (Octets.number? digits).map fun n => -(n : Int)
  | '+' :: digits => (Octets.number? digits).map fun n => (n : Int)
  | digits => (Octets.number? digits).map fun n => (n : Int)

/-- Runs a command that lets others go first, or says how readily this one does. -/
def nice (launch : Launch) : Program := fun self arguments =>
  withOptions self [setting "adjustment" 'n'] false 125 (withAdjustment arguments)
      fun given => do
    let current := (← process).niceness
    match given.value? "adjustment", given.operands with
    | none, [] =>
        put (Octets.ofInt current ++ ['\n'])
        return 0
    | some text, operands =>
        match whole? text, operands with
        | none, _ =>
            complainAs self ("invalid adjustment ".toList ++ quoted text)
            return 125
        | some _, [] =>
            complainAs self "a command must be given with an adjustment".toList
            pointToHelp self
            return 125
        | some change, command => run self current change command
    | none, command => run self current 10 command
where
  /-- Runs a command with a changed rank. -/
  run (self : Octets) (current change : Int) (command : List Octets) : Act Nat := do
    if change < 0 then complainAs self "cannot set niceness: Permission denied".toList
    else modifyProcess fun process => { process with niceness := min 19 (current + change) }
    pass (← start self launch quoted command)

/-! ### Other surroundings -/

/-- Runs a command that goes on when those who have started it are gone. -/
def nohup (launch : Launch) : Program := fun self arguments =>
  withOptions self [] false 125 arguments fun given => do
    if given.operands.isEmpty then
      let _ ← lackOperand self "operand" none
      return 125
    pass (← start self launch failedToRun given.operands)

def programs (launch : Launch) : List (String × Program) :=
  [("nice", nice launch), ("nohup", nohup launch), ("timeout", timeout launch)]

end BlockExtension.Shell.Utility.Running
